import Embedding.Proofs.ContextRuns
import Embedding.Proofs.Conversions
import Embedding.Proofs.NoThrow
import Embedding.Proofs.Raising

namespace Embedding

open Guest

namespace Guest

namespace Act

variable {α β : Type} {e : Engine} {m m' : Machine} {log : List Exchange}

theorem reaches_bind {x : Act α} {f : α → Act β} {z : Except Cut β} : ((x >>= f) e m).Reaches log z m' ↔
    (∃ l₁ l₂ a m₁, log = l₁ ++ l₂ ∧ (x e m).Reaches l₁ (.ok a) m₁ ∧ (f a e m₁).Reaches l₂ z m') ∨
      ∃ cut, z = .error cut ∧ (x e m).Reaches log (.error cut) m' :=
  Run.reaches_andThen

/-- What is done with what has been made ready for a call, and what comes behind it. -/
def calledWith {ε : Type} (h : Handle) (g : HostFn) (f : Option (Except ε (Except String Native)) → Act β) (e : Engine) :
    Except ε (List Native) → Machine → Run β
  | .error err, m => .ask (.dropCall ⟨h, g⟩) m fun _ => f (some (.error err)) e m
  | .ok args, m => .call ⟨h, g⟩ args m.mended fun reply => f (some (.ok reply)) e m.mended

theorem reaches_callHost_bind {ε : Type} {h : Handle} {prepare : Act (Except ε (List Native))}
    {f : Option (Except ε (Except String Native)) → Act β} {z : Except Cut β} :
    ((callHost h prepare >>= f) e m).Reaches log z m' ↔
      (∃ l, log = .asked (.beginCall h) none :: l ∧ (f none e m).Reaches l z m') ∨
      ∃ g l, log = .asked (.beginCall h) (some g) :: l ∧
        ((∃ args l₁ m₁ reply l₂, l = l₁ ++ .called ⟨h, g⟩ args reply :: l₂ ∧ (prepare e m).Reaches l₁ (.ok (.ok args)) m₁ ∧
            (f (some (.ok reply)) e m₁.mended).Reaches l₂ z m') ∨
          (∃ err l₁ m₁ l₂, l = l₁ ++ .asked (.dropCall ⟨h, g⟩) () :: l₂ ∧ (prepare e m).Reaches l₁ (.ok (.error err)) m₁ ∧
            (f (some (.error err)) e m₁).Reaches l₂ z m') ∨
          ∃ cut, z = .error cut ∧ (prepare e m).Reaches l (.error cut) m') := by
  have hrun : (callHost h prepare >>= f) e m = .ask (.beginCall h) m fun found =>
      found.elim (f none e m) fun g => (prepare e m).andThen (calledWith h g f e) := by
    refine congrArg (Run.ask _ m) (funext fun found => ?_)
    cases found with
    | none => rfl
    | some g =>
      refine (Run.andThen_assoc _ _ _).trans (congrArg (prepare e m).andThen (funext₂ fun made m => ?_))
      cases made <;> rfl
  rw [hrun, Run.reaches_ask]
  constructor
  · rintro ⟨_ | g, l, rfl, hrest⟩
    · exact .inl ⟨l, rfl, hrest⟩
    · refine .inr ⟨g, l, rfl, ?_⟩
      rcases Run.reaches_andThen.mp hrest with ⟨l₁, l₂, err | args, m₁, rfl, hprepare, hmake⟩ | ⟨cut, rfl, hcut⟩
      · obtain ⟨_, l₂, rfl, hbehind⟩ := Run.reaches_ask.mp hmake
        exact .inr (.inl ⟨err, l₁, m₁, l₂, rfl, hprepare, hbehind⟩)
      · obtain ⟨reply, l₂, rfl, hbehind⟩ := Run.reaches_call.mp hmake
        exact .inl ⟨args, l₁, m₁, reply, l₂, rfl, hprepare, hbehind⟩
      · exact .inr (.inr ⟨cut, rfl, hcut⟩)
  · rintro (⟨l, rfl, hrest⟩ | ⟨g, l, rfl, hrest⟩)
    · exact ⟨none, l, rfl, hrest⟩
    · refine ⟨some g, l, rfl, Run.reaches_andThen.mpr ?_⟩
      rcases hrest with ⟨args, l₁, m₁, reply, l₂, rfl, hprepare, hrest⟩ | ⟨err, l₁, m₁, l₂, rfl, hprepare, hrest⟩ |
        ⟨cut, rfl, hcut⟩
      · exact .inl ⟨l₁, _, .ok args, m₁, rfl, hprepare, Run.reaches_call.mpr ⟨reply, l₂, rfl, hrest⟩⟩
      · exact .inl ⟨l₁, _, .error err, m₁, rfl, hprepare, Run.reaches_ask.mpr ⟨(), l₂, rfl, hrest⟩⟩
      · exact .inr ⟨cut, rfl, hcut⟩

end Act

namespace Bridge

/-- The text for a handle that finds no function. -/
def absentText (h : Handle) : String := "host callback #" ++ toString h.index ++ " is no longer registered"

/-- How a call of a host function goes: what it has to do with the context and the host, what comes of it, and what the
machine is then. The function that is called, if one is, is the one that has been found for the handle. -/
inductive Dispatch (e : Engine) (h : Handle) (args : List Value) (m : Machine) :
    List Exchange → Except Cut Value → Machine → Prop where
  | absent {l : List Exchange} {z : Except Cut Value} {m' : Machine}
      (hraise : (raiseMessage (absentText h) e m).Reaches l z m') :
      Dispatch e h args m (.asked (.beginCall h) none :: l) z m'
  | unconverted {f : HostFn} {err : Error} {l₁ l₂ : List Exchange} {z : Except Cut Value} {m₁ m' : Machine}
      (hfails : FailsAt toNative e m args l₁ (.error err) m₁) (hraise : (raiseMessage err.message e m₁).Reaches l₂ z m') :
      Dispatch e h args m (.asked (.beginCall h) (some f) :: (l₁ ++ .asked (.dropCall ⟨h, f⟩) () :: l₂)) z m'
  | stopped {f : HostFn} {why : Stop} {l : List Exchange} {m' : Machine}
      (hfails : FailsAt toNative e m args l (.cut (.stopped why)) m') :
      Dispatch e h args m (.asked (.beginCall h) (some f) :: l) (.error (.stopped why)) m'
  | failed {f : HostFn} {natives : List Native} {message : String} {l₁ l₂ : List Exchange} {z : Except Cut Value}
      {m₁ m' : Machine} (hturn : InTurn toNative e m args l₁ natives m₁)
      (hraise : (raiseMessage message e m₁.mended).Reaches l₂ z m') :
      Dispatch e h args m (.asked (.beginCall h) (some f) :: (l₁ ++ .called ⟨h, f⟩ natives (.error message) :: l₂)) z m'
  | answered {f : HostFn} {natives : List Native} {result : Native} {v : Value} {l₁ l₂ : List Exchange} {m₁ m' : Machine}
      (hturn : InTurn toNative e m args l₁ natives m₁)
      (hresult : (ofNative result).Reaches e m₁.mended l₂ (.ok v) m') :
      Dispatch e h args m (.asked (.beginCall h) (some f) :: (l₁ ++ .called ⟨h, f⟩ natives (.ok result) :: l₂)) (.ok v) m'
  | unanswered {f : HostFn} {natives : List Native} {result : Native} {err : Error} {l₁ l₂ l₃ : List Exchange}
      {z : Except Cut Value} {m₁ m₂ m' : Machine} (hturn : InTurn toNative e m args l₁ natives m₁)
      (hresult : (ofNative result).Reaches e m₁.mended l₂ (.error (.error err)) m₂)
      (hraise : (raiseMessage err.message e m₂).Reaches l₃ z m') :
      Dispatch e h args m (.asked (.beginCall h) (some f) :: (l₁ ++ .called ⟨h, f⟩ natives (.ok result) :: (l₂ ++ l₃))) z m'
  | unfinished {f : HostFn} {natives : List Native} {result : Native} {why : Stop} {l₁ l₂ : List Exchange} {m₁ m' : Machine}
      (hturn : InTurn toNative e m args l₁ natives m₁)
      (hresult : (ofNative result).Reaches e m₁.mended l₂ (.error (.cut (.stopped why))) m') :
      Dispatch e h args m (.asked (.beginCall h) (some f) :: (l₁ ++ .called ⟨h, f⟩ natives (.ok result) :: l₂))
        (.error (.stopped why)) m'

section Law

variable {e : Engine} {h : Handle} {args : List Value} {m m' : Machine} {log : List Exchange} {z : Except Cut Value}

theorem reaches_orThrow {x : Bridge Value} (hx : x.Quiet) : (orThrow x e m).Reaches log z m' ↔
    (∃ v, z = .ok v ∧ x.Reaches e m log (.ok v) m') ∨
    (∃ err l₁ l₂ m₁, log = l₁ ++ l₂ ∧ x.Reaches e m l₁ (.error (.error err)) m₁ ∧
      (raiseMessage err.message e m₁).Reaches l₂ z m') ∨
    ∃ why, z = .error (.stopped why) ∧ x.Reaches e m log (.error (.cut (.stopped why))) m' := by
  refine Act.reaches_bind.trans ?_
  constructor
  · rintro (⟨l₁, l₂, err | v, m₁, rfl, hrun, hrest⟩ | ⟨v | why, rfl, hcut⟩)
    · exact .inr (.inl ⟨err, l₁, l₂, m₁, rfl, hrun, hrest⟩)
    · obtain ⟨rfl, rfl, rfl⟩ := Run.reaches_done.mp hrest
      exact .inl ⟨v, rfl, by rwa [List.append_nil]⟩
    · exact absurd hcut hx.not_reaches
    · exact .inr (.inr ⟨why, rfl, hcut⟩)
  · rintro (⟨v, rfl, hrun⟩ | ⟨err, l₁, l₂, m₁, rfl, hrun, hraise⟩ | ⟨why, rfl, hcut⟩)
    · exact .inl ⟨log, [], .ok v, m', (List.append_nil log).symm, hrun, .done⟩
    · exact .inl ⟨l₁, l₂, .error err, m₁, rfl, hrun, hraise⟩
    · exact .inr ⟨_, rfl, hcut⟩

theorem reaches_callHost : (callHost h args e m).Reaches log z m' ↔ Dispatch e h args m log z m' := by
  refine Act.reaches_callHost_bind.trans ?_
  constructor
  · rintro (⟨l, rfl, hraise⟩ | ⟨f, l, rfl, ⟨natives, l₁, m₁, message | result, l₂, rfl, hturn, hrest⟩ |
      ⟨err, l₁, m₁, l₂, rfl, hfails, hraise⟩ | ⟨v | why, rfl, hcut⟩⟩)
    · exact .absent hraise
    · exact .failed (reaches_mapM_ok.mp hturn) hrest
    · rcases (reaches_orThrow (quiet_ofNative result)).mp hrest with ⟨v, rfl, hgiven⟩ |
        ⟨err, l₃, l₄, m₂, rfl, hrefused, hraise⟩ | ⟨why, rfl, hstopped⟩
      · exact .answered (reaches_mapM_ok.mp hturn) hgiven
      · exact .unanswered (reaches_mapM_ok.mp hturn) hrefused hraise
      · exact .unfinished (reaches_mapM_ok.mp hturn) hstopped
    · exact .unconverted (reaches_mapM_error.mp hfails) hraise
    · exact absurd hcut (Quiet.mapM quiet_toNative).not_reaches
    · exact .stopped (reaches_mapM_error.mp hcut)
  · intro hway
    cases hway with
    | absent hraise => exact .inl ⟨_, rfl, hraise⟩
    | unconverted hfails hraise =>
      exact .inr ⟨_, _, rfl, .inr (.inl ⟨_, _, _, _, rfl, reaches_mapM_error.mpr hfails, hraise⟩)⟩
    | stopped hfails => exact .inr ⟨_, _, rfl, .inr (.inr ⟨_, rfl, reaches_mapM_error.mpr hfails⟩)⟩
    | failed hturn hraise =>
      exact .inr ⟨_, _, rfl, .inl ⟨_, _, _, .error _, _, rfl, reaches_mapM_ok.mpr hturn, hraise⟩⟩
    | answered hturn hresult =>
      exact .inr ⟨_, _, rfl, .inl ⟨_, _, _, .ok _, _, rfl, reaches_mapM_ok.mpr hturn,
        (reaches_orThrow (quiet_ofNative _)).mpr (.inl ⟨_, rfl, hresult⟩)⟩⟩
    | unanswered hturn hresult hraise =>
      exact .inr ⟨_, _, rfl, .inl ⟨_, _, _, .ok _, _, rfl, reaches_mapM_ok.mpr hturn,
        (reaches_orThrow (quiet_ofNative _)).mpr (.inr (.inl ⟨_, _, _, _, rfl, hresult, hraise⟩))⟩⟩
    | unfinished hturn hresult =>
      exact .inr ⟨_, _, rfl, .inl ⟨_, _, _, .ok _, _, rfl, reaches_mapM_ok.mpr hturn,
        (reaches_orThrow (quiet_ofNative _)).mpr (.inr (.inr ⟨_, rfl, hresult⟩))⟩⟩

end Law

end Bridge

/-- The guest function of a handle calls the function of the host, and holds on to itself and the arguments meanwhile. -/
theorem Act.call_host {n : Nat} {m : Machine} {o : ObjectId} {x : Object} {h : Handle} (hx : m.objects[o]? = some x)
    (hpayload : x.payload = .host h) (this : Value) (args : List Value) :
    (Engine.ofLevel (n + 1)).call (.object o) this args m =
      (Bridge.callHost h args (Engine.ofLevel n) (m.rooted (.object o :: args))).leaving
        fun m' => { m' with roots := m.roots } := by
  show (object o >>= _) (Engine.ofLevel n) m = _
  rw [run_bind_of_done (run_object hx), hpayload]
  rfl

end Guest

theorem ContextState.Granted.get?_eq_some {s s' : ContextState} {grants : List Lease} {fs : List HostFn} {g : Handle}
    {f : HostFn} (h : s.Granted grants fs s') (hf : s.registry.get? g = some f) : s'.registry.get? g = some f := by
  rw [h.others g, hf]
  intro hmem
  obtain ⟨l, hl, rfl⟩ := List.mem_map.mp hmem
  obtain ⟨_, hnone, -⟩ := h.exists_own hl
  rw [hf] at hnone
  cases hnone

theorem Guest.Run.Comes.registry_of_goes {α : Type} {c : ContextId} {x : Run α} {w w₁ w' : World} {a : α} {m₁ m' : Machine}
    {ms : List Moment} {z : Except Cut α} (h : x.Comes c w a m₁ w₁) (hgoes : x.Goes c w ms z m' w') :
    (w'.context c).registry = (w₁.context c).registry := by
  induction h generalizing ms with
  | done =>
    cases hgoes
    rfl
  | ask hkept _ ih =>
    cases hgoes with
    | ask _ hgoes => exact ih hgoes
    | refuse hrefused => simp [hkept] at hrefused
  | refused hrefused hend =>
    cases hgoes with
    | ask hkept =>
      rw [hrefused] at hkept
      cases hkept
    | refuse _ hregistry hgoes =>
      rw [hend] at hgoes
      cases hgoes
      exact hregistry

/-- A conversion that is not disturbed by guest code keeps what was registered before it, also when it fails. -/
theorem Guest.Run.Goes.undisturbed {m₁ m₂ : Machine} {n k : Nat} {t : Native} {c : ContextId} {w w' : World}
    {ms : List Moment} {z : Except Cut (Except Error Value)} (hm : m₁.Unaltered) (hdepth : m₁.depth < m₁.depthLimit)
    (hfits : t.FitsWithin k) (hroom : m₁.HasRoom t.footprint) (hready : (w.context c).Ready m₁)
    (hgoes : ((Bridge.ofNative t).run (Engine.ofLevel (n + 4)) m₁).Goes c w ms z m₂ w') {g : Handle} {f : HostFn}
    (hf : (w.context c).registry.get? g = some f) : (w'.context c).registry.get? g = some f := by
  obtain ⟨r, m', w₁, hcomes, -, -, hend⟩ := Run.Serves.comesOut (makes_of_fitsWithin (n := n) hm hdepth hfits m₁ []
    ⟨.refl, nofun⟩ hroom) hready (World.known_of_get? hf) (.refl hready.sound)
  rw [hcomes.registry_of_goes hgoes]
  rcases hend with ⟨-, _, gs, -, -, hgranted⟩ | ⟨-, _, -, -, grants, fs, _, _, -, -, hgranted⟩
  · exact hgranted.get?_eq_some hf
  · exact hgranted.get?_eq_some hf

/-- What comes of a call of the guest function for a handle: the ways that it goes, and how they go in a world. -/
structure Guest.Machine.Dispatched (m : Machine) (far n : Nat) (o : ObjectId) (h : Handle) (this : Value) (args : List Value) :
    Prop where
  ways : ∀ log z m', ((Engine.ofLevel (n + far + 5)).call (.object o) this args m).Reaches log z m' ↔
    ∃ m₁, Bridge.Dispatch (Engine.ofLevel (n + far + 4)) h args (m.rooted (.object o :: args)) log z m₁ ∧
      m' = { m₁ with roots := m.roots }
  whole : ∀ {m₁ m₂ : Machine} {log : List Exchange} {natives : List Native},
    Bridge.InTurn Bridge.toNative (Engine.ofLevel (n + far + 4)) m₁ args log natives m₂ → natives.length = args.length
  looksUp : ∀ {c : ContextId} {w w' : World} {ms : List Moment} {z : Except Cut Value} {m' : Machine},
    ((Engine.ofLevel (n + far + 5)).call (.object o) this args m).Goes c w ms z m' w' →
    ∃ l, ms.map Moment.exchange = .asked (.beginCall h) ((w.context c).registry.get? h) :: l
  /-- Where errors take their texts, exactly one error is thrown when the host raises one, and it has the text. -/
  raises : ∀ message m₁ log z m', m₁.TakesMessages far →
    (((Bridge.raiseMessage message : Act Value) (Engine.ofLevel (n + far + 4)) m₁).Reaches log z m' ↔
      log = [] ∧ z = .error (.threw (.object m₁.objects.size)) ∧ m' = m₁.made (.saying message))
  /-- The conversion of a result ends no entry of the registry, unless a function of the host does that it calls, or the
  engine finds unused what leases the entry. -/
  keeps : ∀ {t : Native} {m₁ m₂ : Machine} {c : ContextId} {w w' : World} {ms : List Moment}
      {z : Except Cut (Except Error Value)} {g : Handle} {f : HostFn},
    ((Bridge.ofNative t).run (Engine.ofLevel (n + far + 4)) m₁).Goes c w ms z m₂ w' →
    (∀ mo ∈ ms, mo.exchange.isCall = false) → (w.context c).registry.Sound →
    (w.context c).registry.get? g = some f →
    (w'.context c).registry.get? g = some f ∨ ∃ mo ∈ ms, mo.state.Abandons g
  undisturbed : ∀ {t : Native} {k : Nat} {m₁ m₂ : Machine} {c : ContextId} {w w' : World} {ms : List Moment}
      {z : Except Cut (Except Error Value)} {g : Handle} {f : HostFn},
    m₁.Unaltered → m₁.depth < m₁.depthLimit → t.FitsWithin k → m₁.HasRoom t.footprint → (w.context c).Ready m₁ →
    ((Bridge.ofNative t).run (Engine.ofLevel (n + far + 4)) m₁).Goes c w ms z m₂ w' →
    (w.context c).registry.get? g = some f → (w'.context c).registry.get? g = some f

/-- Whatever the arguments, and whatever the function of the host does, a call goes one of the ways of a dispatch. -/
theorem Guest.Machine.dispatched {m : Machine} {o : ObjectId} {x : Object} {h : Handle} (hx : m.objects[o]? = some x)
    (hpayload : x.payload = .host h) (far n : Nat) (this : Value) (args : List Value) :
    m.Dispatched far n o h this args where
  ways log z m' := by
    rw [Act.call_host hx hpayload, Run.reaches_leaving]
    simp only [Bridge.reaches_callHost]
  whole := Bridge.InTurn.length
  looksUp {c w w' ms z m'} hgoes := by
    rw [Act.call_host hx hpayload] at hgoes
    exact Run.Goes.reply_beginCall hgoes
  raises message m₁ log z m' htakes := by
    have hlevel : n + far + 4 = n + 1 + far + 3 := by omega
    rw [hlevel, Bridge.run_raiseMessage htakes, Run.reaches_threw]
  keeps hgoes hcalls hsound hf := hgoes.keeps hcalls hsound hf
  undisturbed {t k m₁ m₂ c w w' ms z g f} hm hdepth hfits hroom hready hgoes hf :=
    hgoes.undisturbed (n := n + far) hm hdepth hfits hroom hready hf

namespace Guest.Machine

theorem exists_functionOf (h : Handle) : ∃ (m : Machine) (o : ObjectId), m.objects[o]? = some (functionOf h) ∧
    m.TakesMessages 0 :=
  ⟨Realm.initial.made (functionOf h), Realm.initial.objects.size, Realm.initial.getElem?_made _ 0,
    takesMessages_initial.keep (.push _)⟩

/-- A call of a function that is there gives it the conversions of the arguments, and the guest that of what it returns;
where there is none, an error that says so is thrown. -/
theorem dispatched_functionOf : ∃ (m : Machine) (o : ObjectId), m.objects[o]? = some (functionOf ⟨3, 0⟩) ∧
    m.Dispatched 0 0 o ⟨3, 0⟩ .undefined [.null, .bool true] ∧
    (∃ m', ((Engine.ofLevel 5).call (.object o) .undefined [.null, .bool true] m).Reaches
      [.asked (.beginCall ⟨3, 0⟩) (some ⟨7⟩), .called ⟨⟨3, 0⟩, ⟨7⟩⟩ [.null, .bool true] (.ok (.int 5))]
      (.ok (.ofInt 5)) m') ∧
    ∃ m', ((Engine.ofLevel 5).call (.object o) .undefined [.null, .bool true] m).Reaches
      [.asked (.beginCall ⟨3, 0⟩) none] (.error (.threw (.object m.objects.size))) m' ∧
      m'.objects[m.objects.size]? = some (.saying "host callback #3 is no longer registered") := by
  obtain ⟨m, o, hx, htakes⟩ := exists_functionOf ⟨3, 0⟩
  have hdispatched := Guest.Machine.dispatched (h := ⟨3, 0⟩) hx rfl 0 0 .undefined [.null, .bool true]
  have hturn : Bridge.InTurn Bridge.toNative (Engine.ofLevel 4) (m.rooted [.object o, .null, .bool true])
      [.null, .bool true] [] [.null, .bool true] (m.rooted [.object o, .null, .bool true]) :=
    .cons_of_silent .done (.cons_of_silent .done .nil)
  have hraise := (hdispatched.raises (Bridge.absentText ⟨3, 0⟩) (m.rooted [.object o, .null, .bool true]) _ _ _
    (htakes.keep .refl)).mpr ⟨rfl, rfl, rfl⟩
  refine ⟨m, o, hx, hdispatched, ⟨_, (hdispatched.ways _ _ _).mpr ⟨_, .answered hturn .done, rfl⟩⟩, _,
    (hdispatched.ways _ _ _).mpr ⟨_, .absent hraise, rfl⟩, ?_⟩
  exact m.getElem?_made _ 0

theorem exists_readOnly (h : Handle) : ∃ (m : Machine) (o : ObjectId) (x : Object), m.objects[o]? = some (functionOf h) ∧
    m.objects[Intrinsic.errorPrototype .error]? = some x ∧
    x.Reads "message" (some ⟨.data (.ofString "") false, false, false⟩) ∧ m.frames = [⟨none, false, 1⟩] ∧ m.Closed := by
  have hsite : (Realm.siteAt? (Intrinsic.errorPrototype .error)).isSome = true := by decide +kernel
  have hx := Realm.getElem?_initial hsite
  have hclosed := Realm.closed_initial
  have hsize := Realm.functionPrototype_lt_initial
  -- the machine of a new realm is too large to be looked into
  generalize Realm.initial = m at hx hclosed hsize
  have hchanged : Machine.Closed { m with
      objects := m.objects.modify (Intrinsic.errorPrototype .error)
        (·.putProperty "message" ⟨.data (.ofString "") false, false, false⟩) } := by
    refine hclosed.grow (Nat.le_of_eq Array.size_modify.symm) fun y hy t ht => ?_
    rw [Array.size_modify]
    obtain ⟨i, hi, rfl⟩ := Array.mem_iff_getElem.mp hy
    rw [Array.getElem_modify] at ht
    rw [Array.size_modify] at hi
    split at ht
    · rcases Target.mem_ofObject_putProperty ht with ht | ht
      · exact hclosed.objects _ (Array.getElem_mem hi) t ht
      · cases ht
    · exact hclosed.objects _ (Array.getElem_mem hi) t ht
  refine ⟨{ m with
    objects := (m.objects.modify (Intrinsic.errorPrototype .error)
      (·.putProperty "message" ⟨.data (.ofString "") false, false, false⟩)).push (functionOf h)
    frames := [⟨none, false, 1⟩] }, m.objects.size, (Realm.builtin (Intrinsic.errorPrototype .error)).putProperty
      "message" ⟨.data (.ofString "") false, false, false⟩, ?_, ?_, ?_, rfl, ?_⟩
  · rw [Array.getElem?_push, Array.size_modify, if_pos rfl]
  · refine Keeps.push (p := fun _ => True) _ _ _ trivial ?_
    rw [Array.getElem?_modify, if_pos rfl, hx, Option.map_some]
  · refine Object.reads_of_isTable ?_ (by rw [Object.property?_putProperty, if_pos rfl]) (by rintro _ ⟨⟩; nofun)
    rw [Object.payload_putProperty]
    exact Realm.isTable_builtin (by decide +kernel)
  · have hpushed := hchanged.push_functionOf (by rwa [Array.size_modify]) h
    refine { hpushed with frames := fun f hf i hi => ?_ }
    rw [List.mem_singleton.mp hf] at hi
    cases hi

/-- Where guest code has made the text of errors read-only, what is thrown for a function that fails does not have the
text of its error. -/
theorem dispatched_readOnly : ∃ (m : Machine) (o : ObjectId) (m' : Machine) (thrown : ObjectId) (x : Object),
    m.objects[o]? = some (functionOf ⟨0, 0⟩) ∧
    ((Engine.ofLevel 5).call (.object o) .undefined [] m).Reaches
      [.asked (.beginCall ⟨0, 0⟩) (some ⟨7⟩), .called ⟨⟨0, 0⟩, ⟨7⟩⟩ [] (.error "boom")] (.error (.threw (.object thrown))) m' ∧
    m'.objects[thrown]? = some x ∧ x.said? = some (.ofString "'message' is read-only") ∧
    x.said? ≠ some (.ofString "boom") := by
  obtain ⟨m, o, y, hx, hy, hreads, hframes, hclosed⟩ := exists_readOnly ⟨0, 0⟩
  have hmended : (m.rooted [.object o]).mended = m.rooted [.object o] := by
    refine (hclosed.rooted fun v hv t ht => ?_).mended_eq
    rw [List.mem_singleton.mp hv] at ht
    rw [List.mem_singleton.mp ht]
    exact Target.known_object.mpr (Array.getElem?_eq_some_iff.mp hx).1
  have hraise : ((Bridge.raiseMessage "boom" : Act Value) (Engine.ofLevel 4) (m.rooted [.object o])).Reaches []
      (.error (.threw (.object (m.objects.size + 1)))) (Bridge.refusing (m.rooted [.object o])) :=
    Bridge.run_raiseMessage_readOnly (m := m.rooted [.object o]) (α := Value) hy hreads hframes rfl 2 ▸ .threw
  have hway : Bridge.Dispatch (Engine.ofLevel 4) ⟨0, 0⟩ [] (m.rooted [.object o])
      [.asked (.beginCall ⟨0, 0⟩) (some ⟨7⟩), .called ⟨⟨0, 0⟩, ⟨7⟩⟩ [] (.error "boom")] (.error (.threw (.object (m.objects.size + 1))))
      (Bridge.refusing (m.rooted [.object o])) := .failed .nil (hmended.symm ▸ hraise)
  refine ⟨m, o, { Bridge.refusing (m.rooted [.object o]) with roots := m.roots }, m.objects.size + 1, Bridge.thrown .type "'message' is read-only", hx, ?_, ?_, ?_, ?_⟩
  · rw [Act.call_host hx rfl, Run.reaches_leaving]
    exact ⟨_, Bridge.reaches_callHost.mpr hway, rfl⟩
  · have hlast := ((m.rooted [.object o]).made Bridge.untold).getElem?_made
      (Bridge.thrown .type "'message' is read-only") 0
    rwa [show ((m.rooted [.object o]).made Bridge.untold).objects.size = m.objects.size + 1 from Array.size_push _] at hlast
  · rfl
  · decide +kernel

end Guest.Machine

end Embedding
