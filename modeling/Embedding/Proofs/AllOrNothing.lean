import Embedding.Proofs.Conversions
import Embedding.Proofs.RoundTrip

namespace Embedding

namespace Registry

theorem filterMap_range_getElem? {α β : Type} (f : α → Option β) (xs : List α) {n : Nat} (h : xs.length ≤ n) :
    (List.range n).filterMap (fun i => xs[i]?.bind f) = xs.filterMap f := by
  induction xs generalizing n with
  | nil => simp
  | cons x xs ih =>
    obtain ⟨n, rfl⟩ := Nat.exists_eq_add_of_le' (Nat.le_trans (Nat.le_add_left 1 _) h)
    have hrest := ih (Nat.le_of_succ_le_succ h)
    rw [List.range_succ_eq_map, List.filterMap_cons, List.filterMap_map, List.filterMap_cons, ← hrest]
    rfl

theorem bind_entry_eq_some {r : Registry} {i : Nat} {f : HostFn} :
    r.slots[i]?.bind (·.entry) = some f ↔ ∃ g, r.get? ⟨i, g⟩ = some f := by
  simp only [get?_eq_some, Option.bind_eq_some_iff]
  constructor
  · rintro ⟨⟨g, entry⟩, hs, rfl⟩
    exact ⟨g, hs⟩
  · rintro ⟨g, hs⟩
    exact ⟨_, hs, rfl⟩

theorem entries_eq_of_get? {r r' : Registry} (h : ∀ g, r'.get? g = r.get? g) : r'.entries = r.entries := by
  have hentry (i : Nat) : r'.slots.toList[i]?.bind (·.entry) = r.slots.toList[i]?.bind (·.entry) := by
    apply Option.ext
    intro f
    simp only [Array.getElem?_toList, bind_entry_eq_some, h]
  rw [entries, entries, ← filterMap_range_getElem? _ _ (Nat.le_max_left r'.slots.toList.length r.slots.toList.length),
    ← filterMap_range_getElem? _ r.slots.toList (Nat.le_max_right r'.slots.toList.length _)]
  exact List.filterMap_congr fun i _ => hentry i

end Registry

namespace ContextState

/-- The entries of a context are what they were, and so are its leases. -/
structure Restored (s s' : ContextState) : Prop where
  leases : s'.leases = s.leases
  get? : ∀ h, s'.registry.get? h = s.registry.get? h
  entries : s'.registry.entries = s.registry.entries
  live : s'.registry.live = s.registry.live

section

variable {s s' t : ContextState} {grants : List Lease} {fs : List HostFn} {a b : Guest.Machine}

theorem Granted.mem_endedHandles (h : s.Granted grants fs s') (hleases : t.leases = s'.leases) {places : List Nat}
    (hgrants : ∀ l ∈ grants, a.handleAt? l.function = some l.handle)
    (hnew : ∀ l ∈ grants, l.function ∈ places) (hold : ∀ l ∈ s.leases, l.function ∉ places) {g : Handle} :
    g ∈ t.endedHandles places ↔ g ∈ grants.map (·.handle) := by
  have hmem {l : Lease} (hl : l ∈ t.leases) (hplace : l.function ∈ places) : l ∈ grants := by
    rw [hleases, h.leases, List.mem_append, List.mem_reverse] at hl
    exact hl.resolve_right fun hl => hold l hl hplace
  simp only [endedHandles, List.mem_map, List.mem_filterMap]
  constructor
  · rintro ⟨l, ⟨o, ho, hfind⟩, rfl⟩
    have hfunction : l.function = o := by simpa using List.find?_some hfind
    exact ⟨l, hmem (List.mem_of_find?_eq_some hfind) (hfunction ▸ ho), rfl⟩
  · rintro ⟨l, hl, rfl⟩
    have hthere : l ∈ t.leases := by
      rw [hleases, h.leases, List.mem_append, List.mem_reverse]
      exact .inl hl
    obtain ⟨l', hfind⟩ : ∃ l', t.leases.find? (·.function = l.function) = some l' :=
      Option.isSome_iff_exists.mp (List.find?_isSome.mpr ⟨l, hthere, decide_eq_true rfl⟩)
    have hfunction : l'.function = l.function := by simpa using List.find?_some hfind
    have hl' := hmem (List.mem_of_find?_eq_some hfind) (hfunction ▸ hnew l hl)
    have hhandle := hgrants l' hl'
    rw [hfunction, hgrants l hl] at hhandle
    exact ⟨l', ⟨l.function, hnew l hl, hfind⟩, (Option.some.inj hhandle).symm⟩

theorem Granted.undone (h : s.Granted grants fs s') (hready : s.Ready b) (hregistry : t.registry = s'.registry)
    (hleases : t.leases = s'.leases) (hpins : t.pins = s.pins) (hmachine : t.machine = a)
    (hgrants : ∀ l ∈ grants, b.objects.size ≤ l.function ∧ a.handleAt? l.function = some l.handle)
    (horderly : Guest.Orderly b.objects.size a.objects) (hkeeps : Guest.Keeps (fun _ => True) b.objects a.objects)
    (hcells : a.cells = b.cells) (hbuffer : Guest.Intrinsic.bufferPrototype < b.objects.size)
    (hroots : ∀ tg, tg ∈ a.rootTargets s.pins.values ↔ tg ∈ b.rootTargets s.pins.values) : s.Restored t.reaped := by
  have hplaces {i : Nat} : i ∈ t.machine.freedPlaces t.pins.values ↔ i < a.placeCount ∧ a.Freed s.pins.values i := by
    rw [hmachine, hpins, Guest.Machine.mem_freedPlaces]
  have hnew (l : Lease) (hl : l ∈ grants) : l.function ∈ t.machine.freedPlaces t.pins.values := by
    obtain ⟨hbehind, hhandle⟩ := hgrants l hl
    have hsize := Guest.Machine.lt_size_of_handleAt? hhandle
    exact hplaces.mpr ⟨Nat.lt_add_right _ hsize,
      Guest.Machine.freed_new hready.whole hkeeps hcells horderly hbuffer (fun tg => (hroots tg).mp) hbehind hsize⟩
  have hold (l : Lease) (hl : l ∈ s.leases) : l.function ∉ t.machine.freedPlaces t.pins.values := by
    intro hfreed
    have hplace : Guest.Machine.movedPlace b a l.function = l.function := if_pos (hready.placed l hl)
    have hafter := (hplaces.mp hfreed).2
    rw [← hplace] at hafter
    exact hready.kept l hl (hafter.before hready.whole hkeeps hcells fun tg => (hroots tg).mpr)
  have hget (g : Handle) : t.reaped.registry.get? g = s.registry.get? g := by
    show (t.registry.removeAll (t.endedHandles _)).get? g = _
    rw [Registry.get?_removeAll, hregistry]
    split
    · next hended =>
      obtain ⟨l, hl, rfl⟩ := List.mem_map.mp
        ((h.mem_endedHandles hleases (fun l hl => (hgrants l hl).2) hnew hold).mp hended)
      obtain ⟨f, hnone, -⟩ := h.exists_own hl
      exact hnone.symm
    · next hended =>
      exact h.others g (mt (h.mem_endedHandles hleases (fun l hl => (hgrants l hl).2) hnew hold).mpr hended)
  have hsound : t.reaped.registry.Sound := by
    apply t.sound_reaped
    rw [hregistry]
    exact h.sound
  have hentries := Registry.entries_eq_of_get? hget
  refine ⟨?_, hget, hentries, ?_⟩
  · show t.leases.filter (·.function ∉ t.machine.freedPlaces t.pins.values) = s.leases
    rw [hleases, h.leases, List.filter_append, List.filter_eq_nil_iff.mpr, List.filter_eq_self.mpr, List.nil_append]
    · exact fun l hl => decide_eq_true (hold l hl)
    · exact fun l hl hkept => of_decide_eq_true hkept (hnew l (List.mem_reverse.mp hl))
  · rw [hsound.live_eq_length, hready.sound.live_eq_length, hentries]

end

end ContextState

section

open Guest

variable {s : ContextState} {m : Machine} {x : Value}

theorem Guest.Machine.rootTargets_heldOn (m : Machine) {held : List Value} :
    (m.heldOn x).rootTargets held = Target.ofValue x ++ m.rootTargets held := by
  simp only [Machine.rootTargets, Machine.heldOn, List.flatMap_cons, List.append_assoc]
  rfl

theorem ContextState.Ready.heldOn (h : s.Ready m) (hx : x ∈ s.pins.values) : s.Ready (m.heldOn x) where
  isOpen := h.isOpen
  sound := h.sound
  placed := h.placed
  kept l hl hfreed := by
    have hplace : Machine.movedPlace m (m.heldOn x) l.function = l.function := if_pos (h.placed l hl)
    have hkeeps : Keeps (fun _ => True) m.objects (m.heldOn x).objects := .refl
    rw [← hplace] at hfreed
    refine h.kept l hl (hfreed.before h.whole hkeeps rfl fun t ht => ?_)
    rw [m.rootTargets_heldOn]
    exact List.mem_append_right _ ht
  whole :=
    { h.whole with
      roots := fun r hr => by
        rcases List.mem_cons.mp hr with rfl | hr
        · exact h.whole.held x hx
        · exact h.whole.roots r hr }

theorem Position.Reachable.ready {p : Position} {c : ContextId} (hp : p.Reachable) (hrests : p.Rests c)
    (hopen : (p.world.context c).isReleased = false) : (p.world.context c).Ready (p.world.context c).machine := by
  obtain ⟨n, htended⟩ := hp.tended hopen
  obtain ⟨hn, hsteady⟩ := htended.steady hrests
  have hplaced (l : Lease) (hl : l ∈ (p.world.context c).leases) : l.function < (p.world.context c).machine.objects.size :=
    Nat.lt_of_lt_of_le (htended.placed l hl) hn
  exact ⟨hopen, hp.sound c, hplaced, fun l hl hfreed => hsteady.kept l hl
    ((Machine.mem_freedPlaces ..).mpr ⟨Nat.lt_add_right _ (hplaced l hl), hfreed⟩),
    hsteady.closed, fun x hx t ht => (htended.pinned x hx t ht).mono hn⟩

end

namespace Guest

variable {m₀ m : Machine} {n k : Nat} {grants : List Lease}

/-- The memory that the engine counts for the guest forms of some values. -/
def footprintOf (ts : List Native) : Nat := (ts.map Native.footprint).sum

theorem guestForms_serves (hm₀ : m₀.Unaltered) (hdepth : m₀.depth < m₀.depthLimit) {ts : List Native}
    (hfits : ∀ t ∈ ts, t.FitsWithin k) (h : InHand m₀ grants m) (hroom : m.HasRoom (footprintOf ts)) :
    (ValueRef.guestForms ts).Serves (InHand m₀) (Engine.ofLevel (n + 4)) m (ts.flatMap Native.needs) grants
      fun _ gs m' => InHand m₀ gs m' := by
  induction ts generalizing m grants with
  | nil => exact .pure h
  | cons t ts ih =>
    rw [footprintOf, List.map_cons, List.sum_cons] at hroom
    rw [ValueRef.guestForms, List.mapM_cons, List.flatMap_cons, bind_assoc]
    apply Bridge.Serves.bind (makes_of_fitsWithin hm₀ hdepth (hfits t List.mem_cons_self) m grants h
      (hroom.of_le (Nat.le_add_right _ _)))
    rintro v _ m₁ ⟨new, rfl, hmade⟩
    rw [bind_assoc]
    have hhold : (Bridge.hold v).run (Engine.ofLevel (n + 4)) m₁ = .done (.ok ()) { m₁ with roots := .value v :: m₁.roots } :=
      rfl
    apply Bridge.Serves.step hhold
    have hinv : InHand m₀ (grants ++ new) { m₁ with roots := .value v :: m₁.roots } := by
      refine ⟨hmade.underway.rebased (hmade.underway.roots.trans (List.suffix_cons _ _)) _, fun l hl => ?_⟩
      rcases List.mem_append.mp hl with hl | hl
      · obtain ⟨a, ha, hleads⟩ := hmade.onward.holds h.2 l hl
        exact ⟨a, List.mem_cons_of_mem _ ha, hleads⟩
      · obtain ⟨a, rfl, hleads⟩ := hmade.forms.leads (List.mem_map_of_mem hl)
        exact ⟨a, List.mem_cons_self, hleads⟩
    have hroom₁ : ({ m₁ with roots := .value v :: m₁.roots } : Machine).HasRoom (footprintOf ts) :=
      hmade.onward.hasRoom hroom
    have hrest := ih (fun t' ht' => hfits t' (List.mem_cons_of_mem t ht')) hinv hroom₁
    rw [← List.append_nil (ts.flatMap Native.needs)]
    exact hrest.bind fun vs gs m₂ hend => .pure hend

end Guest

/-- In a context nothing is different but that the engine has made objects and freed them, and nothing is different in all
others. -/
structure World.Unharmed (w w' : World) (c : ContextId) : Prop where
  restored : (w.context c).Restored (w'.context c)
  objects : Guest.Keeps (fun _ => True) (w.context c).machine.objects (w'.context c).machine.objects
  others : ∀ c' ≠ c, w'.context c' = w.context c'

/-- The machine of a context, with so much memory taken. -/
def World.machineWith (w : World) (c : ContextId) (memory : Nat) : Guest.Machine :=
  { (w.context c).machine with memory }

section

open Guest

variable {w w' : World} {c : ContextId} {x : Value} {m' : Machine}

theorem ContextState.Ready.machineWith (h : (w.context c).Ready (w.context c).machine) (memory : Nat) :
    (w.context c).Ready (w.machineWith c memory) where
  isOpen := h.isOpen
  sound := h.sound
  placed := h.placed
  kept l hl hfreed := by
    have hplace : Machine.movedPlace (w.context c).machine (w.machineWith c memory) l.function = l.function :=
      if_pos (h.placed l hl)
    have hkeeps : Keeps (fun _ => True) (w.context c).machine.objects (w.machineWith c memory).objects := .refl
    rw [← hplace] at hfreed
    exact h.kept l hl (hfreed.before h.whole hkeeps rfl fun t ht => ht)
  whole :=
    { objects := h.whole.objects
      cells := h.whole.cells
      roots := h.whole.roots
      frames := h.whole.frames
      collections := h.whole.collections
      jobs := h.whole.jobs
      realmSize := h.whole.realmSize
      held := h.whole.held }

theorem ContextState.Abandoned.unharmed (memory : Nat)
    (h : (w.context c).Abandoned ((w.machineWith c memory).heldOn x) m' (w'.context c))
    (hready : (w.context c).Ready (w.context c).machine) (hidle : (w.context c).Idle)
    (hbuffer : Intrinsic.bufferPrototype < (w.context c).machine.objects.size) (hknown : c.index < w'.contexts.size)
    (hothers : ∀ c' ≠ c, w'.context c' = w.context c') : w.Unharmed ((w'.setMachine c m').leave c) c := by
  obtain ⟨grants, fs, m₁, roots, rfl, hinv, hgranted⟩ := h
  have hunder := hinv.1
  have hset := World.context_setMachine_self { m₁ with roots } hknown
  have hleft := World.context_leave_self (w := w'.setMachine c { m₁ with roots }) (c := c)
    (by rwa [World.size_contexts_setMachine])
  rw [hset] at hleft
  -- the machine comes to rest with the new objects, and with nothing else that it had not before
  have hclosed : { (w.context c).machine with objects := m₁.objects }.Closed :=
    hready.whole.toClosed.grow hunder.size_le (hunder.known hready.whole.objects)
  have hroots : (w.context c).machine.roots = [] := by rw [← hidle.rest]; rfl
  have hframes : (w.context c).machine.frames = [] := by rw [← hidle.rest]; rfl
  have hdepth : (w.context c).machine.depth = 0 := by rw [← hidle.rest]; rfl
  have hmemory : (w.context c).machine.memory = 0 := by rw [← hidle.rest]; rfl
  have hrest : ({ m₁ with roots } : Machine).atRest = { (w.context c).machine with objects := m₁.objects } := by
    rw [← hclosed.atRest_eq hroots hframes hdepth hmemory, hunder.same]
    rfl
  have hpins : (w'.context c).pins = (w.context c).pins := by rw [hgranted.rest]
  refine ⟨?_, ?_, fun c' hc' => ?_⟩
  · rw [hleft]
    exact hgranted.undone hready (a := { (w.context c).machine with objects := m₁.objects }) rfl rfl hpins hrest
      hunder.granted hunder.orderly hunder.keeps rfl hbuffer fun tg => Iff.rfl
  · rw [hleft]
    show Keeps _ _ (Machine.atRest _).objects
    rw [hrest]
    exact hunder.keeps
  · rw [World.context_leave_of_ne hc', World.context_setMachine_of_ne hc', hothers c' hc']

theorem ValueRef.context_entered (v : ValueRef) (hknown : v.context.index < w.contexts.size) :
    (v.entered w).context v.context = { w.context v.context with machine := w.machineFor v.context } := by
  rw [ValueRef.entered, World.context_setMachine_self _ (by exact hknown)]
  rfl

theorem ValueRef.context_entered_of_ne (v : ValueRef) (hc : c ≠ v.context) : (v.entered w).context c = w.context c := by
  rw [ValueRef.entered, World.context_setMachine_of_ne hc]
  rfl

theorem ValueRef.size_contexts_entered (w : World) (v : ValueRef) : (v.entered w).contexts.size = w.contexts.size := by
  rw [ValueRef.entered, World.size_contexts_setMachine]
  rfl

/-- Work with an object that begins with a conversion ends where that is refused something, whatever was to come after it. -/
theorem ValueRef.refused {α : Type} {y : Bridge α} {post : α → List Lease → Machine → Prop} {needs : List Need} {v : ValueRef}
    {o : ObjectId} (hserves : y.Serves (InHand ((w.machineFor v.context).heldOn (.object o))) Engine.standard
      ((w.machineFor v.context).heldOn (.object o)) needs [] post)
    (hready : (w.context v.context).Ready (w.context v.context).machine) (hidle : (w.context v.context).Idle)
    (hbuffer : Intrinsic.bufferPrototype < (w.context v.context).machine.objects.size)
    (hknown : v.context.index < w.contexts.size) (hfree : w.contextObstacle? v.context = none)
    (hown : v.context ∉ w.borrowed) (hpin : (w.context v.context).pins.find? v.pin = some (.object o))
    (hrefused : ¬ (w.context v.context).Affords needs) :
    ∃ err w', (w.context v.context).Refuses err ∧ w.Unharmed w' v.context ∧
      ∀ {β σ : Type} (g : ObjectId → α → Bridge β) (handler : Handler σ) (s : σ),
        (v.insideObject fun o => y >>= g o).result handler w s = .error err ∧
          (handler.DropsQuietly → (v.insideObject fun o => y >>= g o).run handler w s = ((.error err, w'), s)) := by
  obtain ⟨memory, hmachine⟩ := w.exists_machineFor v.context
  have hcontext := v.context_entered hknown
  have hready' : (w.context v.context).Ready ((w.machineFor v.context).heldOn (.object o)) := by
    rw [hmachine]
    exact (hready.machineWith memory).heldOn (Pins.mem_values_of_find? hpin)
  have hknown' : v.context.index < (v.entered w).contexts.size := v.size_contexts_entered w ▸ hknown
  have hnone : (w.context v.context).Granted [] [] ((v.entered w).context v.context) := by
    rw [hcontext]
    exact (ContextState.Granted.refl hready.sound).setMachine _
  have hsame : ((v.entered w).context v.context).Affords needs ↔ (w.context v.context).Affords needs := by
    rw [hcontext]
    rfl
  obtain ⟨r, m', w', hcomes, hlife, hothers, hend⟩ := Run.Serves.comesOut hserves hready' hknown' hnone
  obtain ⟨haffords, -⟩ | ⟨-, err, rfl, hrefuses, habandoned⟩ := hend
  · exact absurd (hsame.mp haffords) hrefused
  · refine ⟨err, (w'.setMachine v.context m').leave v.context, hrefuses, ?_, fun g handler s => ⟨?_, fun hquiet => ?_⟩⟩
    · rw [hmachine] at habandoned
      refine habandoned.unharmed memory hready hidle hbuffer (World.size_contexts_of_life hlife ▸ hknown') fun c' hc' => ?_
      rw [hothers c' hc', v.context_entered_of_ne hc']
    · rw [ValueRef.insideObject, (ValueRef.result_inside hfree hpin handler s).1]
      exact hcomes.fst_follow_bind_error handler s (g o)
    · rw [ValueRef.insideObject, ValueRef.run_inside hfree hpin]
      dsimp only
      rw [hcomes.follow_bind_error handler s (g o) hquiet hown]

end

/-- Whether a context lets a conversion have all that it needs: the policy lets values without a guest form pass, or there
is none; and with the functions there are no more callbacks than the configuration admits. -/
def Position.Allows (p : Position) (c : ContextId) (needs : List Guest.Need) : Prop :=
  ((p.world.runtimeOf c).config.unmapped = .null ∨ .passage ∉ needs) ∧
    ContextId.callbackCount (p.world.context c) + (Guest.Need.functions needs).length ≤
      max (p.world.runtimeOf c).config.maxCallbacks 1

theorem Position.Reachable.affords_iff {p : Position} {c : ContextId} (hp : p.Reachable)
    (hknown : c.index < p.world.contexts.size) (needs : List Guest.Need) :
    (p.world.context c).Affords needs ↔ p.Allows c needs := by
  have hsettings := hp.settings hknown
  have hlimit := congrArg Prod.fst hsettings
  have hpolicy := congrArg Prod.snd hsettings
  dsimp only [ContextState.settings, Config.settings] at hlimit hpolicy
  rw [ContextState.Affords, Position.Allows, ContextId.callbackCount, hlimit, hpolicy]

/-- A host value has its guest form. The functions in it have got new entries, one each, and each is called through the
guest function at its place; all other entries are as they were. -/
def Position.Converted (p : Position) (c : ContextId) (t : Native) (v : Guest.Value) (m' : Guest.Machine) (w' : World) :
    Prop :=
  ∃ new, (p.world.context c).Granted new (Guest.Need.functions t.needs) (w'.context c) ∧
    Guest.Forms m'.objects (p.world.context c).machine.objects.size t v (new.map (·.function)) ∧
    (∀ l ∈ new, m'.handleAt? l.function = some l.handle) ∧
    Guest.Keeps (fun _ => True) (p.world.context c).machine.objects m'.objects

/-- A conversion has failed. All objects that were there are as they were, and so are the entries when the engine has
freed what is not held on to any more. -/
structure Position.Refused (p : Position) (c : ContextId) (err : Error) (m' : Guest.Machine) (w' : World) : Prop where
  refuses : (p.world.context c).Refuses err
  keeps : Guest.Keeps (fun _ => True) (p.world.context c).machine.objects m'.objects
  restored : (p.world.context c).Restored
    (ContextState.reaped { w'.context c with machine := { m' with roots := (p.world.context c).machine.roots } })
  others : ∀ c' ≠ c, w'.context c' = p.world.context c'

/-- A value is converted if its context allows that, and else the conversion fails. -/
def Position.Converts (p : Position) (c : ContextId) (t : Native) (r : Except Error Guest.Value) (m' : Guest.Machine)
    (w' : World) : Prop :=
  (p.Allows c t.needs ∧ ∃ v, r = .ok v ∧ p.Converted c t v m' w') ∨
    (¬ p.Allows c t.needs ∧ ∃ err, r = .error err ∧ p.Refused c err m' w')

/-- What comes of conversions in a context. -/
structure AllOrNothing (p : Position) (c : ContextId) (t : Native) : Prop where
  /-- A conversion on the machine of the context comes to its end. -/
  converts : ∀ n memory : Nat, (p.world.machineWith c memory).HasRoom t.footprint → ∃ r m' w',
    ((Guest.Bridge.ofNative t).run (Guest.Engine.ofLevel (n + 4)) (p.world.machineWith c memory)).Comes c p.world r m' w' ∧
      p.Converts c t r m' w'
  /-- So it does where a function of the host has returned the value, and the work that has called the function goes on
  from there. -/
  returns : ∀ {n memory : Nat} {α : Type} {F : Guest.Run (Except Error Guest.Value) → Guest.Run α}
    {resume : Except String Native → Guest.Run α} {work : List Activity}, p.work = .waiting c resume :: work →
    (p.world.machineWith c memory).HasRoom t.footprint → Guest.Run.PassesOn F →
    resume (.ok t) = F ((Guest.Bridge.ofNative t).run (Guest.Engine.ofLevel (n + 4)) (p.world.machineWith c memory)) →
    ∃ r m' w' ms, Play p ((p, .reply c (.ok t)) :: ms) ⟨w', p.held, .running c (F (.done r m')) :: work⟩ ∧
      p.Converts c t r m' w'
  /-- A property is not set, whichever it is, when its value is refused. -/
  set : ∀ (v : ValueRef) (o : Guest.ObjectId), v.context = c → p.world.contextObstacle? c = none →
    (p.world.context c).pins.find? v.pin = some (.object o) → (p.world.machineFor c).HasRoom t.footprint →
    ¬ p.Allows c t.needs → ∃ err w', (p.world.context c).Refuses err ∧ p.world.Unharmed w' c ∧
      ∀ {σ : Type} (handler : Handler σ) (s : σ) (name : String), (v.set name t).result handler p.world s = .error err ∧
        (handler.DropsQuietly → (v.set name t).run handler p.world s = ((.error err, w'), s))
  /-- A method is not looked up, whichever it is, when one of the arguments is refused. -/
  call : ∀ (ts : List Native) (k : Nat) (v : ValueRef) (o : Guest.ObjectId), v.context = c →
    (∀ t ∈ ts, t.FitsWithin k) → p.world.contextObstacle? c = none →
    (p.world.context c).pins.find? v.pin = some (.object o) →
    (p.world.machineFor c).HasRoom (Guest.footprintOf ts) → ¬ p.Allows c (ts.flatMap Native.needs) →
    ∃ err w', (p.world.context c).Refuses err ∧ p.world.Unharmed w' c ∧
      ∀ {σ : Type} (handler : Handler σ) (s : σ) (name : String), (v.call name ts).result handler p.world s = .error err ∧
        (handler.DropsQuietly → (v.call name ts).run handler p.world s = ((.error err, w'), s))

section

open Guest

variable {p : Position} {c : ContextId} {k : Nat} {t : Native} (hp : p.Reachable) (hrests : p.Rests c)
  (hknown : c.index < p.world.contexts.size) (hopen : (p.world.context c).isReleased = false)
  (hm : (p.world.context c).machine.Unaltered)
  (hdepth : (p.world.context c).machine.depth < (p.world.context c).machine.depthLimit)
include hp hrests hknown hopen hm hdepth

theorem Position.Reachable.exists_converts (hfits : t.FitsWithin k) (n memory : Nat)
    (hroom : (p.world.machineWith c memory).HasRoom t.footprint) : ∃ r m' w',
    ((Bridge.ofNative t).run (Engine.ofLevel (n + 4)) (p.world.machineWith c memory)).Comes c p.world r m' w' ∧
      p.Converts c t r m' w' := by
  have hready := hp.ready hrests hopen
  have hbuffer : Intrinsic.bufferPrototype < (p.world.context c).machine.objects.size := hm.lt_size (by decide)
  have hunaltered : (p.world.machineWith c memory).Unaltered := ⟨hm.standing, hm.functions⟩
  obtain ⟨r, m', w', hcomes, -, hothers, hend⟩ := Run.Serves.comesOut
    (makes_of_fitsWithin (n := n) hunaltered hdepth hfits _ [] ⟨.refl, nofun⟩ hroom) (hready.machineWith memory) hknown
    (.refl hready.sound)
  refine ⟨r, m', w', hcomes, ?_⟩
  rw [hp.affords_iff hknown] at hend
  refine hend.imp ?_ ?_
  · rintro ⟨hallowed, v, gs, rfl, ⟨new, hnew, hmade⟩, hgranted⟩
    obtain rfl : gs = new := hnew
    exact ⟨hallowed, v, rfl, gs, hgranted, hmade.forms, fun l hl => (hmade.underway.granted l hl).2, hmade.keeps⟩
  · rintro ⟨hrefused, err, rfl, hrefuses, grants, fs, m₁, roots, rfl, hinv, hgranted⟩
    refine ⟨hrefused, err, rfl, hrefuses, hinv.1.keeps, ?_, hothers⟩
    have hpins : (w'.context c).pins = (p.world.context c).pins := by rw [hgranted.rest]
    have hcells : m₁.cells = (p.world.context c).machine.cells := by rw [hinv.1.same]; rfl
    refine hgranted.undone hready rfl rfl hpins rfl hinv.1.granted hinv.1.orderly hinv.1.keeps hcells hbuffer fun tg => ?_
    rw [hinv.1.same]
    rfl

end

theorem Guest.Machine.Closed.holdingNew {m : Guest.Machine} (h : m.Closed)
    (hsize : Guest.Intrinsic.functionPrototype < m.objects.size) (g : Handle) : (m.holdingNew g).Closed := by
  have hrooted : ∀ v ∈ [Guest.Value.object m.objects.size], ∀ t ∈ Guest.Target.ofValue v,
      t.Known (m.objects.push (Guest.Machine.functionOf g)).size := by
    intro v hv t ht
    obtain rfl : v = .object m.objects.size := List.mem_singleton.mp hv
    rw [List.mem_singleton.mp ht]
    simp
  exact (h.push_functionOf hsize g).rooted hrooted

end Embedding
