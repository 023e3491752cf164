import Embedding.Guest.Bridge.Basic

namespace Embedding.Guest

variable {α β : Type}

inductive Exchange where
  | asked (q : Query) (reply : q.Reply)
  | called (begun : PendingCall) (args : List Native) (reply : Except String Native)

def Exchange.isCall : Exchange → Bool
  | asked .. => false
  | called .. => true

/-- Whether a reply is one that a live context gives. -/
def Query.Live : (q : Query) → q.Reply → Prop
  | .isReleased, r => r = false
  | .unmapped, _ | .register _, _ | .pin _, _ | .pinned _, _ | .beginCall _, _ | .dropCall _, _ | .forgetTexts _, _
  | .remembersTexts _, _ | .report _, _ => True

namespace Run

inductive Gives : Run α → List Exchange → α → Machine → Prop where
  | done {a : α} {m : Machine} : Gives (.done a m) [] a m
  | ask {q : Query} {m₀ m : Machine} {resume : q.Reply → Run α} {r : q.Reply} {log : List Exchange} {a : α} :
      Gives (resume r) log a m → Gives (.ask q m₀ resume) (.asked q r :: log) a m
  | call {begun : PendingCall} {args : List Native} {m₀ m : Machine} {resume : Except String Native → Run α}
      {r : Except String Native} {log : List Exchange} {a : α} :
      Gives (resume r) log a m → Gives (.call begun args m₀ resume) (.called begun args r :: log) a m

/-- A run that ends well, and has nothing to do with the functions of the host. -/
def Ends (post : α → Machine → Prop) : Run α → Prop
  | .done a m => post a m
  | .threw _ _ => False
  | .stopped _ _ => False
  | .ask q _ resume => (∀ f, q ≠ .register f) ∧ ∀ r, q.Live r → (resume r).Ends post
  | .call .. => False

section Gives

variable {log : List Exchange} {m : Machine}

theorem gives_done {a b : α} {m₀ : Machine} : (done a m₀).Gives log b m ↔ log = [] ∧ b = a ∧ m = m₀ := by
  constructor
  · intro h
    cases h
    exact ⟨rfl, rfl, rfl⟩
  · rintro ⟨rfl, rfl, rfl⟩
    exact .done

theorem not_gives_threw {v : Value} {m₀ : Machine} {a : α} : ¬ (threw v m₀ : Run α).Gives log a m := nofun

theorem not_gives_stopped {why : Stop} {m₀ : Machine} {a : α} : ¬ (stopped why m₀ : Run α).Gives log a m := nofun

theorem exists_of_gives_andThen {x : Run α} {f : α → Machine → Run β} {b : β} (h : (x.andThen f).Gives log b m) :
    ∃ l₁ l₂ a m', log = l₁ ++ l₂ ∧ x.Gives l₁ a m' ∧ (f a m').Gives l₂ b m := by
  induction x generalizing log with
  | done a m' => exact ⟨[], log, a, m', rfl, .done, h⟩
  | threw v m' => exact absurd h not_gives_threw
  | stopped why m' => exact absurd h not_gives_stopped
  | ask q m' resume ih =>
    cases h with
    | ask h =>
      obtain ⟨l₁, l₂, a, m'', rfl, hx, hf⟩ := ih _ h
      exact ⟨_, l₂, a, m'', rfl, .ask hx, hf⟩
  | call begun args m' resume ih =>
    cases h with
    | call h =>
      obtain ⟨l₁, l₂, a, m'', rfl, hx, hf⟩ := ih _ h
      exact ⟨_, l₂, a, m'', rfl, .call hx, hf⟩

theorem gives_of_leaving {x : Run α} {f : Machine → Machine} {a : α} (h : (x.leaving f).Gives log a m) :
    ∃ m', x.Gives log a m' ∧ m = f m' := by
  induction x generalizing log with
  | done b m' =>
    obtain ⟨rfl, rfl, rfl⟩ := gives_done.mp h
    exact ⟨m', .done, rfl⟩
  | threw v m' => exact absurd h not_gives_threw
  | stopped why m' => exact absurd h not_gives_stopped
  | ask q m' resume ih =>
    cases h with
    | ask h =>
      obtain ⟨m'', hx, hm⟩ := ih _ h
      exact ⟨m'', .ask hx, hm⟩
  | call begun args m' resume ih =>
    cases h with
    | call h =>
      obtain ⟨m'', hx, hm⟩ := ih _ h
      exact ⟨m'', .call hx, hm⟩

/-- What a run gives that can be caught, it gives itself, or else the way on from what it threw gives it. -/
theorem gives_of_orElse {x : Run α} {f : Value → Machine → Run α} {a : α} (h : (x.orElse f).Gives log a m) :
    x.Gives log a m ∨ ∃ v m' l, (f v m').Gives l a m := by
  induction x generalizing log with
  | done b m' => exact .inl h
  | threw v m' => exact .inr ⟨v, m', log, h⟩
  | stopped why m' => exact absurd h not_gives_stopped
  | ask q m' resume ih =>
    cases h with
    | ask h => exact (ih _ h).imp .ask id
  | call begun args m' resume ih =>
    cases h with
    | call h => exact (ih _ h).imp .call id

end Gives

namespace Ends

variable {P Q : α → Machine → Prop} {x : Run α}

theorem imp (h : x.Ends P) (hpost : ∀ a m, P a m → Q a m) : x.Ends Q := by
  induction x with
  | done a m => exact hpost a m h
  | threw v m => exact h
  | stopped why m => exact h
  | ask q m resume ih => exact ⟨h.1, fun r hr => ih r (h.2 r hr)⟩
  | call begun args m resume ih => exact h

theorem andThen {post : β → Machine → Prop} {f : α → Machine → Run β} (h : x.Ends P)
    (hf : ∀ a m, P a m → (f a m).Ends post) : (x.andThen f).Ends post := by
  induction x with
  | done a m => exact hf a m h
  | threw v m => exact h
  | stopped why m => exact h
  | ask q m resume ih => exact ⟨h.1, fun r hr => ih r (h.2 r hr)⟩
  | call begun args m resume ih => exact h

theorem leaving {f : Machine → Machine} (h : x.Ends fun a m => Q a (f m)) : (x.leaving f).Ends Q := by
  induction x with
  | done a m => exact h
  | threw v m => exact h
  | stopped why m => exact h
  | ask q m resume ih => exact ⟨h.1, fun r hr => ih r (h.2 r hr)⟩
  | call begun args m resume ih => exact h

theorem orElse {f : Value → Machine → Run α} (h : x.Ends P) : (x.orElse f).Ends P := by
  induction x with
  | done a m => exact h
  | threw v m => exact h.elim
  | stopped why m => exact h
  | ask q m resume ih => exact ⟨h.1, fun r hr => ih r (h.2 r hr)⟩
  | call begun args m resume ih => exact h

end Ends

theorem andThen_done (x : Run α) : x.andThen .done = x := by
  induction x with
  | done a m => rfl
  | threw v m => rfl
  | stopped why m => rfl
  | ask q m resume ih => exact congrArg (Run.ask q m) (funext ih)
  | call begun args m resume ih => exact congrArg (Run.call begun args m) (funext ih)

theorem andThen_assoc {γ : Type} (x : Run α) (f : α → Machine → Run β) (g : β → Machine → Run γ) :
    (x.andThen f).andThen g = x.andThen fun a m => (f a m).andThen g := by
  induction x with
  | done a m => rfl
  | threw v m => rfl
  | stopped why m => rfl
  | ask q m resume ih => exact congrArg (Run.ask q m) (funext ih)
  | call begun args m resume ih => exact congrArg (Run.call begun args m) (funext ih)

end Run

theorem Deed.ext {x y : Deed α} (h : ∀ m, x m = y m) : x = y := by
  cases x
  cases y
  congr
  exact funext h

instance : LawfulMonad Act := LawfulMonad.mk' Act
  (fun x => funext fun e => Deed.ext fun m => (x e m).andThen_done)
  (fun _ _ => rfl)
  (fun x f g => funext fun e => Deed.ext fun m => (x e m).andThen_assoc (fun a m => f a e m) fun b m => g b e m)

/-- The machine while some values are held on to. -/
def Machine.rooted (m : Machine) (vs : List Value) : Machine := { m with roots := vs.map Root.value ++ m.roots }

/-- The machine while the builtins of its context are borrowed once more. -/
def Machine.borrowed (m : Machine) : Machine := { m with borrows := m.borrows + 1 }

namespace Act

theorem run_congr {x y : Act α} (h : x = y) (e : Engine) (m : Machine) : x e m = y e m := by
  rw [h]

variable (e : Engine) (m : Machine)

@[simp] theorem run_pure (a : α) : (pure a : Act α) e m = .done a m := rfl

theorem run_bind (x : Act α) (f : α → Act β) : (x >>= f) e m = (x e m).andThen fun a m => f a e m := rfl

variable {e m}

theorem run_bind_of_done {x : Act α} {a : α} {m' : Machine} (h : x e m = .done a m') (f : α → Act β) :
    (x >>= f) e m = f a e m' := by
  rw [run_bind, h]
  rfl

@[simp] theorem run_machine : machine e m = .done m m := rfl

@[simp] theorem run_modifyMachine (f : Machine → Machine) (hf : ∀ m, (f m).objects = m.objects)
    (hborrows : ∀ m, (f m).borrows = m.borrows) : modifyMachine f hf hborrows e m = .done () (f m) := rfl

theorem run_alloc {x : Object} (h : x.handle? = none) :
    alloc x e m = .done m.objects.size { m with objects := m.objects.push x } := by
  show Run.done _ { m with objects := m.objects.push x.disowned } = _
  rw [x.disowned_of_handle? h]

theorem run_holding (vs : List Value) (x : Act α) : holding vs x e m =
    (x e (m.rooted vs)).leaving fun m' => { m' with roots := m.roots } := rfl

theorem run_inFrame (f : Frame) (x : Act α) : inFrame f x e m =
    (x e { m with frames := f :: m.frames, depth := m.depth + 1 }).leaving fun m' =>
      { m' with frames := m.frames, depth := m.depth } := rfl

theorem run_object {o : ObjectId} {x : Object} (h : m.objects[o]? = some x) : object o e m = .done x m := by
  show Run.done (m.objects.getD o default) m = _
  rw [Array.getD_eq_getD_getElem?, h]
  rfl

theorem run_tryCatch_of_done {x : Act α} {a : α} {m' : Machine} (h : x e m = .done a m') (f : Value → Act α) :
    (tryCatch x f) e m = .done a m' := by
  show (x e m).orElse _ = _
  rw [h]
  rfl

end Act

namespace Bridge

variable {x : Bridge α} {f : α → Bridge β} {e : Engine} {m : Machine}

theorem run_bind : (x >>= f).run e m = (x.run e m).andThen fun r m =>
    match r with
    | .ok a => (f a).run e m
    | .error err => .done (.error err) m := by
  show (x.run >>= ExceptT.bindCont f) e m = _
  rw [Act.run_bind]
  congr 1
  funext r m
  cases r <;> rfl

@[simp] theorem run_pure (a : α) : (pure a : Bridge α).run e m = .done (.ok a) m := rfl

@[simp] theorem run_throw (err : Error) : (throw err : Bridge α).run e m = .done (.error err) m := rfl

theorem run_ofGuest (y : Act α) : (ofGuest y).run e m = (y e m).andThen fun a m => .done (.ok a) m := rfl

theorem run_check_of_done {y : Act α} {a : α} {m' : Machine} (h : y e m = .done a m') :
    (check y).run e m = .done (.ok a) m' := by
  have hdone : (do return .ok (← y) : Act (Except Error α)) e m = .done (.ok a) m' := by
    rw [Act.run_bind_of_done h, Act.run_pure]
  exact Act.run_tryCatch_of_done hdone fun v => do return .error (.eval (← exceptionOf v))

theorem run_after {a : α} {m' : Machine} (h : x.run e m = .done (.ok a) m') :
    (x >>= f).run e m = (f a).run e m' := by
  rw [run_bind, h]
  rfl

section Gives

variable {log : List Exchange} {m' : Machine}

theorem exists_of_gives_bind {b : β} (h : ((x >>= f).run e m).Gives log (.ok b) m') :
    ∃ l₁ l₂ a m₁, log = l₁ ++ l₂ ∧ (x.run e m).Gives l₁ (.ok a) m₁ ∧ ((f a).run e m₁).Gives l₂ (.ok b) m' := by
  rw [run_bind] at h
  obtain ⟨l₁, l₂, r, m₁, hlog, hx, hf⟩ := Run.exists_of_gives_andThen h
  cases r with
  | ok a => exact ⟨l₁, l₂, a, m₁, hlog, hx, hf⟩
  | error err => cases (Run.gives_done.mp hf).2.1

theorem gives_caught {a : α} (h : (x.caught.run e m).Gives log (.ok a) m') : (x.run e m).Gives log (.ok a) m' := by
  rcases Run.gives_of_orElse (f := fun v m => (do return .error (.eval (← exceptionOf v)) : Act (Except Error α)) e m) h
    with h | ⟨v, m₁, l, h⟩
  · exact h
  · obtain ⟨_, _, exception, m₂, _, _, hreturn⟩ := Run.exists_of_gives_andThen h
    cases (Run.gives_done.mp hreturn).2.1

theorem gives_holding {vs : List Value} {a : α} (h : ((holding vs x).run e m).Gives log (.ok a) m') :
    ∃ m₁, (x.run e (m.rooted vs)).Gives log (.ok a) m₁ ∧
      m' = { m₁ with roots := m.roots } :=
  Run.gives_of_leaving h

theorem gives_borrowing {a : α} (h : ((borrowing x).run e m).Gives log (.ok a) m') :
    ∃ m₁, (x.run e m.borrowed).Gives log (.ok a) m₁ ∧ m' = { m₁ with borrows := m.borrows } :=
  Run.gives_of_leaving h

theorem exists_of_gives_ask {q : Query} {hq : ∀ call, q ≠ .dropCall call} {r : q.Reply}
    (h : ((ask q hq).run e m).Gives log (.ok r) m') :
    log = [.asked q r] ∧ m' = m.grant q r := by
  cases h with
  | ask h =>
    obtain ⟨rfl, hr, rfl⟩ := Run.gives_done.mp h
    cases hr
    exact ⟨rfl, rfl⟩

theorem gives_requireLive {u : Unit} (h : (requireLive.run e m).Gives log (.ok u) m') :
    log = [.asked .isReleased false] ∧ m' = m := by
  obtain ⟨l₁, l₂, released, m₁, rfl, hask, hrest⟩ := exists_of_gives_bind h
  obtain ⟨rfl, rfl⟩ := exists_of_gives_ask hask
  cases released with
  | true => cases (Run.gives_done.mp hrest).2.1
  | false =>
    obtain ⟨rfl, -, rfl⟩ := Run.gives_done.mp hrest
    exact ⟨rfl, rfl⟩

end Gives

def Ends (x : Bridge α) (e : Engine) (m : Machine) (post : α → Machine → Prop) : Prop :=
  (x.run e m).Ends fun r m' => ∃ a, r = .ok a ∧ post a m'

namespace Ends

variable {P : α → Machine → Prop} {post : β → Machine → Prop}

theorem bind (h : x.Ends e m P) (hf : ∀ a m', P a m' → (f a).Ends e m' post) : (x >>= f).Ends e m post := by
  rw [Bridge.Ends, run_bind]
  apply Run.Ends.andThen h
  rintro _ m' ⟨a, rfl, ha⟩
  exact hf a m' ha

theorem andThen {a : α} (h : x.Ends e m fun b m' => b = a ∧ m' = m) (hf : (f a).Ends e m post) :
    (x >>= f).Ends e m post := by
  apply h.bind
  intro b m' hb
  obtain ⟨rfl, hm⟩ := hb
  rwa [hm]

theorem after {a : α} {m' : Machine} (h : x.run e m = .done (.ok a) m') (hf : (f a).Ends e m' post) :
    (x >>= f).Ends e m post := by
  rw [Bridge.Ends, run_after h]
  exact hf

theorem imp {Q : α → Machine → Prop} (h : x.Ends e m P) (hpost : ∀ a m', P a m' → Q a m') : x.Ends e m Q := by
  apply Run.Ends.imp h
  rintro _ m' ⟨a, rfl, ha⟩
  exact ⟨a, rfl, hpost a m' ha⟩

theorem pure {a : α} (h : P a m) : (pure a : Bridge α).Ends e m P := ⟨a, rfl, h⟩

theorem ofGuest {y : Act α} {a : α} {m' : Machine} (h : y e m = .done a m') (hpost : P a m') :
    (ofGuest y).Ends e m P := by
  rw [Bridge.Ends, run_ofGuest, h]
  exact ⟨a, rfl, hpost⟩

theorem of_done {a : α} {m' : Machine} (h : x.run e m = .done (.ok a) m') (hpost : P a m') : x.Ends e m P := by
  rw [Bridge.Ends, h]
  exact ⟨a, rfl, hpost⟩

theorem check {y : Act α} {a : α} {m' : Machine} (h : y e m = .done a m') (hpost : P a m') : (check y).Ends e m P :=
  of_done (run_check_of_done h) hpost

theorem ask {q : Query} {hq : ∀ call, q ≠ .dropCall call} {P : q.Reply → Machine → Prop} (hregister : ∀ f, q ≠ .register f)
    (hpost : ∀ r, q.Live r → P r (m.grant q r)) : (ask q hq).Ends e m P :=
  ⟨hregister, fun r hr => ⟨r, rfl, hpost r hr⟩⟩

theorem requireLive {P : Unit → Machine → Prop} (hpost : P () m) : requireLive.Ends e m P := by
  apply bind (P := fun r m' => r = false ∧ m' = m)
  · exact ask nofun fun r hr => ⟨hr, rfl⟩
  · rintro r m' ⟨rfl, rfl⟩
    exact pure hpost

theorem mapM {as : List α} {f : α → Bridge β} {g : α → β} {I : Machine → Prop} (hm : I m)
    (hf : ∀ a ∈ as, ∀ m', I m' → (f a).Ends e m' fun b m'' => b = g a ∧ I m'') :
    (as.mapM f).Ends e m fun bs m' => bs = as.map g ∧ I m' := by
  induction as generalizing m with
  | nil =>
    rw [List.mapM_nil]
    exact pure ⟨rfl, hm⟩
  | cons a as ih =>
    rw [List.mapM_cons]
    apply bind (hf a List.mem_cons_self m hm)
    rintro _ m₁ ⟨rfl, hm₁⟩
    apply bind (ih hm₁ fun a' ha' => hf a' (List.mem_cons_of_mem a ha'))
    rintro _ m₂ ⟨rfl, hm₂⟩
    exact pure ⟨rfl, hm₂⟩

theorem foldlM {as : List α} {f : β → α → Bridge β} {b : β} {I : Nat → β → Machine → Prop} (hm : I 0 b m)
    (hf : ∀ (i : Nat) (hi : i < as.length) (b : β) (m' : Machine), I i b m' → (f b as[i]).Ends e m' (I (i + 1))) :
    (as.foldlM f b).Ends e m (I as.length) := by
  induction as generalizing b m I with
  | nil =>
    rw [List.foldlM_nil]
    exact pure hm
  | cons a as ih =>
    rw [List.foldlM_cons]
    apply bind (hf 0 (Nat.zero_lt_succ _) b m hm)
    intro b' m' hm'
    exact ih (I := fun i => I (i + 1)) hm' fun i hi => hf (i + 1) (Nat.succ_lt_succ hi)

theorem holding {vs : List Value}
    (h : x.Ends e (m.rooted vs) fun a m' => P a { m' with roots := m.roots }) :
    (holding vs x).Ends e m P :=
  Run.Ends.leaving h

theorem deeper (h : x.Ends e { m with depth := m.depth + 1 } fun a m' => P a { m' with depth := m.depth }) :
    (deeper x).Ends e m P :=
  Run.Ends.leaving h

theorem borrowing (h : x.Ends e m.borrowed fun a m' => P a { m' with borrows := m.borrows }) :
    (borrowing x).Ends e m P :=
  Run.Ends.leaving h

end Ends

end Bridge

end Embedding.Guest
