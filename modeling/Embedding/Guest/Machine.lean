import Embedding.Event
import Embedding.Guest.Intrinsic
import Embedding.Guest.Target

namespace Embedding.Guest

structure Frame where
  function : Option ObjectId
  isNative : Bool
  line : Nat
deriving DecidableEq, Inhabited

inductive Root where
  | value (v : Value)
  | scope (s : Scope)
deriving Inhabited

def Target.ofRoot : Root → List Target
  | .value v => ofValue v
  | .scope s => ofScope s

structure GlobalLexical where
  name : String
  cell : CellId
  isConstant : Bool
deriving Inhabited

structure Machine where
  objects : Array Object := #[]
  cells : Array (Option Value) := #[]
  nextSymbol : Nat := 64
  sharedSymbols : List (Text × Symbol) := []
  lexicals : List GlobalLexical := []
  frames : List Frame := []
  roots : List Root := []
  depth : Nat := 0
  depthLimit : Nat := 0
  memory : Nat := 0
  memoryLimit : Option Nat := none
  collections : Array (List (List Value)) := #[]
  /-- The jobs that the engine has put off, each with what it refers to. Nothing runs them. -/
  jobs : List (List Value) := []
  realmSize : Nat := 0
  programs : Nat := 0
  /-- How often the builtins of the context are borrowed by work that has not ended. -/
  borrows : Nat := 0
  /-- Whether the host has panicked in its work on the machine. What comes after that does not count. -/
  panicked : Bool := false
deriving Inhabited

inductive Stop
  | suspended
  | exhausted
deriving DecidableEq, Inhabited

/-- What running code asks of the context that it runs in. The context keeps what belongs to the host, and
answers at once. -/
inductive Query where
  | isReleased
  | unmapped
  | register (f : HostFn)
  | pin (v : Value)
  | pinned (id : Nat)
  | beginCall (h : Handle)
  | dropCall (call : PendingCall)
  /-- Lets the context forget how the functions of a program were written. -/
  | forgetTexts (program : Nat)
  | remembersTexts (program : Nat)
  | report (n : Note)
deriving Inhabited

abbrev Query.Reply : Query → Type
  | isReleased => Bool
  | unmapped => Unmapped
  | register _ => Except Error Handle
  | pin _ => Nat
  | pinned _ => Option Value
  | beginCall _ => Option HostFn
  | dropCall _ => Unit
  | forgetTexts _ => Unit
  | remembersTexts _ => Bool
  | report _ => Unit

/-- The calls that are begun after a reply, of those that were begun before it and what the reply begins or gives up. -/
def Query.begunAfter (begun : List PendingCall) : (q : Query) → q.Reply → List PendingCall
  | .beginCall h, some f => ⟨h, f⟩ :: begun
  | .dropCall call, _ => begun.erase call
  | _, _ => begun

theorem Query.begunAfter_append {begun more : List PendingCall} {q : Query}
    (hq : ∀ call, q = .dropCall call → call ∈ begun) (r : q.Reply) :
    q.begunAfter (begun ++ more) r = q.begunAfter begun r ++ more := by
  cases q with
  | beginCall h => cases r <;> rfl
  | dropCall call => exact List.erase_append_left more (hq call rfl)
  | _ => rfl

namespace Machine

/-- The handle through which the object at a place calls a host function. -/
def handleAt? (m : Machine) (o : ObjectId) : Option Handle := m.objects[o]?.bind Object.handle?

def functionOf (h : Handle) : Object where
  proto := some Intrinsic.functionPrototype
  payload := .host h

/-- What a reply of the context does to the machine: a handle comes with a guest function of its own. -/
def grant (m : Machine) : (q : Query) → q.Reply → Machine
  | .register _, .ok h => { m with objects := m.objects.push (functionOf h) }
  | _, _ => m

theorem borrows_grant (m : Machine) (q : Query) (r : q.Reply) : (m.grant q r).borrows = m.borrows := by
  unfold grant
  split <;> rfl

theorem size_le_grant (m : Machine) (q : Query) (r : q.Reply) : m.objects.size ≤ (m.grant q r).objects.size := by
  unfold grant
  split
  · rw [Array.size_push]
    exact Nat.le_succ _
  · exact Nat.le_refl _

/-- The machine without references to objects that are not there. An engine has none. -/
def mended (m : Machine) : Machine :=
  let known (ts : List Target) : Bool := ts.all (Target.isKnown m.objects.size)
  { m with
    objects := m.objects.map fun x => if known (Target.ofObject x) then x else x.emptied
    cells := m.cells.map fun v => if v.all fun v => known (Target.ofValue v) then v else none
    roots := m.roots.filter fun r => known (Target.ofRoot r)
    frames := m.frames.filter fun f => known (f.function.map Target.object).toList
    collections := m.collections.map fun calls => calls.filter fun args => known (Target.ofValues args)
    jobs := m.jobs.filter fun job => known (Target.ofValues job)
    realmSize := min m.realmSize m.objects.size }

@[simp] theorem size_objects_mended (m : Machine) : m.mended.objects.size = m.objects.size := by
  simp [mended]

section HandleAt

variable (m : Machine)

theorem handleAt?_mended : m.mended.handleAt? = m.handleAt? := by
  funext o
  simp only [handleAt?, mended, Array.getElem?_map]
  cases m.objects[o]? with
  | none => rfl
  | some x =>
    simp only [Option.map_some, Option.bind_some]
    split
    · rfl
    · exact x.handle?_emptied

theorem handleAt?_push (x : Object) (o : ObjectId) : { m with objects := m.objects.push x }.handleAt? o =
    if o = m.objects.size then x.handle? else m.handleAt? o := by
  simp only [handleAt?, Array.getElem?_push]
  split <;> rfl

theorem handleAt?_push_of_none {x : Object} (h : x.handle? = none) :
    { m with objects := m.objects.push x }.handleAt? = m.handleAt? := by
  funext o
  rw [handleAt?_push, h]
  split
  · next ho => simp [handleAt?, ho]
  · rfl

theorem handleAt?_modify {f : Object → Object} (hf : ∀ x, (f x).handle? = x.handle?) (o : ObjectId) :
    { m with objects := m.objects.modify o f }.handleAt? = m.handleAt? := by
  funext o'
  simp only [handleAt?, Array.getElem?_modify]
  split
  · cases m.objects[o']? with
    | none => rfl
    | some x => exact hf x
  · rfl

end HandleAt

end Machine

inductive Run (α : Type) where
  | done (a : α) (m : Machine)
  | threw (v : Value) (m : Machine)
  | stopped (why : Stop) (m : Machine)
  | ask (q : Query) (m : Machine) (resume : q.Reply → Run α)
  /-- Makes a call that was begun. The reply is a host value, or what went wrong. -/
  | call (begun : PendingCall) (args : List Native) (m : Machine) (resume : Except String Native → Run α)

namespace Run

instance : Inhabited (Run α) := ⟨stopped .exhausted {}⟩

def andThen (x : Run α) (f : α → Machine → Run β) : Run β :=
  match x with
  | done a m => f a m
  | threw v m => threw v m
  | stopped why m => stopped why m
  | ask q m resume => ask q m fun r => (resume r).andThen f
  | call begun args m resume => call begun args m fun r => (resume r).andThen f

def orElse (x : Run α) (f : Value → Machine → Run α) : Run α :=
  match x with
  | done a m => done a m
  | threw v m => f v m
  | stopped why m => stopped why m
  | ask q m resume => ask q m fun r => (resume r).orElse f
  | call begun args m resume => call begun args m fun r => (resume r).orElse f

def orStopped (x : Run α) (f : Stop → Machine → Run α) : Run α :=
  match x with
  | done a m => done a m
  | threw v m => threw v m
  | stopped why m => f why m
  | ask q m resume => ask q m fun r => (resume r).orStopped f
  | call begun args m resume => call begun args m fun r => (resume r).orStopped f

def leaving (x : Run α) (f : Machine → Machine) : Run α :=
  match x with
  | done a m => done a (f m)
  | threw v m => threw v (f m)
  | stopped why m => stopped why (f m)
  | ask q m resume => ask q m fun r => (resume r).leaving f
  | call begun args m resume => call begun args m fun r => (resume r).leaving f

end Run

namespace Run

/-- A run that leaves the functions of the host alone: of the handles that objects have, only those are new that
the context gives out on the way. -/
def Honest (handles : ObjectId → Option Handle) : Run α → Prop
  | .done _ m | .threw _ m | .stopped _ m => m.handleAt? = handles
  | .ask q m resume => m.handleAt? = handles ∧ ∀ r, (resume r).Honest (m.grant q r).handleAt?
  | .call _ _ m resume => m.handleAt? = handles ∧ ∀ r, (resume r).Honest handles

namespace Honest

variable {handles : ObjectId → Option Handle} {x : Run α} (h : x.Honest handles)
include h

theorem andThen {f : α → Machine → Run β} (hf : ∀ a m, (f a m).Honest m.handleAt?) :
    (x.andThen f).Honest handles := by
  induction x generalizing handles with
  | done a m => exact h ▸ hf a m
  | threw v m => exact h
  | stopped why m => exact h
  | ask q m resume ih => exact ⟨h.1, fun r => ih r (h.2 r)⟩
  | call begun args m resume ih => exact ⟨h.1, fun r => ih r (h.2 r)⟩

theorem orElse {f : Value → Machine → Run α} (hf : ∀ v m, (f v m).Honest m.handleAt?) :
    (x.orElse f).Honest handles := by
  induction x generalizing handles with
  | done a m => exact h
  | threw v m => exact h ▸ hf v m
  | stopped why m => exact h
  | ask q m resume ih => exact ⟨h.1, fun r => ih r (h.2 r)⟩
  | call begun args m resume ih => exact ⟨h.1, fun r => ih r (h.2 r)⟩

theorem orStopped {f : Stop → Machine → Run α} (hf : ∀ why m, (f why m).Honest m.handleAt?) :
    (x.orStopped f).Honest handles := by
  induction x generalizing handles with
  | done a m => exact h
  | threw v m => exact h
  | stopped why m => exact h ▸ hf why m
  | ask q m resume ih => exact ⟨h.1, fun r => ih r (h.2 r)⟩
  | call begun args m resume ih => exact ⟨h.1, fun r => ih r (h.2 r)⟩

theorem leaving {f : Machine → Machine} (hf : ∀ m, (f m).objects = m.objects) : (x.leaving f).Honest handles := by
  have hsame : ∀ m, (f m).handleAt? = m.handleAt? := fun m => by
    unfold Machine.handleAt?
    rw [hf]
  induction x generalizing handles with
  | done a m => exact (hsame m).trans h
  | threw v m => exact (hsame m).trans h
  | stopped why m => exact (hsame m).trans h
  | ask q m resume ih => exact ⟨h.1, fun r => ih r (h.2 r)⟩
  | call begun args m resume ih => exact ⟨h.1, fun r => ih r (h.2 r)⟩

end Honest

/-- A run that gives back what it borrows: no less is borrowed on the way than at first, and at the end as much. -/
def GivesBack (n : Nat) : Run α → Prop
  | .done _ m | .threw _ m | .stopped _ m => m.borrows = n
  | .ask _ m resume => n ≤ m.borrows ∧ ∀ r, (resume r).GivesBack n
  | .call _ _ m resume => n ≤ m.borrows ∧ ∀ r, (resume r).GivesBack n

namespace GivesBack

variable {n : Nat} {x : Run α} (h : x.GivesBack n)
include h

theorem andThen {f : α → Machine → Run β} (hf : ∀ a m, (f a m).GivesBack m.borrows) : (x.andThen f).GivesBack n := by
  induction x with
  | done a m => exact h ▸ hf a m
  | threw v m => exact h
  | stopped why m => exact h
  | ask q m resume ih => exact ⟨h.1, fun r => ih r (h.2 r)⟩
  | call begun args m resume ih => exact ⟨h.1, fun r => ih r (h.2 r)⟩

theorem orElse {f : Value → Machine → Run α} (hf : ∀ v m, (f v m).GivesBack m.borrows) : (x.orElse f).GivesBack n := by
  induction x with
  | done a m => exact h
  | threw v m => exact h ▸ hf v m
  | stopped why m => exact h
  | ask q m resume ih => exact ⟨h.1, fun r => ih r (h.2 r)⟩
  | call begun args m resume ih => exact ⟨h.1, fun r => ih r (h.2 r)⟩

theorem orStopped {f : Stop → Machine → Run α} (hf : ∀ why m, (f why m).GivesBack m.borrows) :
    (x.orStopped f).GivesBack n := by
  induction x with
  | done a m => exact h
  | threw v m => exact h
  | stopped why m => exact h ▸ hf why m
  | ask q m resume ih => exact ⟨h.1, fun r => ih r (h.2 r)⟩
  | call begun args m resume ih => exact ⟨h.1, fun r => ih r (h.2 r)⟩

theorem leaving {f : Machine → Machine} {k : Nat} (hk : k ≤ n) (hf : ∀ m, m.borrows = n → (f m).borrows = k) :
    (x.leaving f).GivesBack k := by
  induction x with
  | done a m | threw v m | stopped why m => exact hf m h
  | ask q m resume ih => exact ⟨Nat.le_trans hk h.1, fun r => ih r (h.2 r)⟩
  | call begun args m resume ih => exact ⟨Nat.le_trans hk h.1, fun r => ih r (h.2 r)⟩

end GivesBack

/-- A run that makes and gives up only calls that have been begun, each of them once. -/
def Makes (begun : List PendingCall) : Run α → Prop
  | .done .. | .threw .. | .stopped .. => True
  | .ask q _ resume => (∀ call, q = .dropCall call → call ∈ begun) ∧ ∀ r, (resume r).Makes (q.begunAfter begun r)
  | .call made _ _ resume => made ∈ begun ∧ ∀ r, (resume r).Makes (begun.erase made)

namespace Makes

variable {begun : List PendingCall} {x : Run α} (h : x.Makes begun)
include h

theorem mono {more : List PendingCall} (hmore : ∀ call, begun.count call ≤ more.count call) : x.Makes more := by
  have hmem {b b' : List PendingCall} (hb : ∀ call, b.count call ≤ b'.count call) {call : PendingCall}
      (hcall : call ∈ b) : call ∈ b' :=
    List.count_pos_iff.mp (Nat.lt_of_lt_of_le (List.count_pos_iff.mpr hcall) (hb call))
  have herase {b b' : List PendingCall} (hb : ∀ call, b.count call ≤ b'.count call) (dropped call : PendingCall) :
      (b.erase dropped).count call ≤ (b'.erase dropped).count call := by
    rw [List.count_erase, List.count_erase]
    exact Nat.sub_le_sub_right (hb call) _
  induction x generalizing begun more with
  | done | threw | stopped => trivial
  | ask q m resume ih =>
    refine ⟨fun call hq => hmem hmore (h.1 call hq), fun r => ih r (h.2 r) fun call => ?_⟩
    cases q with
    | beginCall g =>
      cases r with
      | none => exact hmore call
      | some f =>
        simp only [Query.begunAfter, List.count_cons]
        exact Nat.add_le_add_right (hmore call) _
    | dropCall dropped => exact herase hmore dropped call
    | _ => exact hmore call
  | call made args m resume ih => exact ⟨hmem hmore h.1, fun r => ih r (h.2 r) (herase hmore made)⟩

/-- What comes behind a run finds those calls begun that had been begun besides. -/
theorem andThen {rest : List PendingCall} {f : α → Machine → Run β} (hf : ∀ a m, (f a m).Makes rest) :
    (x.andThen f).Makes (begun ++ rest) := by
  induction x generalizing begun with
  | done a m =>
    refine (hf a m).mono fun call => ?_
    rw [List.count_append]
    exact Nat.le_add_left _ _
  | threw | stopped => trivial
  | ask q m resume ih =>
    refine ⟨fun call hq => List.mem_append_left _ (h.1 call hq), fun r => ?_⟩
    rw [Query.begunAfter_append h.1]
    exact ih r (h.2 r)
  | call made args m resume ih =>
    refine ⟨List.mem_append_left _ h.1, fun r => ?_⟩
    rw [List.erase_append_left _ h.1]
    exact ih r (h.2 r)

theorem orElse {f : Value → Machine → Run α} (hf : ∀ v m, (f v m).Makes []) : (x.orElse f).Makes begun := by
  induction x generalizing begun with
  | done | stopped => trivial
  | threw v m => exact (hf v m).mono fun _ => Nat.zero_le _
  | ask q m resume ih => exact ⟨h.1, fun r => ih r (h.2 r)⟩
  | call made args m resume ih => exact ⟨h.1, fun r => ih r (h.2 r)⟩

theorem orStopped {f : Stop → Machine → Run α} (hf : ∀ why m, (f why m).Makes []) : (x.orStopped f).Makes begun := by
  induction x generalizing begun with
  | done | threw => trivial
  | stopped why m => exact (hf why m).mono fun _ => Nat.zero_le _
  | ask q m resume ih => exact ⟨h.1, fun r => ih r (h.2 r)⟩
  | call made args m resume ih => exact ⟨h.1, fun r => ih r (h.2 r)⟩

theorem leaving {f : Machine → Machine} : (x.leaving f).Makes begun := by
  induction x generalizing begun with
  | done | threw | stopped => trivial
  | ask q m resume ih => exact ⟨h.1, fun r => ih r (h.2 r)⟩
  | call made args m resume ih => exact ⟨h.1, fun r => ih r (h.2 r)⟩

end Makes

/-- A run that takes no object away, and makes its calls on machines that refer to no object that is not there. -/
def Accrues (size : Nat) : Run α → Prop
  | .done _ m | .threw _ m | .stopped _ m => size ≤ m.objects.size
  | .ask q m resume => size ≤ m.objects.size ∧ ∀ r, (resume r).Accrues (m.grant q r).objects.size
  | .call _ _ m resume =>
    (size ≤ m.objects.size ∧ ∃ m' : Machine, m = m'.mended) ∧ ∀ r, (resume r).Accrues m.objects.size

namespace Accrues

variable {n : Nat} {x : Run α} (h : x.Accrues n)
include h

theorem mono {k : Nat} (hk : k ≤ n) : x.Accrues k := by
  cases x with
  | done | threw | stopped => exact Nat.le_trans hk h
  | ask => exact ⟨Nat.le_trans hk h.1, h.2⟩
  | call => exact ⟨⟨Nat.le_trans hk h.1.1, h.1.2⟩, h.2⟩

theorem andThen {f : α → Machine → Run β} (hf : ∀ a m, (f a m).Accrues m.objects.size) : (x.andThen f).Accrues n := by
  induction x generalizing n with
  | done a m => exact (hf a m).mono h
  | threw | stopped => exact h
  | ask q m resume ih => exact ⟨h.1, fun r => ih r (h.2 r)⟩
  | call begun args m resume ih => exact ⟨h.1, fun r => ih r (h.2 r)⟩

theorem orElse {f : Value → Machine → Run α} (hf : ∀ v m, (f v m).Accrues m.objects.size) : (x.orElse f).Accrues n := by
  induction x generalizing n with
  | done | stopped => exact h
  | threw v m => exact (hf v m).mono h
  | ask q m resume ih => exact ⟨h.1, fun r => ih r (h.2 r)⟩
  | call begun args m resume ih => exact ⟨h.1, fun r => ih r (h.2 r)⟩

theorem orStopped {f : Stop → Machine → Run α} (hf : ∀ why m, (f why m).Accrues m.objects.size) :
    (x.orStopped f).Accrues n := by
  induction x generalizing n with
  | done | threw => exact h
  | stopped why m => exact (hf why m).mono h
  | ask q m resume ih => exact ⟨h.1, fun r => ih r (h.2 r)⟩
  | call begun args m resume ih => exact ⟨h.1, fun r => ih r (h.2 r)⟩

theorem leaving {f : Machine → Machine} (hf : ∀ m, (f m).objects = m.objects) : (x.leaving f).Accrues n := by
  have hsame {k : Nat} {m : Machine} (hk : k ≤ m.objects.size) : k ≤ (f m).objects.size := by rwa [hf]
  induction x generalizing n with
  | done | threw | stopped => exact hsame h
  | ask q m resume ih => exact ⟨h.1, fun r => ih r (h.2 r)⟩
  | call begun args m resume ih => exact ⟨h.1, fun r => ih r (h.2 r)⟩

end Accrues

end Run

/-- What is done to a machine. It leaves the functions of the host alone, gives back what it borrows, makes only calls
that it has begun, and takes no object away. -/
structure Deed (α : Type) where
  run : Machine → Run α
  honest : ∀ m, (run m).Honest m.handleAt?
  givesBack : ∀ m, (run m).GivesBack m.borrows
  makes : ∀ m, (run m).Makes []
  accrues : ∀ m, (run m).Accrues m.objects.size

namespace Deed

instance : CoeFun (Deed α) fun _ => Machine → Run α := ⟨run⟩

def step (f : Machine → α × Machine) (hf : ∀ m, (f m).2.handleAt? = m.handleAt?)
    (hborrows : ∀ m, (f m).2.borrows = m.borrows := by intro; rfl)
    (hsize : ∀ m, m.objects.size ≤ (f m).2.objects.size := by intro; exact Nat.le_refl _) : Deed α where
  run m := .done (f m).1 (f m).2
  honest := hf
  givesBack := hborrows
  makes _ := trivial
  accrues := hsize

def throw (v : Value) : Deed α :=
  ⟨fun m => .threw v m, fun _ => rfl, fun _ => rfl, fun _ => trivial, fun _ => Nat.le_refl _⟩

def stop (why : Stop) : Deed α :=
  ⟨fun m => .stopped why m, fun _ => rfl, fun _ => rfl, fun _ => trivial, fun _ => Nat.le_refl _⟩

def andThen (x : Deed α) (f : α → Deed β) : Deed β where
  run m := (x m).andThen fun a m => f a m
  honest m := (x.honest m).andThen fun a m => (f a).honest m
  givesBack m := (x.givesBack m).andThen fun a m => (f a).givesBack m
  makes m := (x.makes m).andThen fun a m => (f a).makes m
  accrues m := (x.accrues m).andThen fun a m => (f a).accrues m

def orElse (x : Deed α) (f : Value → Deed α) : Deed α where
  run m := (x m).orElse fun v m => f v m
  honest m := (x.honest m).orElse fun v m => (f v).honest m
  givesBack m := (x.givesBack m).orElse fun v m => (f v).givesBack m
  makes m := (x.makes m).orElse fun v m => (f v).makes m
  accrues m := (x.accrues m).orElse fun v m => (f v).accrues m

def orStopped (x : Deed α) (f : Stop → Deed α) : Deed α where
  run m := (x m).orStopped fun why m => f why m
  honest m := (x.honest m).orStopped fun why m => (f why).honest m
  givesBack m := (x.givesBack m).orStopped fun why m => (f why).givesBack m
  makes m := (x.makes m).orStopped fun why m => (f why).makes m
  accrues m := (x.accrues m).orStopped fun why m => (f why).accrues m

/-- Works on a machine that is changed at first and at the end, but for its objects. What is borrowed at first is given
back at the end. -/
def between (x : Deed α) (enter : Machine → Machine) (kept : Machine → κ) (leave : κ → Machine → Machine)
    (henter : ∀ m, (enter m).objects = m.objects) (hleave : ∀ k m, (leave k m).objects = m.objects)
    (hborrow : ∀ m, m.borrows ≤ (enter m).borrows := by intro; exact Nat.le_refl _)
    (hreturn : ∀ m m', m'.borrows = (enter m).borrows → (leave (kept m) m').borrows = m.borrows := by
      intro _ _ h; exact h) : Deed α where
  run m :=
    let before := kept m
    (x (enter m)).leaving (leave before)
  honest m := by
    have hsame : (enter m).handleAt? = m.handleAt? := by
      unfold Machine.handleAt?
      rw [henter]
    exact (hsame ▸ x.honest (enter m)).leaving (hleave _)
  givesBack m := (x.givesBack (enter m)).leaving (hborrow m) (hreturn m)
  makes m := (x.makes (enter m)).leaving
  accrues m := ((x.accrues (enter m)).mono (Nat.le_of_eq (by rw [henter]))).leaving (hleave _)

def ask (q : Query) (hq : ∀ call, q ≠ .dropCall call := by nofun) : Deed q.Reply where
  run m := .ask q m fun r => .done r (m.grant q r)
  honest _ := ⟨rfl, fun _ => rfl⟩
  givesBack m := ⟨Nat.le_refl _, m.borrows_grant q⟩
  makes _ := ⟨fun call h => absurd h (hq call), fun _ => trivial⟩
  accrues _ := ⟨Nat.le_refl _, fun _ => Nat.le_refl _⟩

/-- Calls the function of the host behind a handle, if there is one: with what a deed makes ready for it, unless that
fails. -/
def callHost (h : Handle) (prepare : Deed (Except ε (List Native))) :
    Deed (Option (Except ε (Except String Native))) where
  run m := .ask (.beginCall h) m fun
    | none => .done none m
    | some f => (prepare m).andThen fun
      | .error e, m => .ask (.dropCall ⟨h, f⟩) m fun _ => .done (some (.error e)) m
      | .ok args, m => .call ⟨h, f⟩ args m.mended fun reply => .done (some (.ok reply)) m.mended
  honest m := by
    refine ⟨rfl, fun found => ?_⟩
    cases found with
    | none => rfl
    | some f =>
      refine (prepare.honest m).andThen fun made m => ?_
      cases made with
      | error e => exact ⟨rfl, fun _ => rfl⟩
      | ok args => exact ⟨m.handleAt?_mended, fun _ => m.handleAt?_mended⟩
  givesBack m := by
    refine ⟨Nat.le_refl _, fun found => ?_⟩
    cases found with
    | none => rfl
    | some f => exact (prepare.givesBack m).andThen fun made _ => by cases made <;> exact ⟨Nat.le_refl _, fun _ => rfl⟩
  makes m := by
    refine ⟨nofun, fun found => ?_⟩
    cases found with
    | none => trivial
    | some f =>
      refine (prepare.makes m).andThen fun made _ => ?_
      cases made with
      | error e => exact ⟨fun call hcall => by cases hcall; exact List.mem_singleton_self _, fun _ => trivial⟩
      | ok args => exact ⟨List.mem_singleton_self _, fun _ => trivial⟩
  accrues m := by
    refine ⟨Nat.le_refl _, fun found => ?_⟩
    cases found with
    | none => exact Nat.le_refl _
    | some f =>
      refine (prepare.accrues m).andThen fun made m => ?_
      cases made with
      | error e => exact ⟨Nat.le_refl _, fun _ => Nat.le_refl _⟩
      | ok args => exact ⟨⟨Nat.le_of_eq m.size_objects_mended.symm, m, rfl⟩, fun _ => Nat.le_refl _⟩

end Deed

/-- A change of a property: what is absent stays as it is, or takes its default when the property
is new. -/
structure Descriptor where
  value : Option Value := none
  get : Option Value := none
  set : Option Value := none
  writable : Option Bool := none
  enumerable : Option Bool := none
  configurable : Option Bool := none
deriving Inhabited

inductive Refusal where
  | readOnly
  | noSetter
  | notExtensible
  | notConfigurable
  | notObject
  | circular
  | frozenPrototype
  | invalidLength
  | outOfBounds
  | trap (name : String)
deriving DecidableEq, Inhabited

inductive Completion where
  | normal
  | break (label : Option String)
  | continue (label : Option String)
  | return (v : Value)
deriving Inhabited

inductive Binding
  | initial
  | var
  | assign
deriving DecidableEq, Inhabited

structure Env where
  scope : Scope
  isStrict : Bool
  /-- The program that the code belongs to; 0 for code that guest code has made from a text. -/
  program : Nat := 0
  result : Option CellId := none
  yields : Option Nat := none
  /-- The promise of an asynchronous function, and how many roots there were before it was called. -/
  waits : Option (ObjectId × Nat) := none
deriving Inhabited

/-- What rules may ask for. The rules are written against it, and one definition closes them. -/
structure Engine where
  call : (f this : Value) → List Value → Deed Value
  construct : (f : Value) → List Value → (newTarget : Value) → Deed Value
  getOwn : ObjectId → Key → Deed (Option Property)
  define : ObjectId → Key → Descriptor → Deed (Option Refusal)
  has : ObjectId → Key → Deed Bool
  get : ObjectId → Key → (receiver : Value) → Deed Value
  set : ObjectId → Key → Value → (receiver : Value) → Deed (Option Refusal)
  delete : ObjectId → Key → Deed Bool
  ownKeys : ObjectId → Deed (List Key)
  prototype : ObjectId → Deed (Option ObjectId)
  setPrototype : ObjectId → Option ObjectId → Deed (Option Refusal)
  isExtensible : ObjectId → Deed Bool
  preventExtensions : ObjectId → Deed Bool
  isArray : ObjectId → Deed Bool
  eval : Env → Expr → Deed Value
  /-- A member of a chain with the object it was taken from; none when the chain is left. -/
  link : Env → Expr → Deed (Option (Value × Value))
  bind : Env → Binding → (pattern : Expr) → Value → Deed Unit
  exec : Env → Stmt → Deed Completion
  /-- Runs a source as a program: as the global code it is, or as direct evaluation in a place. -/
  program : (source : Text) → Option Env → Deed Value

def Act (α : Type) := Engine → Deed α

namespace Act

instance : Monad Act where
  pure a := fun _ => .step (fun m => (a, m)) fun _ => rfl
  bind x f := fun e => (x e).andThen fun a => f a e

instance : MonadExceptOf Value Act where
  throw v := fun _ => .throw v
  tryCatch x h := fun e => (x e).orElse fun v => h v e

instance : Inhabited (Act α) := ⟨fun _ => .stop .exhausted⟩

def stop (why : Stop) : Act α := fun _ => .stop why

def onStop (x : Act α) (h : Stop → Act α) : Act α := fun e => (x e).orStopped fun why => h why e

def ask (q : Query) (hq : ∀ call, q ≠ .dropCall call := by nofun) : Act q.Reply := fun _ => .ask q hq

/-- Calls the function of the host behind a handle, if there is one, with what is made ready for it. -/
def callHost (h : Handle) (prepare : Act (Except ε (List Native))) : Act (Option (Except ε (Except String Native))) :=
  fun e => .callHost h (prepare e)

def machine : Act Machine := fun _ => .step (fun m => (m, m)) fun _ => rfl

def modifyMachine (f : Machine → Machine) (hf : ∀ m, (f m).objects = m.objects := by intro; rfl)
    (hborrows : ∀ m, (f m).borrows = m.borrows := by intro; rfl) : Act Unit := fun _ =>
  .step (fun m => ((), f m)) (fun m => by
    unfold Machine.handleAt?
    rw [hf]) hborrows fun m => Nat.le_of_eq (congrArg Array.size (hf m)).symm

def panic : Act α := do
  modifyMachine fun m => { m with panicked := true }
  stop .exhausted

def newCollection : Act Nat := do
  let id := (← machine).collections.size
  modifyMachine fun m => { m with collections := m.collections.push [] }
  return id

def clearCollection (id : Nat) : Act Unit :=
  modifyMachine fun m => { m with collections := m.collections.modify id fun _ => [] }

def call (f this : Value) (args : List Value) : Act Value := fun e => e.call f this args

def construct (f : Value) (args : List Value) (newTarget : Value) : Act Value :=
  fun e => e.construct f args newTarget

def getOwn (o : ObjectId) (k : Key) : Act (Option Property) := fun e => e.getOwn o k

def define (o : ObjectId) (k : Key) (d : Descriptor) : Act (Option Refusal) := fun e => e.define o k d

def has (o : ObjectId) (k : Key) : Act Bool := fun e => e.has o k

def getFrom (o : ObjectId) (k : Key) (receiver : Value) : Act Value := fun e => e.get o k receiver

def setOn (o : ObjectId) (k : Key) (v receiver : Value) : Act (Option Refusal) := fun e => e.set o k v receiver

def delete (o : ObjectId) (k : Key) : Act Bool := fun e => e.delete o k

def ownKeys (o : ObjectId) : Act (List Key) := fun e => e.ownKeys o

def prototype (o : ObjectId) : Act (Option ObjectId) := fun e => e.prototype o

def setPrototype (o : ObjectId) (p : Option ObjectId) : Act (Option Refusal) := fun e => e.setPrototype o p

def isExtensible (o : ObjectId) : Act Bool := fun e => e.isExtensible o

def preventExtensions (o : ObjectId) : Act Bool := fun e => e.preventExtensions o

def isArray (o : ObjectId) : Act Bool := fun e => e.isArray o

def eval (env : Env) (x : Expr) : Act Value := fun e => e.eval env x

def link (env : Env) (x : Expr) : Act (Option (Value × Value)) := fun e => e.link env x

def bindPattern (env : Env) (how : Binding) (pattern : Expr) (v : Value) : Act Unit :=
  fun e => e.bind env how pattern v

def exec (env : Env) (s : Stmt) : Act Completion := fun e => e.exec env s

def runProgram (source : Text) (env : Option Env) : Act Value := fun e => e.program source env

def object (o : ObjectId) : Act Object := fun _ => .step (fun m => (m.objects.getD o default, m)) fun _ => rfl

def modifyObject (o : ObjectId) (f : Object → Object) : Act Unit := fun _ =>
  .step (fun m => ((), { m with objects := m.objects.modify o (·.change f) }))
    (fun m => m.handleAt?_modify (fun x => x.handle?_change f) o) (fun _ => rfl)
    fun _ => Nat.le_of_eq Array.size_modify.symm

def setPayload (o : ObjectId) (p : Payload) : Act Unit := modifyObject o fun x => { x with payload := p }

def putProperty (o : ObjectId) (k : Key) (p : Property) : Act Unit := modifyObject o fun x => x.putProperty k p

def alloc (x : Object) : Act ObjectId := fun _ =>
  .step (fun m => (m.objects.size, { m with objects := m.objects.push x.disowned }))
    (fun m => m.handleAt?_push_of_none x.handle?_disowned) (fun _ => rfl)
    fun m => Nat.le_of_lt (by simp)

def newCell (v : Option Value) : Act CellId := fun _ =>
  .step (fun m => (m.cells.size, { m with cells := m.cells.push v })) fun _ => rfl

def cell (c : CellId) : Act (Option Value) := fun _ => .step (fun m => (m.cells.getD c none, m)) fun _ => rfl

def setCell (c : CellId) (v : Option Value) : Act Unit := modifyMachine fun m =>
  { m with cells := m.cells.modify c fun _ => v }

def newSymbol (description : Option Text) (hidden : Bool := false) : Act Symbol := fun _ =>
  .step (fun m => (⟨m.nextSymbol, description, hidden⟩, { m with nextSymbol := m.nextSymbol + 1 })) fun _ => rfl

def holding (vs : List Value) (x : Act α) : Act α := fun e =>
  (x e).between (fun m => { m with roots := vs.map Root.value ++ m.roots }) (·.roots)
    (fun roots m => { m with roots }) (fun _ => rfl) fun _ _ => rfl

def holdingScope (s : Scope) (x : Act α) : Act α := fun e =>
  (x e).between (fun m => { m with roots := .scope s :: m.roots }) (·.roots)
    (fun roots m => { m with roots }) (fun _ => rfl) fun _ _ => rfl

def hold (v : Value) : Act Unit := modifyMachine fun m => { m with roots := .value v :: m.roots }

def atLine (line : Nat) : Act Unit := fun _ =>
  .step (fun m => ((), { m with frames := m.frames.modifyHead fun f => { f with line } })) fun _ => rfl

def deeper (x : Act α) : Act α := fun e =>
  (x e).between (fun m => { m with depth := m.depth + 1 }) (·.depth) (fun depth m => { m with depth })
    (fun _ => rfl) fun _ _ => rfl

/-- Work with the builtins of the context, which are borrowed until it ends. -/
def borrowing (x : Act α) : Act α := fun e =>
  (x e).between (fun m => { m with borrows := m.borrows + 1 }) (·.borrows) (fun borrows m => { m with borrows })
    (fun _ => rfl) (fun _ _ => rfl) (fun m => Nat.le_succ m.borrows) fun _ _ _ => rfl

def inFrame (f : Frame) (x : Act α) : Act α := fun e =>
  (x e).between (fun m => { m with frames := f :: m.frames, depth := m.depth + 1 }) (fun m => (m.frames, m.depth))
    (fun before m => { m with frames := before.1, depth := before.2 }) (fun _ => rfl) fun _ _ => rfl

end Act

end Embedding.Guest
