import Embedding.Proofs.Runs
import Embedding.World.Basic

namespace Embedding.Guest

variable {α β : Type}

/-- What the guest form of a host value takes from the context. -/
inductive Need where
  | function (f : HostFn)
  | passage
deriving DecidableEq

namespace Query

/-- Whether a question is due while this is needed. -/
def IsDue (needs : List Need) : Query → Prop
  | isReleased | report _ => True
  | register f => needs.head? = some (.function f)
  | unmapped => needs.head? = some .passage
  | pin _ | pinned _ | beginCall _ | dropCall _ | forgetTexts _ | remembersTexts _ => False

/-- What comes of a reply: an error, or what is still needed and which functions have been granted by then. A function
that is granted is the next object. -/
def settle (o : ObjectId) (needs : List Need) (grants : List Lease) :
    (q : Query) → q.Reply → Except Error (List Need × List Lease)
  | isReleased, true => .error (.freed .context)
  | register _, .ok h => .ok (needs.tail, grants ++ [⟨o, h⟩])
  | register _, .error err => .error err
  | unmapped, .null => .ok (needs.tail, grants)
  | unmapped, .error => .error (.conversion (Native.shape .unmapped) "guest value")
  | _, _ => .ok (needs, grants)

end Query

namespace Run

/-- Nothing is done any more but to let go of what was held on to. -/
def Fails (err : Error) (m : Machine) (x : Run (Except Error α)) : Prop :=
  ∃ roots, x = .done (.error err) { m with roots }

/-- The run asks for all that is needed and for nothing else, with an invariant whenever it asks, and gives a value when
all has been granted. -/
def Serves (I : List Lease → Machine → Prop) (post : α → List Lease → Machine → Prop) :
    Run (Except Error α) → List Need → List Lease → Prop
  | .done r m, needs, grants => needs = [] ∧ ∃ a, r = .ok a ∧ post a grants m
  | .threw _ _, _, _ | .stopped _ _, _, _ | .call .., _, _ => False
  | .ask q m resume, needs, grants => q.IsDue needs ∧ I grants m ∧ ∀ r,
    match q.settle m.objects.size needs grants r with
    | .ok (needs', grants') => (resume r).Serves I post needs' grants'
    | .error err => (resume r).Fails err m

theorem Fails.leaving {err : Error} {m : Machine} {x : Run (Except Error α)} {f : Machine → Machine}
    (h : x.Fails err m) (hf : ∀ roots, ∃ roots', f { m with roots } = { m with roots := roots' }) :
    (x.leaving f).Fails err m := by
  obtain ⟨roots, rfl⟩ := h
  obtain ⟨roots', hroots⟩ := hf roots
  exact ⟨roots', congrArg (Run.done _) hroots⟩

theorem Fails.andThen {err : Error} {m : Machine} {x : Run (Except Error α)}
    {f : Except Error α → Machine → Run (Except Error β)} (h : x.Fails err m)
    (hf : ∀ m', f (.error err) m' = .done (.error err) m') : (x.andThen f).Fails err m := by
  obtain ⟨roots, rfl⟩ := h
  exact ⟨roots, hf _⟩

namespace Serves

variable {I : List Lease → Machine → Prop} {P Q : α → List Lease → Machine → Prop}
  {x : Run (Except Error α)} {needs : List Need} {grants : List Lease}

theorem imp (h : x.Serves I P needs grants) (hpost : ∀ a gs m, P a gs m → Q a gs m) :
    x.Serves I Q needs grants := by
  induction x generalizing needs grants with
  | done r m =>
    obtain ⟨hneeds, a, hr, ha⟩ := h
    exact ⟨hneeds, a, hr, hpost a _ m ha⟩
  | threw v m | stopped why m | call begun args m resume => exact h
  | ask q m resume ih =>
    refine ⟨h.1, h.2.1, fun r => ?_⟩
    have hr := h.2.2 r
    split at hr
    · exact ih r hr
    · exact hr

theorem gives (h : x.Serves I P needs grants) {log : List Exchange} {a : α} {m : Machine}
    (hgives : x.Gives log (.ok a) m) : ∃ gs, P a gs m := by
  induction x generalizing needs grants log with
  | done r m' =>
    obtain ⟨-, b, rfl, hb⟩ := h
    obtain ⟨-, hab, rfl⟩ := gives_done.mp hgives
    cases hab
    exact ⟨grants, hb⟩
  | threw v m' | stopped why m' | call begun args m' resume => exact h.elim
  | ask q m' resume ih =>
    cases hgives with
    | @ask _ _ _ _ r _ _ hgives =>
      have hr := h.2.2 r
      split at hr
      · exact ih r hr hgives
      · obtain ⟨roots, hfails⟩ := hr
        rw [hfails] at hgives
        cases (gives_done.mp hgives).2.1

theorem leaving {f : Machine → Machine} (h : x.Serves I (fun a gs m => Q a gs (f m)) needs grants)
    (hf : ∀ (m : Machine) roots, ∃ roots', f { m with roots } = { m with roots := roots' }) :
    (x.leaving f).Serves I Q needs grants := by
  induction x generalizing needs grants with
  | done r m => exact h
  | threw v m | stopped why m | call begun args m resume => exact h
  | ask q m resume ih =>
    refine ⟨h.1, h.2.1, fun r => ?_⟩
    have hr := h.2.2 r
    split at hr
    · exact ih r hr
    · exact hr.leaving (hf m)

end Serves

end Run

theorem Query.IsDue.append {q : Query} {needs : List Need} (h : q.IsDue needs) (rest : List Need) :
    q.IsDue (needs ++ rest) := by
  cases needs with
  | nil => cases q <;> first | exact h | cases h
  | cons need needs => cases q <;> exact h

theorem Query.settle_append {q : Query} {needs : List Need} (h : q.IsDue needs) (rest : List Need) (o : ObjectId)
    (grants : List Lease) (r : q.Reply) : q.settle o (needs ++ rest) grants r =
      (q.settle o needs grants r).map fun s => (s.1 ++ rest, s.2) := by
  cases needs with
  | nil =>
    cases q with
    | isReleased => cases r <;> rfl
    | report n => rfl
    | register | unmapped => cases h
    | _ => exact h.elim
  | cons need needs =>
    cases q with
    | isReleased | unmapped | register => cases r <;> rfl
    | report n => rfl
    | _ => exact h.elim

namespace Bridge

def Serves (I : List Lease → Machine → Prop) (x : Bridge α) (e : Engine) (m : Machine) (needs : List Need)
    (grants : List Lease) (post : α → List Lease → Machine → Prop) : Prop :=
  (x.run e m).Serves I post needs grants

namespace Serves

variable {I : List Lease → Machine → Prop} {x : Bridge α} {f : α → Bridge β} {e : Engine} {m : Machine}
  {needs rest : List Need} {grants : List Lease} {P : α → List Lease → Machine → Prop}
  {post : β → List Lease → Machine → Prop}

theorem bind (h : x.Serves I e m needs grants P)
    (hf : ∀ a gs m', P a gs m' → (f a).Serves I e m' rest gs post) :
    (x >>= f).Serves I e m (needs ++ rest) grants post := by
  unfold Bridge.Serves at h ⊢
  rw [run_bind]
  generalize x.run e m = run at h
  induction run generalizing needs grants with
  | done r m' =>
    obtain ⟨rfl, a, rfl, ha⟩ := h
    exact hf a grants m' ha
  | threw v m' | stopped why m' | call begun args m' resume => exact h
  | ask q m' resume ih =>
    obtain ⟨hdue, hinv, hresume⟩ := h
    refine ⟨hdue.append rest, hinv, fun r => ?_⟩
    have hr := hresume r
    rw [q.settle_append hdue]
    split at hr
    · next hok =>
      rw [hok]
      exact ih r hr
    · next hfail =>
      rw [hfail]
      exact hr.andThen fun _ => rfl

theorem imp {Q : α → List Lease → Machine → Prop} (h : x.Serves I e m needs grants P)
    (hpost : ∀ a gs m', P a gs m' → Q a gs m') : x.Serves I e m needs grants Q :=
  Run.Serves.imp h hpost

theorem pure {a : α} (h : P a grants m) : (pure a : Bridge α).Serves I e m [] grants P := ⟨rfl, a, rfl, h⟩

theorem of_done {a : α} {m' : Machine} (h : x.run e m = .done (.ok a) m') (hpost : P a grants m') :
    x.Serves I e m [] grants P := by
  rw [Bridge.Serves, h]
  exact ⟨rfl, a, rfl, hpost⟩

theorem step {a : α} {m' : Machine} (h : x.run e m = .done (.ok a) m') (hf : (f a).Serves I e m' rest grants post) :
    (x >>= f).Serves I e m rest grants post := by
  rw [Bridge.Serves, run_bind, h]
  exact hf

theorem holding {vs : List Value}
    (h : x.Serves I e (m.rooted vs) needs grants fun a gs m' => P a gs { m' with roots := m.roots }) :
    (holding vs x).Serves I e m needs grants P :=
  Run.Serves.leaving h fun _ _ => ⟨m.roots, rfl⟩

theorem requireLive {g : Unit → Bridge β} (hinv : I grants m) (hg : (g ()).Serves I e m needs grants post) :
    (requireLive >>= g).Serves I e m needs grants post := by
  refine ⟨trivial, hinv, fun released => ?_⟩
  cases released with
  | true => exact ⟨m.roots, rfl⟩
  | false => exact hg

end Serves

end Bridge

end Embedding.Guest
