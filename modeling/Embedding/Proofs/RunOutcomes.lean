import Embedding.Proofs.WorkInside

namespace Embedding.Guest

variable {α β γ : Type}

inductive Cut where
  | threw (v : Value)
  | stopped (why : Stop)

/-- What a run comes to on one of its ways. -/
inductive Run.Reaches : Run α → List Exchange → Except Cut α → Machine → Prop where
  | done {a : α} {m : Machine} : Reaches (.done a m) [] (.ok a) m
  | threw {v : Value} {m : Machine} : Reaches (.threw v m) [] (.error (.threw v)) m
  | stopped {why : Stop} {m : Machine} : Reaches (.stopped why m) [] (.error (.stopped why)) m
  | ask {q : Query} {m₀ m : Machine} {resume : q.Reply → Run α} {r : q.Reply} {log : List Exchange}
      {z : Except Cut α} : Reaches (resume r) log z m → Reaches (.ask q m₀ resume) (.asked q r :: log) z m
  | call {begun : PendingCall} {args : List Native} {m₀ m : Machine} {resume : Except String Native → Run α}
      {r : Except String Native} {log : List Exchange} {z : Except Cut α} :
      Reaches (resume r) log z m → Reaches (.call begun args m₀ resume) (.called begun args r :: log) z m

namespace Run

variable {log l₁ l₂ : List Exchange} {m m₁ : Machine} {x : Run α} {f : α → Machine → Run β} {a : α}

@[simp] theorem reaches_done {r : Except Cut α} : (done a m₁).Reaches log r m ↔ log = [] ∧ r = .ok a ∧ m = m₁ := by
  constructor
  · rintro ⟨⟩
    exact ⟨rfl, rfl, rfl⟩
  · rintro ⟨rfl, rfl, rfl⟩
    exact .done

@[simp] theorem reaches_threw {v : Value} {r : Except Cut α} :
    (threw v m₁ : Run α).Reaches log r m ↔ log = [] ∧ r = .error (.threw v) ∧ m = m₁ := by
  constructor
  · rintro ⟨⟩
    exact ⟨rfl, rfl, rfl⟩
  · rintro ⟨rfl, rfl, rfl⟩
    exact .threw

@[simp] theorem reaches_stopped {why : Stop} {r : Except Cut α} :
    (stopped why m₁ : Run α).Reaches log r m ↔ log = [] ∧ r = .error (.stopped why) ∧ m = m₁ := by
  constructor
  · rintro ⟨⟩
    exact ⟨rfl, rfl, rfl⟩
  · rintro ⟨rfl, rfl, rfl⟩
    exact .stopped

theorem reaches_ask {q : Query} {resume : q.Reply → Run α} {r : Except Cut α} :
    (ask q m₁ resume).Reaches log r m ↔ ∃ reply l, log = .asked q reply :: l ∧ (resume reply).Reaches l r m := by
  constructor
  · rintro (_ | _ | _ | h)
    exact ⟨_, _, rfl, h⟩
  · rintro ⟨reply, l, rfl, h⟩
    exact .ask h

theorem reaches_call {begun : PendingCall} {args : List Native} {resume : Except String Native → Run α} {r : Except Cut α} :
    (call begun args m₁ resume).Reaches log r m ↔
      ∃ reply l, log = .called begun args reply :: l ∧ (resume reply).Reaches l r m := by
  constructor
  · rintro (_ | _ | _ | _ | h)
    exact ⟨_, _, rfl, h⟩
  · rintro ⟨reply, l, rfl, h⟩
    exact .call h

theorem Reaches.unique {r r' : Except Cut α} {m' : Machine} (h : x.Reaches log r m) (h' : x.Reaches log r' m') :
    r' = r ∧ m' = m := by
  induction h with
  | done =>
    cases h'
    exact ⟨rfl, rfl⟩
  | threw =>
    cases h'
    exact ⟨rfl, rfl⟩
  | stopped =>
    cases h'
    exact ⟨rfl, rfl⟩
  | ask _ ih =>
    cases h' with
    | ask h' => exact ih h'
  | call _ ih =>
    cases h' with
    | call h' => exact ih h'

theorem Reaches.append_inj {r r' : Except Cut α} {m' : Machine} {k₁ k₂ : List Exchange} (h : x.Reaches l₁ r m)
    (h' : x.Reaches k₁ r' m') (hlog : l₁ ++ l₂ = k₁ ++ k₂) : k₁ = l₁ ∧ k₂ = l₂ := by
  induction h generalizing k₁ with
  | done | threw | stopped =>
    cases h'
    exact ⟨rfl, hlog.symm⟩
  | ask _ ih =>
    cases h' with
    | ask h' =>
      cases List.cons.inj hlog |>.1
      obtain ⟨rfl, hrest⟩ := ih h' (List.cons.inj hlog).2
      exact ⟨rfl, hrest⟩
  | call _ ih =>
    cases h' with
    | call h' =>
      cases List.cons.inj hlog |>.1
      obtain ⟨rfl, hrest⟩ := ih h' (List.cons.inj hlog).2
      exact ⟨rfl, hrest⟩

theorem Reaches.andThen {r : Except Cut β} (h : x.Reaches l₁ (.ok a) m₁) (hf : (f a m₁).Reaches l₂ r m) :
    (x.andThen f).Reaches (l₁ ++ l₂) r m := by
  generalize hr : Except.ok a = z at h
  induction h with
  | done => cases hr; exact hf
  | threw | stopped => cases hr
  | ask _ ih => exact .ask (ih hf hr)
  | call _ ih => exact .call (ih hf hr)

theorem Reaches.andThen_of_cut {cut : Cut} (h : x.Reaches log (.error cut) m) :
    (x.andThen f).Reaches log (.error cut) m := by
  generalize hr : Except.error cut = z at h
  induction h with
  | done => cases hr
  | threw => cases hr; exact .threw
  | stopped => cases hr; exact .stopped
  | ask _ ih => exact .ask (ih hr)
  | call _ ih => exact .call (ih hr)

theorem reaches_andThen {r : Except Cut β} : (x.andThen f).Reaches log r m ↔
    (∃ l₁ l₂ a m₁, log = l₁ ++ l₂ ∧ x.Reaches l₁ (.ok a) m₁ ∧ (f a m₁).Reaches l₂ r m) ∨
      ∃ cut, r = .error cut ∧ x.Reaches log (.error cut) m := by
  constructor
  · intro h
    induction x generalizing log with
    | done a m₁ => exact .inl ⟨[], log, a, m₁, rfl, .done, h⟩
    | threw v m₁ =>
      obtain ⟨rfl, rfl, rfl⟩ := reaches_threw.mp h
      exact .inr ⟨_, rfl, .threw⟩
    | stopped why m₁ =>
      obtain ⟨rfl, rfl, rfl⟩ := reaches_stopped.mp h
      exact .inr ⟨_, rfl, .stopped⟩
    | ask q m₁ resume ih =>
      obtain ⟨reply, l, rfl, hrest⟩ := reaches_ask.mp h
      rcases ih reply hrest with ⟨l₁, l₂, a, m₂, rfl, hx, hf⟩ | ⟨cut, rfl, hx⟩
      · exact .inl ⟨_, l₂, a, m₂, rfl, .ask hx, hf⟩
      · exact .inr ⟨cut, rfl, .ask hx⟩
    | call begun args m₁ resume ih =>
      obtain ⟨reply, l, rfl, hrest⟩ := reaches_call.mp h
      rcases ih reply hrest with ⟨l₁, l₂, a, m₂, rfl, hx, hf⟩ | ⟨cut, rfl, hx⟩
      · exact .inl ⟨_, l₂, a, m₂, rfl, .call hx, hf⟩
      · exact .inr ⟨cut, rfl, .call hx⟩
  · rintro (⟨l₁, l₂, a, m₁, rfl, hx, hf⟩ | ⟨cut, rfl, hx⟩)
    · exact hx.andThen hf
    · exact hx.andThen_of_cut

theorem Reaches.andThen_iff {r : Except Cut β} (h : x.Reaches l₁ (.ok a) m₁) :
    (x.andThen f).Reaches (l₁ ++ l₂) r m ↔ (f a m₁).Reaches l₂ r m := by
  constructor
  · intro hboth
    rcases reaches_andThen.mp hboth with ⟨k₁, k₂, b, m₂, hlog, hx, hf⟩ | ⟨cut, rfl, hx⟩
    · obtain ⟨rfl, rfl⟩ := h.append_inj hx hlog
      cases (h.unique hx).1
      rwa [← (h.unique hx).2]
    · obtain ⟨hlog, -⟩ := h.append_inj hx (List.append_nil (l₁ ++ l₂)).symm
      rw [hlog] at hx
      cases (h.unique hx).1
  · exact h.andThen

theorem reaches_leaving {f : Machine → Machine} {r : Except Cut α} :
    (x.leaving f).Reaches log r m ↔ ∃ m₁, x.Reaches log r m₁ ∧ m = f m₁ := by
  constructor
  · intro h
    induction x generalizing log with
    | done a m₁ =>
      obtain ⟨rfl, rfl, rfl⟩ := reaches_done.mp h
      exact ⟨m₁, .done, rfl⟩
    | threw v m₁ =>
      obtain ⟨rfl, rfl, rfl⟩ := reaches_threw.mp h
      exact ⟨m₁, .threw, rfl⟩
    | stopped why m₁ =>
      obtain ⟨rfl, rfl, rfl⟩ := reaches_stopped.mp h
      exact ⟨m₁, .stopped, rfl⟩
    | ask q m₁ resume ih =>
      obtain ⟨reply, l, rfl, hrest⟩ := reaches_ask.mp h
      exact (ih reply hrest).imp fun _ h => ⟨.ask h.1, h.2⟩
    | call begun args m₁ resume ih =>
      obtain ⟨reply, l, rfl, hrest⟩ := reaches_call.mp h
      exact (ih reply hrest).imp fun _ h => ⟨.call h.1, h.2⟩
  · rintro ⟨m₁, h, rfl⟩
    induction h with
    | done => exact .done
    | threw => exact .threw
    | stopped => exact .stopped
    | ask _ ih => exact .ask ih
    | call _ ih => exact .call ih

theorem reaches_orElse {f : Value → Machine → Run α} {r : Except Cut α} : (x.orElse f).Reaches log r m ↔
    (∃ l₁ l₂ v m₁, log = l₁ ++ l₂ ∧ x.Reaches l₁ (.error (.threw v)) m₁ ∧ (f v m₁).Reaches l₂ r m) ∨
      x.Reaches log r m ∧ ∀ v, r ≠ .error (.threw v) := by
  constructor
  · intro h
    induction x generalizing log with
    | done a m₁ =>
      obtain ⟨rfl, rfl, rfl⟩ := reaches_done.mp h
      exact .inr ⟨.done, nofun⟩
    | threw v m₁ => exact .inl ⟨[], log, v, m₁, rfl, .threw, h⟩
    | stopped why m₁ =>
      obtain ⟨rfl, rfl, rfl⟩ := reaches_stopped.mp h
      exact .inr ⟨.stopped, nofun⟩
    | ask q m₁ resume ih =>
      obtain ⟨reply, l, rfl, hrest⟩ := reaches_ask.mp h
      rcases ih reply hrest with ⟨l₁, l₂, v, m₂, rfl, hx, hf⟩ | ⟨hx, hr⟩
      · exact .inl ⟨_, l₂, v, m₂, rfl, .ask hx, hf⟩
      · exact .inr ⟨.ask hx, hr⟩
    | call begun args m₁ resume ih =>
      obtain ⟨reply, l, rfl, hrest⟩ := reaches_call.mp h
      rcases ih reply hrest with ⟨l₁, l₂, v, m₂, rfl, hx, hf⟩ | ⟨hx, hr⟩
      · exact .inl ⟨_, l₂, v, m₂, rfl, .call hx, hf⟩
      · exact .inr ⟨.call hx, hr⟩
  · rintro (⟨l₁, l₂, v, m₁, rfl, hx, hf⟩ | ⟨hx, hr⟩)
    · generalize hthrew : Except.error (Cut.threw v) = z at hx
      induction hx with
      | done | stopped => cases hthrew
      | threw => cases hthrew; exact hf
      | ask _ ih => exact .ask (ih hf hthrew)
      | call _ ih => exact .call (ih hf hthrew)
    · induction hx with
      | done => exact .done
      | threw => exact absurd rfl (hr _)
      | stopped => exact .stopped
      | ask _ ih => exact .ask (ih hr)
      | call _ ih => exact .call (ih hr)

end Run

/-- Why work of the host comes to nothing. -/
inductive Failure where
  | error (e : Error)
  | cut (c : Cut)

namespace Bridge

def seen : Except Failure α → Except Cut (Except Error α)
  | .ok a => .ok (.ok a)
  | .error (.error e) => .ok (.error e)
  | .error (.cut c) => .error c

/-- What work of the host comes to on one of its ways. -/
def Reaches (x : Bridge α) (e : Engine) (m : Machine) (log : List Exchange) (r : Except Failure α) (m' : Machine) : Prop :=
  (x.run e m).Reaches log (seen r) m'

variable {x : Bridge α} {f : α → Bridge β} {e : Engine} {m m' : Machine} {log : List Exchange}

theorem exists_seen (z : Except Cut (Except Error α)) : ∃ r, z = seen r := by
  rcases z with c | ⟨err | a⟩
  · exact ⟨.error (.cut c), rfl⟩
  · exact ⟨.error (.error err), rfl⟩
  · exact ⟨.ok a, rfl⟩

theorem seen_injective : Function.Injective (seen : Except Failure α → _) := by
  rintro ((err | c) | a) ((err' | c') | a') h <;> cases h <;> rfl

theorem reaches_pure {a : α} {r : Except Failure α} :
    (pure a : Bridge α).Reaches e m log r m' ↔ log = [] ∧ r = .ok a ∧ m' = m := by
  rw [Reaches, run_pure, Run.reaches_done]
  exact and_congr_right fun _ => and_congr_left fun _ => ⟨fun h => seen_injective h, fun h => h ▸ rfl⟩

theorem reaches_of_run_done {a : Except Error α} {m₁ : Machine} {r : Except Failure α} (h : x.run e m = .done a m₁) :
    x.Reaches e m log r m' ↔ log = [] ∧ seen r = .ok a ∧ m' = m₁ := by
  rw [Reaches, h, Run.reaches_done]

theorem reaches_of_run_ok {a : α} {m₁ : Machine} {r : Except Failure α} (h : x.run e m = .done (.ok a) m₁) :
    x.Reaches e m log r m' ↔ log = [] ∧ r = .ok a ∧ m' = m₁ := by
  rw [reaches_of_run_done h]
  exact and_congr_right fun _ => and_congr_left fun _ => ⟨fun hr => seen_injective hr, fun hr => hr ▸ rfl⟩

theorem reaches_of_run_error {err : Error} {m₁ : Machine} {r : Except Failure α} (h : x.run e m = .done (.error err) m₁) :
    x.Reaches e m log r m' ↔ log = [] ∧ r = .error (.error err) ∧ m' = m₁ := by
  rw [reaches_of_run_done h]
  exact and_congr_right fun _ => and_congr_left fun _ => ⟨fun hr => seen_injective hr, fun hr => hr ▸ rfl⟩

theorem reaches_bind {r : Except Failure β} : (x >>= f).Reaches e m log r m' ↔
    (∃ l₁ l₂ a m₁, log = l₁ ++ l₂ ∧ x.Reaches e m l₁ (.ok a) m₁ ∧ (f a).Reaches e m₁ l₂ r m') ∨
      ∃ failure, r = .error failure ∧ x.Reaches e m log (.error failure) m' := by
  rw [Reaches, run_bind, Run.reaches_andThen]
  constructor
  · rintro (⟨l₁, l₂, err | a, m₁, rfl, hx, hf⟩ | ⟨cut, hr, hx⟩)
    · obtain ⟨rfl, hr, rfl⟩ := Run.reaches_done.mp hf
      refine .inr ⟨.error err, seen_injective hr, ?_⟩
      rwa [List.append_nil]
    · exact .inl ⟨l₁, l₂, a, m₁, rfl, hx, hf⟩
    · exact .inr ⟨.cut cut, seen_injective hr, hx⟩
  · rintro (⟨l₁, l₂, a, m₁, rfl, hx, hf⟩ | ⟨err | cut, rfl, hx⟩)
    · exact .inl ⟨l₁, l₂, .ok a, m₁, rfl, hx, hf⟩
    · exact .inl ⟨log, [], .error err, m', (List.append_nil log).symm, hx, .done⟩
    · exact .inr ⟨cut, rfl, hx⟩

theorem Reaches.bind_iff {l₁ l₂ : List Exchange} {a : α} {m₁ : Machine} {r : Except Failure β}
    (h : x.Reaches e m l₁ (.ok a) m₁) : (x >>= f).Reaches e m (l₁ ++ l₂) r m' ↔ (f a).Reaches e m₁ l₂ r m' := by
  rw [Reaches, run_bind]
  exact Run.Reaches.andThen_iff h

theorem reaches_holding {vs : List Value} {r : Except Failure α} : (holding vs x).Reaches e m log r m' ↔
    ∃ m₁, x.Reaches e (m.rooted vs) log r m₁ ∧ m' = { m₁ with roots := m.roots } :=
  Run.reaches_leaving

theorem reaches_borrowing {r : Except Failure α} : (borrowing x).Reaches e m log r m' ↔
    ∃ m₁, x.Reaches e m.borrowed log r m₁ ∧ m' = { m₁ with borrows := m.borrows } :=
  Run.reaches_leaving

theorem reaches_ask {q : Query} {hq : ∀ call, q ≠ .dropCall call} {r : Except Failure q.Reply} :
    (ask q hq).Reaches e m log r m' ↔
    ∃ reply, log = [.asked q reply] ∧ r = .ok reply ∧ m' = m.grant q reply := by
  rw [Reaches, show (ask q hq).run e m = .ask q m fun r => .done (.ok r) (m.grant q r) from rfl, Run.reaches_ask]
  constructor
  · rintro ⟨reply, _, rfl, h⟩
    obtain ⟨rfl, hr, rfl⟩ := Run.reaches_done.mp h
    exact ⟨reply, rfl, seen_injective hr, rfl⟩
  · rintro ⟨reply, rfl, rfl, rfl⟩
    exact ⟨reply, [], rfl, .done⟩

/-- A row of work that goes well, one after the other. -/
inductive InTurn (f : α → Bridge β) (e : Engine) :
    Machine → List α → List Exchange → List β → Machine → Prop where
  | nil {m : Machine} : InTurn f e m [] [] [] m
  | cons {m m₁ m₂ : Machine} {a : α} {as : List α} {b : β} {bs : List β} {l₁ l₂ : List Exchange} :
      (f a).Reaches e m l₁ (.ok b) m₁ → InTurn f e m₁ as l₂ bs m₂ → InTurn f e m (a :: as) (l₁ ++ l₂) (b :: bs) m₂

theorem InTurn.cons_of_silent {f : α → Bridge β} {a : α} {as : List α} {b : β} {bs : List β}
    (ha : (f a).Reaches e m [] (.ok b) m₁) (has : InTurn f e m₁ as log bs m₂) : InTurn f e m (a :: as) log (b :: bs) m₂ :=
  .cons ha has

theorem InTurn.length {f : α → Bridge β} {as : List α} {bs : List β} (h : InTurn f e m as log bs m') :
    bs.length = as.length := by
  induction h with
  | nil => rfl
  | cons _ _ ih => exact congrArg (· + 1) ih

def FailsAt (f : α → Bridge β) (e : Engine) (m : Machine) (as : List α) (log : List Exchange) (failure : Failure)
    (m' : Machine) : Prop :=
  ∃ before a after l₁ l₂ bs m₁, as = before ++ a :: after ∧ log = l₁ ++ l₂ ∧ InTurn f e m before l₁ bs m₁ ∧
    (f a).Reaches e m₁ l₂ (.error failure) m'

theorem failsAt_cons {f : α → Bridge β} {a : α} {as : List α} {failure : Failure} :
    FailsAt f e m (a :: as) log failure m' ↔ (f a).Reaches e m log (.error failure) m' ∨
      ∃ l₁ l₂ b m₁, log = l₁ ++ l₂ ∧ (f a).Reaches e m l₁ (.ok b) m₁ ∧ FailsAt f e m₁ as l₂ failure m' := by
  constructor
  · rintro ⟨_ | ⟨a', before⟩, a'', after, l₁, l₂, bs, m₁, has, rfl, hbefore, hfails⟩
    · cases has
      cases hbefore
      exact .inl hfails
    · cases has
      cases hbefore with
      | cons ha hbefore =>
        refine .inr ⟨_, _, _, _, List.append_assoc .., ha, before, a'', after, _, l₂, _, m₁, rfl, rfl, hbefore, hfails⟩
  · rintro (hfails | ⟨l₁, _, b, m₁, rfl, ha, before, a', after, k₁, k₂, bs, m₂, rfl, rfl, hbefore, hfails⟩)
    · exact ⟨[], a, as, [], log, [], m, rfl, rfl, .nil, hfails⟩
    · exact ⟨a :: before, a', after, l₁ ++ k₁, k₂, b :: bs, m₂, rfl, (List.append_assoc ..).symm, .cons ha hbefore,
        hfails⟩

variable {f : α → Bridge β} {as : List α}

theorem reaches_mapM_cons {a : α} {r : Except Failure (List β)} : ((a :: as).mapM f).Reaches e m log r m' ↔
    (∃ l₁ l₂ b m₁, log = l₁ ++ l₂ ∧ (f a).Reaches e m l₁ (.ok b) m₁ ∧
      ((∃ bs, r = .ok (b :: bs) ∧ (as.mapM f).Reaches e m₁ l₂ (.ok bs) m') ∨
        ∃ failure, r = .error failure ∧ (as.mapM f).Reaches e m₁ l₂ (.error failure) m')) ∨
      ∃ failure, r = .error failure ∧ (f a).Reaches e m log (.error failure) m' := by
  rw [List.mapM_cons, reaches_bind]
  apply or_congr_left
  refine exists₄_congr fun l₁ l₂ b m₁ => and_congr_right fun _ => and_congr_right fun _ => ?_
  rw [reaches_bind]
  apply or_congr_left
  constructor
  · rintro ⟨k₁, k₂, bs, m₂, rfl, hrest, hreturn⟩
    obtain ⟨rfl, rfl, rfl⟩ := reaches_pure.mp hreturn
    exact ⟨bs, rfl, by rwa [List.append_nil]⟩
  · rintro ⟨bs, rfl, hrest⟩
    exact ⟨l₂, [], bs, m', (List.append_nil l₂).symm, hrest, reaches_pure.mpr ⟨rfl, rfl, rfl⟩⟩

theorem reaches_mapM_ok {bs : List β} : (as.mapM f).Reaches e m log (.ok bs) m' ↔ InTurn f e m as log bs m' := by
  induction as generalizing m log bs with
  | nil =>
    rw [List.mapM_nil, reaches_pure]
    constructor
    · rintro ⟨rfl, hbs, rfl⟩
      cases hbs
      exact .nil
    · rintro ⟨⟩
      exact ⟨rfl, rfl, rfl⟩
  | cons a as ih =>
    rw [reaches_mapM_cons]
    constructor
    · rintro (⟨l₁, l₂, b, m₁, rfl, ha, ⟨bs', hbs, hrest⟩ | ⟨failure, hfailure, -⟩⟩ | ⟨failure, hfailure, -⟩)
      · cases hbs
        exact .cons ha (ih.mp hrest)
      · cases hfailure
      · cases hfailure
    · intro h
      cases h with
      | cons ha hrest => exact .inl ⟨_, _, _, _, rfl, ha, .inl ⟨_, rfl, ih.mpr hrest⟩⟩

theorem reaches_mapM_error {failure : Failure} :
    (as.mapM f).Reaches e m log (.error failure) m' ↔ FailsAt f e m as log failure m' := by
  induction as generalizing m log with
  | nil =>
    rw [List.mapM_nil, reaches_pure]
    constructor
    · rintro ⟨-, hfailure, -⟩
      cases hfailure
    · rintro ⟨before, a, after, _, _, _, _, has, -⟩
      cases before <;> cases has
  | cons a as ih =>
    rw [reaches_mapM_cons, failsAt_cons, or_comm]
    apply or_congr
    · constructor
      · rintro ⟨_, ⟨⟩, ha⟩
        exact ha
      · exact fun ha => ⟨failure, rfl, ha⟩
    · refine exists₄_congr fun l₁ l₂ b m₁ => and_congr_right fun _ => and_congr_right fun _ => ?_
      rw [← ih]
      constructor
      · rintro (⟨_, ⟨⟩, -⟩ | ⟨_, ⟨⟩, hrest⟩)
        exact hrest
      · exact fun hrest => .inr ⟨failure, rfl, hrest⟩

theorem reaches_map {g : α → β} {r : Except Failure β} : (do return g (← x) : Bridge β).Reaches e m log r m' ↔
    ∃ r₀, x.Reaches e m log r₀ m' ∧ r = r₀.map g := by
  rw [reaches_bind]
  constructor
  · rintro (⟨l₁, l₂, a, m₁, rfl, hx, hreturn⟩ | ⟨failure, rfl, hx⟩)
    · obtain ⟨rfl, rfl, rfl⟩ := reaches_pure.mp hreturn
      exact ⟨.ok a, by rwa [List.append_nil], rfl⟩
    · exact ⟨.error failure, hx, rfl⟩
  · rintro ⟨failure | a, hx, rfl⟩
    · exact .inr ⟨failure, rfl, hx⟩
    · exact .inl ⟨log, [], a, m', (List.append_nil log).symm, hx, reaches_pure.mpr ⟨rfl, rfl, rfl⟩⟩

theorem reaches_ofGuest_ok {y : Act α} {a : α} :
    (ofGuest y).Reaches e m log (.ok a) m' ↔ (y e m).Reaches log (.ok a) m' := by
  rw [Reaches, run_ofGuest, Run.reaches_andThen]
  constructor
  · rintro (⟨l₁, l₂, b, m₁, rfl, hy, hreturn⟩ | ⟨_, ⟨⟩, -⟩)
    obtain ⟨rfl, hb, rfl⟩ := Run.reaches_done.mp hreturn
    cases hb
    rwa [List.append_nil]
  · exact fun hy => .inl ⟨log, [], a, m', (List.append_nil log).symm, hy, .done⟩

theorem reaches_requireLive {r : Except Failure Unit} : requireLive.Reaches e m log r m' ↔ m' = m ∧
    (log = [.asked .isReleased false] ∧ r = .ok () ∨
      log = [.asked .isReleased true] ∧ r = .error (.error (.freed .context))) := by
  unfold requireLive
  rw [reaches_bind]
  constructor
  · rintro (⟨l₁, l₂, released, m₁, rfl, hask, hrest⟩ | ⟨failure, rfl, hask⟩)
    · obtain ⟨_, rfl, ⟨⟩, rfl⟩ := reaches_ask.mp hask
      cases released with
      | false =>
        obtain ⟨rfl, rfl, rfl⟩ := reaches_pure.mp hrest
        exact ⟨rfl, .inl ⟨rfl, rfl⟩⟩
      | true =>
        obtain ⟨rfl, hr, rfl⟩ := (reaches_of_run_done (run_throw _)).mp hrest
        have hfreed : seen r = seen (.error (.error (.freed .context))) := hr
        exact ⟨rfl, .inr ⟨rfl, seen_injective hfreed⟩⟩
    · obtain ⟨_, -, ⟨⟩, -⟩ := reaches_ask.mp hask
  · rintro ⟨rfl, ⟨rfl, rfl⟩ | ⟨rfl, rfl⟩⟩
    · exact .inl ⟨[.asked .isReleased false], [], false, m', rfl, reaches_ask.mpr ⟨false, rfl, rfl, rfl⟩,
        reaches_pure.mpr ⟨rfl, rfl, rfl⟩⟩
    · exact .inl ⟨[.asked .isReleased true], [], true, m', rfl, reaches_ask.mpr ⟨true, rfl, rfl, rfl⟩,
        (reaches_of_run_done (run_throw _)).mpr ⟨rfl, rfl, rfl⟩⟩

theorem reaches_constructKind {k : Kind} {c o : ObjectId} {args : List Value} {m₁ : Machine} {r : Except Failure ObjectId}
    (hk : Intrinsic.ofKind? k = some c) (hconstruct : e.construct (.object c) args (.object c) m = .done (.object o) m₁) :
    (constructKind k args).Reaches e m log r m' ↔
      log = [.asked .isReleased false] ∧ r = .ok o ∧ m' = m₁ ∨
        log = [.asked .isReleased true] ∧ r = .error (.error (.freed .context)) ∧ m' = m := by
  have hnew : (check (Act.construct (.object c) args (.object c))).Reaches e m [] (.ok (.object o)) m₁ :=
    (reaches_of_run_ok (run_check_of_done hconstruct)).mpr ⟨rfl, rfl, rfl⟩
  unfold constructKind
  simp only [hk]
  rw [reaches_bind]
  constructor
  · rintro (⟨l₁, l₂, _, m₂, rfl, hlive, hrest⟩ | ⟨failure, rfl, hlive⟩)
    · obtain ⟨rfl, ⟨rfl, -⟩ | ⟨rfl, hreleased⟩⟩ := reaches_requireLive.mp hlive
      · rw [← List.nil_append l₂, hnew.bind_iff] at hrest
        obtain ⟨rfl, rfl, rfl⟩ := reaches_pure.mp hrest
        exact .inl ⟨rfl, rfl, rfl⟩
      · cases hreleased
    · obtain ⟨rfl, ⟨-, hok⟩ | ⟨rfl, hreleased⟩⟩ := reaches_requireLive.mp hlive
      · cases hok
      · cases hreleased
        exact .inr ⟨rfl, rfl, rfl⟩
  · rintro (⟨rfl, rfl, rfl⟩ | ⟨rfl, rfl, rfl⟩)
    · refine .inl ⟨[.asked .isReleased false], [], (), m, rfl, reaches_requireLive.mpr ⟨rfl, .inl ⟨rfl, rfl⟩⟩, ?_⟩
      exact hnew.bind_iff.mpr (reaches_pure.mpr ⟨rfl, rfl, rfl⟩)
    · exact .inr ⟨_, rfl, reaches_requireLive.mpr ⟨rfl, .inr ⟨rfl, rfl⟩⟩⟩

theorem reaches_of_caught {r : Except Failure α}
    (hthrow : ∀ l v m₁, ¬ x.Reaches e m l (.error (.cut (.threw v))) m₁) (h : x.caught.Reaches e m log r m') :
    x.Reaches e m log r m' := by
  rcases Run.reaches_orElse (f := fun v m => (do return .error (.eval (← exceptionOf v)) : Act (Except Error α)) e m)
    |>.mp h with ⟨l₁, _, v, m₁, _, hx, _⟩ | ⟨hx, -⟩
  · exact absurd hx (hthrow l₁ v m₁)
  · exact hx

/-- What the host makes of an object that it takes for one of a kind. -/
def takenFor (convert : Value → Bridge Native) (o : ObjectId) : Kind → Bridge Native
  | .array => do return .array (← arrayItems convert o)
  | .buffer => do return .bytes (← bufferBytes o)
  | .typed t => do return .typed t (← typedItems t o)
  | .map => do return .map (← mapEntries convert o)
  | .set => do return .set (← setItems convert o)
  | .date => do return .date (← dateOf o)
  | .unknown => return .unmapped

theorem nativeOfObject_eq (convert : Value → Bridge Native) (o : ObjectId) :
    nativeOfObject convert o = kindOf o >>= takenFor convert o := rfl

end Bridge

def told (z : Except Cut (Except Error α)) : Except Error α :=
  match z with
  | .ok r => r
  | .error _ => .error (.engine .interrupted)

end Embedding.Guest

namespace Embedding

variable {σ α : Type} [Guest.Collector]

/-- The way that a run takes when its context answers what it asks and a handler makes the calls and drops what is
refused. -/
def Handler.way (handler : Handler σ) (c : ContextId) : Guest.Run (Except Error α) → World → σ → List Guest.Exchange
  | .done _ _, _, _ | .threw _ _, _, _ | .stopped _ _, _, _ => []
  | .ask q m resume, w, s =>
    .asked q ((w.setMachine c m).answer c q).1 :: match q.refused? ((w.setMachine c m).answer c q).1 with
      | some f =>
        way handler c (resume ((w.setMachine c m).answer c q).1)
          ((handler.drop f (((w.setMachine c m).answer c q).2.lendRegistry c) s).1.2.takeBackRegistry c)
          (handler.drop f (((w.setMachine c m).answer c q).2.lendRegistry c) s).2
      | none => way handler c (resume ((w.setMachine c m).answer c q).1) ((w.setMachine c m).answer c q).2 s
  | .call call args m resume, w, s =>
    .called call args (handler.call call.function args ((w.setMachine c m).makeCall c call) s).1.1 ::
      way handler c (resume (handler.call call.function args ((w.setMachine c m).makeCall c call) s).1.1)
        (handler.call call.function args ((w.setMachine c m).makeCall c call) s).1.2
        (handler.call call.function args ((w.setMachine c m).makeCall c call) s).2

theorem Handler.exists_reaches_way (handler : Handler σ) (c : ContextId) (run : Guest.Run (Except Error α)) (w : World)
    (s : σ) : ∃ z m, run.Reaches (handler.way c run w s) z m ∧ (handler.follow c run w s).1.1 = Guest.told z := by
  induction run generalizing w s with
  | done a m => exact ⟨_, m, .done, rfl⟩
  | threw v m => exact ⟨_, m, .threw, rfl⟩
  | stopped why m => exact ⟨_, m, .stopped, rfl⟩
  | ask q m resume ih =>
    rw [Handler.way]
    cases hrefused : q.refused? ((w.setMachine c m).answer c q).1 with
    | none =>
      obtain ⟨z, m', hreaches, htold⟩ := ih _ ((w.setMachine c m).answer c q).2 s
      exact ⟨z, m', .ask hreaches, (congrArg (·.1.1) (follow_ask_of_kept handler c s m resume hrefused)).trans htold⟩
    | some f =>
      obtain ⟨z, m', hreaches, htold⟩ := ih ((w.setMachine c m).answer c q).1
        ((handler.drop f (((w.setMachine c m).answer c q).2.lendRegistry c) s).1.2.takeBackRegistry c)
        (handler.drop f (((w.setMachine c m).answer c q).2.lendRegistry c) s).2
      exact ⟨z, m', .ask hreaches, (congrArg (·.1.1) (follow_ask_of_refused handler c s m resume hrefused)).trans htold⟩
  | call call args m resume ih =>
    obtain ⟨z, m', hreaches, htold⟩ := ih (handler.call call.function args ((w.setMachine c m).makeCall c call) s).1.1
      (handler.call call.function args ((w.setMachine c m).makeCall c call) s).1.2
      (handler.call call.function args ((w.setMachine c m).makeCall c call) s).2
    exact ⟨z, m', .call hreaches, htold⟩

/-- The way that the host takes when it works with a value. -/
def ValueRef.wayInside (handler : Handler σ) (w : World) (s : σ) (v : ValueRef) (x : Guest.Value)
    (f : Guest.Value → Guest.Bridge α) : List Guest.Exchange :=
  handler.way v.context ((f x).caught.run Guest.Engine.standard ((w.machineFor v.context).heldOn x)) (v.entered w) s

theorem ValueRef.exists_reaches_inside {w : World} {v : ValueRef} {x : Guest.Value} {f : Guest.Value → Guest.Bridge α}
    (hfree : w.contextObstacle? v.context = none) (hpin : (w.context v.context).pins.find? v.pin = some x)
    (handler : Handler σ) (s : σ) : ∃ r m,
      (f x).caught.Reaches Guest.Engine.standard ((w.machineFor v.context).heldOn x) (v.wayInside handler w s x f) r m ∧
      (v.inside f).result handler w s = Guest.told (Guest.Bridge.seen r) := by
  obtain ⟨z, m, hreaches, htold⟩ := handler.exists_reaches_way v.context
    ((f x).caught.run Guest.Engine.standard ((w.machineFor v.context).heldOn x)) (v.entered w) s
  obtain ⟨r, rfl⟩ := Guest.Bridge.exists_seen z
  exact ⟨r, m, hreaches, (ValueRef.result_inside hfree hpin handler s).1.trans htold⟩

end Embedding
