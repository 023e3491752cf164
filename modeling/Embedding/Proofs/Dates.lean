import Embedding.Proofs.Items
import Embedding.Proofs.RoundTrip

namespace Embedding

namespace Instant

def total (i : Instant) : Int := i.seconds * 1000000000 + i.nanoseconds

structure InRange (i : Instant) : Prop where
  belowSecond : i.nanoseconds < 10 ^ 9
  least : leastMilliseconds ≤ i.milliseconds
  greatest : i.milliseconds ≤ greatestMilliseconds

variable {ms : Int}

theorem milliseconds_eq_ediv (i : Instant) : i.milliseconds = i.total / 1000000 := by
  unfold milliseconds total
  omega

example : (⟨-1, 999999999⟩ : Instant).milliseconds = -1 := by decide

theorem seconds_ofMilliseconds (ms : Int) : (ofMilliseconds ms).seconds = ms / 1000 :=
  Int.fdiv_eq_ediv_of_nonneg _ (by decide)

theorem nanoseconds_ofMilliseconds (ms : Int) : (ofMilliseconds ms).nanoseconds = (ms % 1000).toNat * 1000000 := by
  rw [ofMilliseconds, Int.fmod_eq_emod_of_nonneg _ (by decide)]

theorem total_ofMilliseconds (ms : Int) : (ofMilliseconds ms).total = ms * 1000000 := by
  rw [total, seconds_ofMilliseconds, nanoseconds_ofMilliseconds]
  omega

theorem milliseconds_ofMilliseconds (ms : Int) : (ofMilliseconds ms).milliseconds = ms := by
  rw [milliseconds, seconds_ofMilliseconds, nanoseconds_ofMilliseconds]
  omega

theorem inRange_ofMilliseconds (hleast : leastMilliseconds ≤ ms) (hgreatest : ms ≤ greatestMilliseconds) :
    (ofMilliseconds ms).InRange where
  belowSecond := by
    rw [nanoseconds_ofMilliseconds]
    omega
  least := by rwa [milliseconds_ofMilliseconds]
  greatest := by rwa [milliseconds_ofMilliseconds]

theorem natAbs_lt_of_inRange (hleast : leastMilliseconds ≤ ms) (hgreatest : ms ≤ greatestMilliseconds) :
    ms.natAbs < 2 ^ 53 := by
  unfold leastMilliseconds at hleast
  unfold greatestMilliseconds at hgreatest
  omega

end Instant

namespace Guest

section Time

variable {time : Double} (h : clipTime time = time)
include h

theorem isNaN_iff_of_clipTime : time.isNaN = true ↔ time.truncated? = none := by
  unfold clipTime at h
  split at h
  · next hcondition =>
    have hfinite : time.isFinite = true := (Bool.and_eq_true_iff.mp hcondition).1
    rw [Double.isNaN_of_isFinite hfinite, Double.truncated?, if_pos hfinite]
    exact ⟨fun hnan => (by cases hnan), fun hnone => (by cases hnone)⟩
  · rw [← h]
    decide

theorem toInt?_of_clipTime {ms : Int} (hms : time.truncated? = some ms) :
    time.toInt? = some ms ∧ time.isNegativeZero = false := by
  unfold clipTime at h
  split at h
  · simp only at h
    split at h
    · rw [← h, Double.truncated?_of_toInt? Double.toInt?_zero] at hms
      rw [← h, Double.toInt?_zero, ← hms]
      exact ⟨rfl, by decide⟩
    · next hzero =>
      rw [h] at hzero
      refine ⟨?_, by rw [Double.isNegativeZero, Bool.eq_false_iff.mpr hzero, Bool.false_and]⟩
      cases hintegral : time.isIntegral with
      | true => rw [Double.toInt?, if_pos hintegral, hms]
      | false =>
        have hsmall := Double.natAbs_lt_of_not_isIntegral hms hintegral
        rw [Double.trunc, hms] at h
        simp only [hintegral, Bool.false_eq_true, if_false] at h
        split at h
        · rw [← h] at hintegral
          exact absurd hintegral (by decide +kernel)
        · rw [← h, Double.toInt?_ofInt hsmall, ← hms, ← h, Double.truncated?_of_toInt? (Double.toInt?_ofInt hsmall)]
  · have hnone : Double.nan.truncated? = none := by decide
    rw [← h, hnone] at hms
    cases hms

end Time

/-- What the host gets for the time of a date. -/
inductive TimeTaken (time : Double) : Except Failure Instant → Prop where
  | instant {ms : Int} (hms : time.truncated? = some ms) (hleast : Instant.leastMilliseconds ≤ ms)
      (hgreatest : ms ≤ Instant.greatestMilliseconds) : TimeTaken time (.ok (Instant.ofMilliseconds ms))
  | tooFar {ms : Int} (hms : time.truncated? = some ms)
      (hfar : ms < Instant.leastMilliseconds ∨ Instant.greatestMilliseconds < ms) :
      TimeTaken time (.error (.error (.conversion ("date at " ++ time.format .plain ++ " ms") "DateTime<Utc>")))
  | invalid (hnone : time.truncated? = none) :
      TimeTaken time (.error (.error (.conversion "invalid date" "DateTime<Utc>")))

theorem TimeTaken.eq_iff {time : Double} {r r' : Except Failure Instant} (h : TimeTaken time r) :
    TimeTaken time r' ↔ r' = r := by
  constructor
  · intro h'
    cases h with
    | instant hms hleast hgreatest =>
      cases h' with
      | instant hms' => rw [Option.some_inj.mp (hms'.symm.trans hms)]
      | tooFar hms' hfar =>
        cases hms.symm.trans hms'
        omega
      | invalid hnone => cases hms.symm.trans hnone
    | tooFar hms hfar =>
      cases h' with
      | instant hms' hleast hgreatest =>
        cases hms.symm.trans hms'
        omega
      | tooFar => rfl
      | invalid hnone => cases hms.symm.trans hnone
    | invalid hnone =>
      cases h' with
      | instant hms | tooFar hms => cases hms.symm.trans hnone
      | invalid => rfl
  · rintro rfl
    exact h

namespace Bridge

variable {e : Engine} {m m' : Machine} {far n : Nat} {o : ObjectId} {time : Double} {log : List Exchange}

theorem reaches_instantOf {r : Except Failure Instant} :
    (instantOf time).Reaches e m log r m' ↔ log = [] ∧ TimeTaken time r ∧ m' = m := by
  have hfinite := time.isFinite_eq_isSome_truncated?
  cases hms : time.truncated? with
  | none =>
    rw [hms, Option.isSome_none] at hfinite
    rw [(TimeTaken.invalid hms).eq_iff]
    apply reaches_of_run_error
    unfold instantOf
    simp only [hfinite, Bool.not_false, if_true]
    rfl
  | some ms =>
    rw [hms, Option.isSome_some] at hfinite
    by_cases hrange : Instant.leastMilliseconds ≤ ms ∧ ms ≤ Instant.greatestMilliseconds
    · rw [(TimeTaken.instant hms hrange.1 hrange.2).eq_iff]
      exact reaches_of_run_ok (run_instantOf hms hrange.1 hrange.2)
    · have hinstant := (ofMilliseconds?_clamp hms).trans (if_neg hrange)
      rw [(TimeTaken.tooFar hms (by omega)).eq_iff]
      apply reaches_of_run_error
      unfold instantOf
      simp only [hfinite, Bool.not_true, Bool.false_eq_true, if_false, hinstant]
      rfl

theorem reaches_dateOf (hrun : (callMethod o "getTime" []).run e m = .done (.ok (.number time)) m)
    {r : Except Failure Instant} : (dateOf o).Reaches e m log r m' ↔ log = [] ∧ TimeTaken time r ∧ m' = m := by
  rw [← reaches_instantOf (e := e), Reaches, run_dateOf hrun]
  rfl

theorem reaches_dateOf_ok {i : Instant} : (dateOf o).Reaches e m log (.ok i) m' ↔
    ∃ time, (callMethod o "getTime" []).Reaches e m log (.ok (.number time)) m' ∧ TimeTaken time (.ok i) := by
  rw [dateOf_eq, reaches_bind]
  constructor
  · rintro (⟨l₁, l₂, v, m₁, rfl, hcall, hrest⟩ | ⟨_, ⟨⟩, -⟩)
    rcases reaches_bind.mp hrest with ⟨k₁, k₂, time, m₂, rfl, hdouble, hinstant⟩ | ⟨_, ⟨⟩, -⟩
    obtain ⟨rfl, rfl, rfl⟩ := reaches_asDouble_ok.mp hdouble
    obtain ⟨rfl, htaken, rfl⟩ := reaches_instantOf.mp hinstant
    exact ⟨time, by simpa using hcall, htaken⟩
  · rintro ⟨time, hcall, htaken⟩
    refine .inl ⟨log, [], .number time, m', (List.append_nil log).symm, hcall, reaches_bind.mpr (.inl ?_)⟩
    exact ⟨[], [], time, m', rfl, reaches_asDouble_ok.mpr ⟨rfl, rfl, rfl⟩, reaches_instantOf.mpr ⟨rfl, htaken, rfl⟩⟩

end Bridge

theorem Machine.keepsTime_made {m : Machine} {far : Nat}
    (h : m.HasBuiltin far Intrinsic.datePrototype "getTime" Property.IsMethod (.date .getTime)) (time : Double) :
    (m.made (.ofTime time)).KeepsTime (far + 1) m.objects.size time where
  holds := ⟨_, getElem?_made _ _, rfl⟩
  getTime := (h.keep (.push _)).inherit (getElem?_made _ _)
    (Object.reads_of_isTable rfl rfl Object.not_lazy_of_none) rfl

structure DatesCross (e : Engine) (far : Nat) (m : Machine) : Prop where
  /-- While the context is live, every instant becomes a new date. -/
  makes : ∀ i : Instant, i.InRange → ∀ log r m', (Bridge.ofNative (.date i)).Reaches e m log r m' ↔
    log = [.asked .isReleased false] ∧ r = .ok (.object m.objects.size) ∧
        m' = m.made (.ofTime (Double.ofInt i.milliseconds)) ∨
      log = [.asked .isReleased true] ∧ r = .error (.error (.freed .context)) ∧ m' = m
  /-- Its time is one that dates have: exactly the number of milliseconds, rounded down. -/
  exact : ∀ i : Instant, i.InRange → i.milliseconds = i.total / 1000000 ∧
    (Double.ofInt i.milliseconds).toInt? = some i.milliseconds ∧
    clipTime (Double.ofInt i.milliseconds) = Double.ofInt i.milliseconds
  monotone : ∀ i j : Instant, i.total ≤ j.total → i.milliseconds ≤ j.milliseconds
  /-- The new date is one that the host knows for a date where nothing has been altered. -/
  recognised : m.Unaltered → ∀ time, (Bridge.kindOf m.objects.size).Ends e (m.made (.ofTime time)) fun k m' =>
    k = .date ∧ m' = m.made (.ofTime time)
  /-- It comes back as the instant rounded down to the millisecond. -/
  returns : m.HasBuiltin far Intrinsic.datePrototype "getTime" Property.IsMethod (.date .getTime) →
    ∀ i : Instant, i.InRange → ∀ log r m',
      (Bridge.dateOf m.objects.size).Reaches e (m.made (.ofTime (Double.ofInt i.milliseconds))) log r m' ↔
        log = [] ∧ r = .ok ⟨i.seconds, i.nanoseconds / 1000000 * 1000000⟩ ∧
          m' = m.made (.ofTime (Double.ofInt i.milliseconds))
  /-- Any date that is asked through the builtin function is taken for its time. -/
  converts : ∀ o time, m.KeepsTime far o time → ∀ log r m', (Bridge.dateOf o).Reaches e m log r m' ↔
    log = [] ∧ TimeTaken time r ∧ m' = m
  asks : ∀ o i log m', (Bridge.dateOf o).Reaches e m log (.ok i) m' ↔
    ∃ time, (Bridge.callMethod o "getTime" []).Reaches e m log (.ok (.number time)) m' ∧ TimeTaken time (.ok i)
  /-- That goes well exactly for the times that the host has instants for. -/
  succeeds : ∀ time, clipTime time = time → ((∃ i, TimeTaken time (.ok i)) ↔ time.isNaN = false ∧
    ∃ ms, time.toInt? = some ms ∧ Instant.leastMilliseconds ≤ ms ∧ ms ≤ Instant.greatestMilliseconds)
  /-- Then the instant is that time, neither more nor less, and becomes a date of that time again. -/
  restores : ∀ time i, clipTime time = time → TimeTaken time (.ok i) → i.InRange ∧
    (∃ ms, time.toInt? = some ms ∧ i.total = ms * 1000000) ∧ Double.ofInt i.milliseconds = time
  /-- Nothing else is done with an object that has been taken for a date. -/
  whole : ∀ (convert : Value → Bridge Native) (start : Machine) (l : List Exchange) (o : ObjectId),
    (Bridge.kindOf o).Reaches e start l (.ok .date) m → ∀ log r m',
      (Bridge.nativeOfObject convert o).Reaches e start (l ++ log) r m' ↔
        ∃ r₀, (Bridge.dateOf o).Reaches e m log r₀ m' ∧ r = r₀.map Native.date

/-- Dates go across at the millisecond. -/
theorem Machine.HasConstructor.datesCross {m : Machine} (h : m.HasConstructor .date (.date .construct))
    (hdepth : m.depth < m.depthLimit) (far n : Nat) :
    DatesCross (Engine.ofLevel (far + n + 4)) far m where
  makes i hi log r m' := by
    have hconstruct := h.construct_date (n := far + n + 2) hdepth hi.least hi.greatest
    rw [Bridge.ofNative, Bridge.reaches_map]
    simp only [Bridge.reaches_constructKind (k := .date) rfl hconstruct]
    constructor
    · rintro ⟨_, ⟨rfl, rfl, rfl⟩ | ⟨rfl, rfl, rfl⟩, rfl⟩
      · exact .inl ⟨rfl, rfl, rfl⟩
      · exact .inr ⟨rfl, rfl, rfl⟩
    · rintro (⟨rfl, rfl, rfl⟩ | ⟨rfl, rfl, rfl⟩)
      · exact ⟨_, .inl ⟨rfl, rfl, rfl⟩, rfl⟩
      · exact ⟨_, .inr ⟨rfl, rfl, rfl⟩, rfl⟩
  exact i hi := ⟨i.milliseconds_eq_ediv, Double.toInt?_ofInt (Instant.natAbs_lt_of_inRange hi.least hi.greatest),
    clipTime_ofInt hi.least hi.greatest⟩
  monotone i j hle := by
    rw [i.milliseconds_eq_ediv, j.milliseconds_eq_ediv]
    omega
  recognised hm time := by
    have hmade : (m.made (.ofTime time)).Unaltered := hm.keep (.push _)
    exact hmade.kindOf_ends (n := far + n + 1) hdepth (Machine.getElem?_made _ _) (Object.isOf_ofTime time)
  returns hmethod i hi log r m' := by
    have hint := Double.toInt?_ofInt (Instant.natAbs_lt_of_inRange hi.least hi.greatest)
    have htaken := TimeTaken.instant (Double.truncated?_of_toInt? hint) hi.least hi.greatest
    have hrun := (Machine.keepsTime_made hmethod (Double.ofInt i.milliseconds)).run_getTime (n := n + 2) hdepth
    rw [show far + 1 + (n + 2) + 1 = far + n + 4 by omega] at hrun
    rw [Bridge.reaches_dateOf hrun, htaken.eq_iff, Native.ofMilliseconds_milliseconds hi.belowSecond]
  converts o time ho log r m' := Bridge.reaches_dateOf (ho.run_getTime (n := n + 3) hdepth)
  asks _ _ _ _ := Bridge.reaches_dateOf_ok
  succeeds time htime := by
    constructor
    · rintro ⟨_, ⟨hms, hleast, hgreatest⟩⟩
      refine ⟨Bool.eq_false_iff.mpr fun hnan => ?_, _, (toInt?_of_clipTime htime hms).1, hleast, hgreatest⟩
      cases ((isNaN_iff_of_clipTime htime).mp hnan).symm.trans hms
    · rintro ⟨-, ms, hms, hleast, hgreatest⟩
      exact ⟨_, .instant (Double.truncated?_of_toInt? hms) hleast hgreatest⟩
  restores time i htime htaken := by
    cases htaken with
    | instant hms hleast hgreatest =>
      obtain ⟨hint, hzero⟩ := toInt?_of_clipTime htime hms
      refine ⟨Instant.inRange_ofMilliseconds hleast hgreatest, ⟨_, hint, Instant.total_ofMilliseconds _⟩, ?_⟩
      rw [Instant.milliseconds_ofMilliseconds]
      exact Double.ofInt_of_toInt? hint (Instant.natAbs_lt_of_inRange hleast hgreatest) hzero
  whole convert start l o hkind log r m' := by
    rw [Bridge.nativeOfObject_eq, hkind.bind_iff]
    exact Bridge.reaches_map

/-- Where nothing has been altered, the prototype of new dates has the builtin `getTime`. -/
theorem Machine.HasConstructor.datesCross_unaltered : ∃ m : Machine, m.HasConstructor .date (.date .construct) ∧
    m.depth < m.depthLimit ∧
    m.HasBuiltin 0 Intrinsic.datePrototype "getTime" Property.IsMethod (.date .getTime) ∧
    DatesCross (Engine.ofLevel 4) 0 m := by
  have hm := Machine.unaltered_initial.unlimited
  have hdepth := Realm.depth_unlimited (show 1 ≤ callDepthLimit by decide)
  have hdates := hm.hasConstructor (k := .date) (b := .date .construct) rfl (by decide) rfl
  exact ⟨_, hdates, hdepth, hm.hasBuiltin_getTime, hdates.datesCross hdepth 0 0⟩

theorem Act.run_getTimezoneOffset {e : Engine} {m : Machine} {o : ObjectId} {x : Object} {time : Double}
    (hx : m.objects[o]? = some x) (htime : x.payload = .date time) (hvalid : time.isNaN = false) :
    runBuiltin (.date .getTimezoneOffset) (.object o) [] .undefined e m = .done (.number Double.zero) m := by
  have hthis : thisTime (.object o) e m = .done time m := by
    show (object o >>= _) e m = _
    rw [run_bind_of_done (run_object hx)]
    simp only [htime]
    rfl
  show (thisTime (.object o) >>= _) e m = _
  rw [run_bind_of_done hthis]
  simp only [hvalid, Bool.false_eq_true, if_false]
  rfl

theorem Machine.Unaltered.toNative_ownGetTime {m : Machine} (h : m.Unaltered) (hdepth : m.depth < m.depthLimit)
    {o g : ObjectId} {x y : Object} {time : Double} (hx : m.objects[o]? = some x) (hdate : x.IsOf .date)
    (htime : x.payload = .date time) (hvalid : time.isNaN = false)
    (hown : x.property? "getTime" = some (.plain (.object g))) (hy : m.objects[g]? = some y)
    (hg : y.payload = .builtin (.date .getTimezoneOffset)) :
    (Bridge.toNative (.object o)).Ends (Engine.ofLevel 4) m fun t _ => t = .date (Instant.ofMilliseconds 0) := by
  have hheld : (m.rooted [.object o]).Unaltered := ⟨h.standing, h.functions⟩
  have htable : x.payload.isTable = true := by
    rw [htime]
    rfl
  have hget : (Engine.ofLevel 4).get o "getTime" (.object o) (m.rooted [.object o]) =
      .done (.object g) (m.rooted [.object o]) :=
    Act.get_own (m := m.rooted _) hx (Object.reads_of_isTable htable hown (by rintro _ ⟨⟩ ⟨⟩))
  have hcall : (Engine.ofLevel 4).call (.object g) (.object o) [] ((m.rooted [.object o]).rooted [.object g, .object o]) =
      .done (.number Double.zero) ((m.rooted [.object o]).rooted [.object g, .object o]) :=
    Act.call_builtin_of_done (m := (m.rooted _).rooted _) hy hg hdepth rfl
      (Act.run_getTimezoneOffset (m := ((m.rooted _).rooted _).framed g _ _) hx htime hvalid)
  have hmethod := Bridge.run_callMethod_of_same (m := m.rooted [.object o]) hget hy
    (by simp [Object.isCallable, hg]) hcall
  obtain ⟨depth, hlimit⟩ : ∃ depth, Bridge.nestingLimit = depth + 1 := ⟨_, rfl⟩
  unfold Bridge.toNative
  apply Bridge.Ends.holding
  rw [hlimit, Bridge.toNativeWithin, Bridge.nativeOf, Bridge.nativeOfObject_eq]
  apply Bridge.Ends.andThen (hheld.kindOf_ends (n := 1) hdepth hx hdate)
  apply Bridge.Ends.after ((Bridge.run_dateOf hmethod).trans
    (Bridge.run_instantOf (Double.truncated?_of_toInt? Double.toInt?_zero) (by decide) (by decide)))
  exact .pure rfl

/-- A date one millisecond after 1970 that is taken for 1970: it is asked how far local time is behind, and not for its
time. -/
theorem Machine.date_ownGetTime : ∃ (m : Machine) (o : ObjectId) (x : Object), m.Unaltered ∧ m.depth < m.depthLimit ∧
    m.objects[o]? = some x ∧ x.IsOf .date ∧ x.payload = .date (Double.ofInt 1) ∧
    clipTime (Double.ofInt 1) = Double.ofInt 1 ∧
    (Bridge.toNative (.object o)).Ends (Engine.ofLevel 4) m (fun t _ => t = .date (Instant.ofMilliseconds 0)) ∧
    Native.date (Instant.ofMilliseconds 0) ≠ .date (Instant.ofMilliseconds 1) := by
  obtain ⟨g, y, -, hy, hg⟩ := Machine.unaltered_initial.method (o := Intrinsic.datePrototype) (k := "getTimezoneOffset")
    (f := .date .getTimezoneOffset) rfl
  let x : Object :=
    { proto := some Intrinsic.datePrototype
      properties := #[("getTime", .plain (.object g))]
      payload := .date (Double.ofInt 1) }
  let m : Machine := { Realm.initial with objects := Realm.initial.objects.push x, depth := 0, depthLimit := 1 }
  have hkeeps : Keeps (fun _ => True) Realm.initial.objects m.objects := .push x
  have hm : m.Unaltered := Machine.unaltered_initial.keep hkeeps
  have hx : m.objects[Realm.initial.objects.size]? = some x := Array.getElem?_push_size
  have hdate : x.IsOf .date := ⟨rfl, rfl, rfl⟩
  have hends := hm.toNative_ownGetTime Nat.one_pos hx hdate rfl (by decide) rfl (hkeeps g y trivial hy) hg
  refine ⟨m, _, x, hm, Nat.one_pos, hx, hdate, rfl, by decide +kernel, hends, ?_⟩
  rw [Ne, Native.date.injEq]
  decide

end Guest

end Embedding
