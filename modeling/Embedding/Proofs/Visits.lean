import Embedding.Proofs.Parts

namespace Embedding.Guest

structure Machine.Alike (m m' : Machine) : Prop where
  objects : m'.objects = m.objects
  depth : m'.depth = m.depth
  depthLimit : m'.depthLimit = m.depthLimit

def entriesFrom {α : Type} (slots : Array (Option α)) (start : Nat) : List α := (slots.toList.drop start).filterMap id

section Entries

variable {α : Type} {slots : Array (Option α)} {i : Nat}

theorem entryFrom_of_lt (hi : i < slots.size) :
    entryFrom slots i = (slots[i].map fun e => (e, i + 1)).or (entryFrom slots (i + 1)) := by
  obtain ⟨k, hk⟩ : ∃ k, slots.size - i = k + 1 := ⟨slots.size - i - 1, by omega⟩
  have hk' : slots.size - (i + 1) = k := by omega
  simp only [entryFrom, hk, hk', List.range'_succ, List.findSome?_cons, Array.getD_eq_getD_getElem?,
    Array.getElem?_eq_getElem hi, Option.getD_some]
  cases slots[i] <;> rfl

theorem entriesFrom_of_lt (hi : i < slots.size) :
    entriesFrom slots i = slots[i].toList ++ entriesFrom slots (i + 1) := by
  have hdrop : slots.toList.drop i = slots[i] :: slots.toList.drop (i + 1) := by
    rw [List.drop_eq_getElem_cons (by simpa using hi), Array.getElem_toList]
  rw [entriesFrom, hdrop]
  cases h : slots[i] <;> simp [entriesFrom]

theorem entryFrom_spec (slots : Array (Option α)) (i : Nat) : match entriesFrom slots i with
    | [] => entryFrom slots i = none
    | e :: rest => ∃ next, entryFrom slots i = some (e, next) ∧ entriesFrom slots next = rest := by
  by_cases hi : i < slots.size
  · have ih := entryFrom_spec slots (i + 1)
    rw [entryFrom_of_lt hi, entriesFrom_of_lt hi]
    cases slots[i] with
    | none => exact ih
    | some e => exact ⟨i + 1, rfl, rfl⟩
  · have hnone : entriesFrom slots i = [] := by
      rw [entriesFrom, List.drop_eq_nil_of_le (by simpa using hi)]
      rfl
    have hk : slots.size - i = 0 := by omega
    rw [hnone, entryFrom, hk]
    rfl
termination_by slots.size - i

theorem size_filter_isSome : (slots.filter Option.isSome).size = (entriesFrom slots 0).length := by
  rw [← Array.length_toList, Array.toList_filter, entriesFrom, List.drop_zero]
  induction slots.toList with
  | nil => rfl
  | cons e es ih => cases e <;> simp [ih]

end Entries

/-- A map or a set with all that is in it, in the order in which it was put there. -/
inductive Container where
  | map (entries : List (Value × Value))
  | set (elements : List Value)

namespace Container

def ofPayload? : Payload → Option Container
  | .map slots => some (.map (entriesFrom slots 0))
  | .set slots => some (.set (entriesFrom slots 0))
  | _ => none

def size : Container → Nat
  | map entries => entries.length
  | set elements => elements.length

def pairs : Container → List (Value × Value)
  | map entries => entries
  | set elements => elements.map fun v => (v, v)

def sizeFn : Container → CollectionFn
  | map _ => .mapSize
  | set _ => .setSize

def forEachFn : Container → CollectionFn
  | map _ => .mapForEach
  | set _ => .setForEach

end Container

namespace Act

variable {e : Engine} {m : Machine} {n : Nat}

theorem call_collector {f : ObjectId} {x : Object} {id : Nat} (hx : m.objects[f]? = some x)
    (hf : x.payload = .collector id) (this : Value) (args : List Value) :
    (Engine.ofLevel (n + 1)).call (.object f) this args m =
      .done .undefined { m with collections := m.collections.modify id fun calls => args :: calls } := by
  show callValue (.object f) this args (Engine.ofLevel n) m = _
  simp only [callValue]
  rw [run_bind_of_done (run_object hx)]
  simp only [hf]
  rfl

section Visit

variable {f : ObjectId} {y : Object} {id : Nat} {entryAt : Nat → Act (Option ((Value × Value) × Nat))}
  {left : Nat → List (Value × Value)}

theorem run_visitEntries_go {this : Value} {step : Nat → Act (Nat ⊕ Value)}
    (hnone : ∀ i m', m.Alike m' → left i = [] → step i (Engine.ofLevel (n + 1)) m' = .done (.inr .undefined) m')
    (hsome : ∀ i m' x rest, m.Alike m' → left i = x :: rest → ∃ next, left next = rest ∧
      step i (Engine.ofLevel (n + 1)) m' = .done (.inl next)
        { m' with collections := m'.collections.modify id fun calls => [x.2, x.1, this] :: calls })
    {es : List (Value × Value)} {rounds i : Nat} {m₁ : Machine} {calls : List (List Value)} (hrounds : es.length < rounds)
    (hleft : left i = es) (halike : m.Alike m₁) (hcalls : m₁.collections[id]? = some calls) :
    ∃ m', repeatUpTo rounds step i (Engine.ofLevel (n + 1)) m₁ = .done .undefined m' ∧ m.Alike m' ∧
      m'.collections[id]? = some ((es.map fun e => [e.2, e.1, this]).reverse ++ calls) := by
  induction es generalizing i m₁ calls rounds with
  | nil =>
    obtain ⟨rounds, rfl⟩ : ∃ r, rounds = r + 1 := ⟨rounds - 1, by simp at hrounds; omega⟩
    rw [repeatUpTo, run_bind_of_done (hnone i m₁ halike hleft)]
    exact ⟨m₁, rfl, halike, hcalls⟩
  | cons x rest ih =>
    obtain ⟨rounds, rfl⟩ : ∃ r, rounds = r + 1 := ⟨rounds - 1, by simp at hrounds; omega⟩
    obtain ⟨next, hnext, hrun⟩ := hsome i m₁ x rest halike hleft
    rw [repeatUpTo, run_bind_of_done hrun]
    have hmore : (m₁.collections.modify id fun calls => [x.2, x.1, this] :: calls)[id]? =
        some ([x.2, x.1, this] :: calls) := by
      rw [Array.getElem?_modify, if_pos rfl, hcalls]
      rfl
    have hlike : m.Alike { m₁ with
        collections := m₁.collections.modify id fun calls => [x.2, x.1, this] :: calls } :=
      ⟨halike.objects, halike.depth, halike.depthLimit⟩
    obtain ⟨m', hrest, halike', hcalls'⟩ := ih (by simpa using hrounds) hnext hlike hmore
    refine ⟨m', hrest, halike', ?_⟩
    rw [hcalls', List.map_cons, List.reverse_cons, List.append_assoc]
    rfl

theorem run_visitEntries {this : Value} (left : Nat → List (Value × Value))
    (hentry : ∀ i m', m.Alike m' → match left i with
      | [] => entryAt i (Engine.ofLevel (n + 1)) m' = .done none m'
      | x :: rest => ∃ next, entryAt i (Engine.ofLevel (n + 1)) m' = .done (some (x, next)) m' ∧ left next = rest)
    (hy : m.objects[f]? = some y) (hf : y.payload = .collector id) (hid : m.collections[id]? = some [])
    (hrounds : (left 0).length < roundLimit) :
    ∃ m', visitEntries this (.object f) .undefined entryAt (Engine.ofLevel (n + 1)) m = .done .undefined m' ∧
      m.Alike m' ∧ m'.collections[id]? = some ((left 0).map fun e => [e.2, e.1, this]).reverse := by
  have htest : isCallable (.object f) (Engine.ofLevel (n + 1)) m = .done true m := by
    show (object f >>= _) _ m = _
    rw [run_bind_of_done (run_object hy)]
    simp [Object.isCallable, hf]
  unfold visitEntries
  rw [run_bind_of_done htest, ← List.append_nil (List.reverse _)]
  simp only [Bool.not_true, Bool.false_eq_true, if_false]
  refine run_visitEntries_go ?_ ?_ hrounds rfl ⟨rfl, rfl, rfl⟩ hid
  · intro i m₁ halike hnone
    have hentry₁ := hentry i m₁ halike
    rw [hnone] at hentry₁
    rw [run_bind_of_done hentry₁]
    rfl
  · intro i m₁ x rest halike hsome
    have hentry₁ := hentry i m₁ halike
    rw [hsome] at hentry₁
    obtain ⟨next, hrun, hnext⟩ := hentry₁
    have hcall := call_collector (n := n) (m := m₁.rooted [x.1, x.2])
      (show (m₁.rooted _).objects[f]? = some y from halike.objects ▸ hy) hf .undefined [x.2, x.1, this]
    have hheld : holding [x.1, x.2] (call (.object f) .undefined [x.2, x.1, this]) (Engine.ofLevel (n + 1)) m₁ =
        .done .undefined { m₁ with collections := m₁.collections.modify id fun calls => [x.2, x.1, this] :: calls } := by
      rw [run_holding, call, hcall]
      rfl
    refine ⟨next, hnext, ?_⟩
    rw [run_bind_of_done hrun, run_bind_of_done hheld]
    rfl

end Visit

section Slots

variable {o : ObjectId} {x : Object} (hx : m.objects[o]? = some x)
include hx

theorem run_thisMap {slots : MapEntries} (hslots : x.payload = .map slots) :
    thisMap (.object o) e m = .done (o, slots) m := by
  show (object o >>= _) e m = _
  rw [run_bind_of_done (run_object hx)]
  simp only [hslots]
  rfl

theorem run_thisSet {slots : SetEntries} (hslots : x.payload = .set slots) :
    thisSet (.object o) e m = .done (o, slots) m := by
  show (object o >>= _) e m = _
  rw [run_bind_of_done (run_object hx)]
  simp only [hslots]
  rfl

variable {c : Container} (hc : Container.ofPayload? x.payload = some c)
include hc

theorem run_size {args : List Value} {target : Value} :
    runBuiltin (.collection c.sizeFn) (.object o) args target e m = .done (.ofNat c.size) m := by
  unfold Container.ofPayload? at hc
  split at hc
  · next slots hslots =>
    cases hc
    show (thisMap (.object o) >>= _) e m = _
    rw [run_bind_of_done (run_thisMap hx hslots), Container.size, ← size_filter_isSome]
    rfl
  · next slots hslots =>
    cases hc
    show (thisSet (.object o) >>= _) e m = _
    rw [run_bind_of_done (run_thisSet hx hslots), Container.size, ← size_filter_isSome]
    rfl
  · cases hc

theorem run_forEach {f : ObjectId} {y : Object} {id : Nat} (hy : m.objects[f]? = some y)
    (hf : y.payload = .collector id) (hid : m.collections[id]? = some []) (hrounds : c.size < roundLimit) :
    ∃ m', runBuiltin (.collection c.forEachFn) (.object o) [.object f] .undefined (Engine.ofLevel (n + 1)) m =
        .done .undefined m' ∧
      m.Alike m' ∧ m'.collections[id]? = some (c.pairs.map fun e => [e.2, e.1, .object o]).reverse := by
  unfold Container.ofPayload? at hc
  split at hc
  · next slots hslots =>
    cases hc
    show ∃ m', (thisMap (.object o) >>= _) _ m = _ ∧ _
    rw [run_bind_of_done (run_thisMap hx hslots)]
    refine run_visitEntries (entriesFrom slots) ?_ hy hf hid hrounds
    intro i m' halike
    have hentry : mapEntryAt o i (Engine.ofLevel (n + 1)) m' = .done (entryFrom slots i) m' := by
      unfold mapEntryAt
      rw [run_bind_of_done (run_object (halike.objects ▸ hx))]
      simp only [hslots]
      rfl
    have hspec := entryFrom_spec slots i
    rw [hentry]
    cases hrest : entriesFrom slots i with
    | nil =>
      rw [hrest] at hspec
      simp only [hspec]
    | cons x rest =>
      rw [hrest] at hspec
      obtain ⟨next, hfrom, hnext⟩ := hspec
      exact ⟨next, by rw [hfrom], hnext⟩
  · next slots hslots =>
    cases hc
    show ∃ m', (thisSet (.object o) >>= _) _ m = _ ∧ _
    rw [run_bind_of_done (run_thisSet hx hslots)]
    refine run_visitEntries (fun i => (entriesFrom slots i).map fun v => (v, v)) ?_ hy hf hid
      (by rwa [List.length_map])
    intro i m' halike
    have hentry : setEntryAt o i (Engine.ofLevel (n + 1)) m' =
        .done ((entryFrom slots i).map fun e => ((e.1, e.1), e.2)) m' := by
      unfold setEntryAt
      rw [run_bind_of_done (run_object (halike.objects ▸ hx))]
      simp only [hslots]
      rfl
    have hspec := entryFrom_spec slots i
    rw [hentry]
    cases hrest : entriesFrom slots i with
    | nil =>
      rw [hrest] at hspec
      simp [hspec]
    | cons v rest =>
      rw [hrest] at hspec
      obtain ⟨next, hfrom, hnext⟩ := hspec
      exact ⟨next, by rw [hfrom]; rfl, by rw [hnext]⟩
  · cases hc

end Slots

theorem exists_run_holdAll (vs : List Value) : ∃ roots,
    (forIn vs PUnit.unit fun v _ => do hold v; return .yield PUnit.unit : Act PUnit) e m = .done () { m with roots } := by
  induction vs generalizing m with
  | nil => exact ⟨m.roots, rfl⟩
  | cons v vs ih =>
    obtain ⟨roots, hrun⟩ := ih (m := { m with roots := .value v :: m.roots })
    refine ⟨roots, ?_⟩
    rw [List.forIn_cons]
    exact hrun

theorem exists_run_newCollector : ∃ m', Bridge.newCollector e m = .done (m.objects.size, m.collections.size) m' ∧
    m.Follows (fun _ => True) m' ∧
    (∃ y, m'.objects[m.objects.size]? = some y ∧ y.payload = .collector m.collections.size) ∧
    m'.collections[m.collections.size]? = some [] := by
  refine ⟨_, rfl, ⟨.push _, by simp, rfl, rfl⟩, ⟨_, Array.getElem?_push_size, rfl⟩, Array.getElem?_push_size⟩

end Act

/-- A map or a set as the builtins have it: it is counted and gone through by the builtin functions, which it has from
prototypes that are not too far away. -/
structure Machine.Genuine (m : Machine) (far : Nat) (o : ObjectId) (c : Container) : Prop where
  holds : ∃ x, m.objects[o]? = some x ∧ Container.ofPayload? x.payload = some c
  size : ∃ steps g y set enumerable configurable, steps ≤ far ∧
    Finds m.objects "size" ⟨.accessor (.object g) set, enumerable, configurable⟩ steps o ∧
    m.objects[g]? = some y ∧ y.payload = .builtin (.collection c.sizeFn)
  forEach : ∃ steps g y writable enumerable configurable, steps ≤ far ∧
    Finds m.objects "forEach" ⟨.data (.object g) writable, enumerable, configurable⟩ steps o ∧
    m.objects[g]? = some y ∧ y.payload = .builtin (.collection c.forEachFn)

namespace Machine.Genuine

variable {m : Machine} {far n : Nat} {o : ObjectId} {c : Container}

theorem keep {m' : Machine} (h : m.Genuine far o c) (hkeeps : Keeps (fun _ => True) m.objects m'.objects) :
    m'.Genuine far o c where
  holds := h.holds.imp fun x hx => ⟨hkeeps o x trivial hx.1, hx.2⟩
  size := by
    obtain ⟨steps, g, y, set, en, conf, hfar, hfinds, hy, hg⟩ := h.size
    exact ⟨steps, g, y, set, en, conf, hfar, hfinds.keep hkeeps, hkeeps g y trivial hy, hg⟩
  forEach := by
    obtain ⟨steps, g, y, w, en, conf, hfar, hfinds, hy, hg⟩ := h.forEach
    exact ⟨steps, g, y, w, en, conf, hfar, hfinds.keep hkeeps, hkeeps g y trivial hy, hg⟩

variable (h : m.Genuine far o c)
include h

theorem exists_get_forEach : ∃ g y, (Engine.ofLevel (far + n + 2)).get o "forEach" (.object o) m = .done (.object g) m ∧
    m.objects[g]? = some y ∧ y.payload = .builtin (.collection c.forEachFn) := by
  obtain ⟨steps, g, y, w, en, conf, hfar, hfinds, hy, hg⟩ := h.forEach
  obtain ⟨rest, rfl⟩ := Nat.exists_eq_add_of_le hfar
  refine ⟨g, y, ?_, hy, hg⟩
  rw [show steps + rest + n + 2 = rest + n + 1 + steps + 1 by omega, hfinds.get_eq]
  rfl

variable (hdepth : m.depth < m.depthLimit)
include hdepth

theorem get_size : (Engine.ofLevel (far + n + 2)).get o "size" (.object o) m = .done (.ofNat c.size) m := by
  obtain ⟨x, hx, hc⟩ := h.holds
  obtain ⟨steps, g, y, set, en, conf, hfar, hfinds, hy, hg⟩ := h.size
  obtain ⟨rest, rfl⟩ := Nat.exists_eq_add_of_le hfar
  rw [show steps + rest + n + 2 = rest + n + 1 + steps + 1 by omega, hfinds.get_eq]
  have hnew : (Builtin.collection c.sizeFn).requiresNew = false := by cases c <;> rfl
  exact Act.call_builtin_of_done hy hg hdepth hnew (Act.run_size (m := m.framed g _ _) hx hc)

variable (hsize : c.size < Act.roundLimit)
include hsize

theorem exists_run_callForEach {f : ObjectId} {y : Object} {id : Nat} (hf : m.objects[f]? = some y)
    (hy : y.payload = .collector id) (hid : m.collections[id]? = some []) : ∃ m',
    (Bridge.callMethod o "forEach" [.object f]).run (Engine.ofLevel (far + n + 2)) m = .done (.ok .undefined) m' ∧
      m.Alike m' ∧ m'.collections[id]? = some (c.pairs.map fun e => [e.2, e.1, .object o]).reverse := by
  obtain ⟨x, hx, hc⟩ := h.holds
  obtain ⟨g, z, hget, hz, hb⟩ := h.exists_get_forEach (n := n)
  obtain ⟨m₁, hrun, halike, hcalls⟩ := Act.run_forEach (n := far + n)
    (m := (m.rooted [.object g, .object o, .object f]).framed g (.object o) [.object f]) hx hc hf hy hid hsize
  have hnew : (Builtin.collection c.forEachFn).requiresNew = false := by cases c <;> rfl
  have hcall : (Engine.ofLevel (far + n + 2)).call (.object g) (.object o) [.object f]
      (m.rooted [.object g, .object o, .object f]) =
      .done .undefined ((m.rooted [.object g, .object o, .object f]).unframed m₁) := by
    rw [Act.call_builtin (m := m.rooted _) hz hb hdepth hnew, hrun]
    rfl
  exact ⟨_, Bridge.run_callMethod hget hz (by simp [Object.isCallable, hb]) hcall,
    ⟨halike.objects, rfl, halike.depthLimit⟩, hcalls⟩

theorem exists_run_forEachCalls : ∃ m',
    (Bridge.forEachCalls o).run (Engine.ofLevel (far + n + 2)) m =
      .done (.ok (c.pairs.map fun e => [e.2, e.1, .object o])) m' ∧ m.Follows (fun _ => True) m' := by
  obtain ⟨m₁, hnew, hfollows, ⟨y, hf, hy⟩, hid⟩ :=
    Act.exists_run_newCollector (e := Engine.ofLevel (far + n + 2)) (m := m)
  obtain ⟨m₂, hcall, halike, hcalls⟩ := (h.keep hfollows.keeps).exists_run_callForEach (n := n)
    (hfollows.lt_depthLimit hdepth) hsize hf hy hid
  obtain ⟨roots, hhold⟩ := Act.exists_run_holdAll (e := Engine.ofLevel (far + n + 2)) (m := m₂)
    (c.pairs.map fun e => [e.2, e.1, Value.object o]).reverse.flatten
  refine ⟨{ m₂ with roots, collections := m₂.collections.modify m.collections.size fun _ => [] }, ?_,
    hfollows.trans ⟨halike.objects ▸ .refl, Nat.le_of_eq (congrArg Array.size halike.objects.symm), halike.depth,
      halike.depthLimit⟩⟩
  have hcollector : (Bridge.ofGuest Bridge.newCollector).run (Engine.ofLevel (far + n + 2)) m =
      .done (.ok (m.objects.size, m.collections.size)) m₁ := by
    rw [Bridge.run_ofGuest, hnew]
    rfl
  unfold Bridge.forEachCalls
  rw [Bridge.run_after hcollector, Bridge.run_after hcall, Bridge.run_ofGuest, Act.run_bind_of_done Act.run_machine]
  simp only [hcalls, Option.getD_some]
  rw [Act.run_bind_of_done hhold, Act.run_bind_of_done (x := Act.clearCollection _) (Act.run_modifyMachine _ _ _),
    List.reverse_reverse]
  rfl

end Machine.Genuine

namespace Machine.Unaltered

variable {m : Machine} (h : m.Unaltered) {o p : ObjectId} {x : Object} {c : Container}
include h

theorem genuine {k k' : Key} {set : Option Builtin} {arity : Nat} (hx : m.objects[o]? = some x)
    (hc : Container.ofPayload? x.payload = some c) (hsize : x.property? "size" = none)
    (hforEach : x.property? "forEach" = none) (hproto : x.proto = some p) (hp : p ∈ Intrinsic.crossing)
    (htable : (Realm.siteAt? p).map (·.payload.isTable) = some true)
    (hcounts : Realm.member? p "size" = some (.accessor k (.collection c.sizeFn) set))
    (hvisits : Realm.member? p "forEach" = some (.method k' (.collection c.forEachFn) arity)) : m.Genuine 1 o c := by
  have hown : x.payload.isTable = true := by
    unfold Container.ofPayload? at hc
    split at hc <;> simp_all [Payload.isTable]
  obtain ⟨g, set', y, hgetter, hy, hg⟩ := h.getter hcounts
  obtain ⟨f, z, hmethod, hz, hf⟩ := h.method hvisits
  exact
    { holds := ⟨x, hx, hc⟩
      size := ⟨1, g, y, set', false, true, Nat.le_refl 1,
        .inherited hx (Object.reads_of_isTable hown hsize Object.not_lazy_of_none) hproto
          (.own (h.object hp) (Object.reads_of_isTable (Realm.isTable_builtin htable) hgetter (by rintro _ ⟨⟩ ⟨⟩))),
        hy, hg⟩
      forEach := ⟨1, f, z, true, false, true, Nat.le_refl 1,
        .inherited hx (Object.reads_of_isTable hown hforEach Object.not_lazy_of_none) hproto
          (.own (h.object hp) (Object.reads_of_isTable (Realm.isTable_builtin htable) hmethod (by rintro _ ⟨⟩ ⟨⟩))),
        hz, hf⟩ }

theorem genuine_ofEntries {entries : List (Value × Value)} (hx : m.objects[o]? = some (.ofEntries entries)) :
    m.Genuine 1 o (.map entries) :=
  h.genuine hx (by simp [Object.ofEntries, Container.ofPayload?, entriesFrom]) rfl rfl rfl
    (p := Intrinsic.mapPrototype) (by decide) (by decide +kernel) rfl rfl

theorem genuine_ofElements {vs : List Value} (hx : m.objects[o]? = some (.ofElements vs)) : m.Genuine 1 o (.set vs) :=
  h.genuine hx (by simp [Object.ofElements, Container.ofPayload?, entriesFrom]) rfl rfl rfl
    (p := Intrinsic.setPrototype) (by decide) (by decide +kernel) rfl rfl

end Machine.Unaltered

end Embedding.Guest
