import Embedding.Proofs.RunOutcomes
import Embedding.Proofs.ToNative
import Mathlib.Data.Finset.Card
import Mathlib.Data.List.Induction

namespace Embedding

namespace Native

variable {α : Type}

/-- The entries of a map that entries have been put into, one after the other. -/
def gathered (ps : List (String × α)) : List (String × α) := ps.foldl (fun es p => insertEntry es p.1 p.2) []

@[simp] theorem gathered_append (ps : List (String × α)) (p : String × α) :
    gathered (ps ++ [p]) = insertEntry (gathered ps) p.1 p.2 := by simp [gathered]

theorem keys_insertEntry (es : List (String × α)) (key : String) (value : α) :
    (insertEntry es key value).map (·.1) =
      if key ∈ es.map (·.1) then es.map (·.1) else es.map (·.1) ++ [key] := by
  induction es with
  | nil => rfl
  | cons e es ih =>
    rw [insertEntry]
    by_cases he : e.1 = key
    · simp [he]
    · simp only [if_neg he, List.map_cons, ih, List.mem_cons, Ne.symm he, false_or]
      split <;> rfl

theorem mem_insertEntry {es : List (String × α)} (h : (es.map (·.1)).Nodup) {key k : String} {value x : α} :
    (k, x) ∈ insertEntry es key value ↔ k = key ∧ x = value ∨ k ≠ key ∧ (k, x) ∈ es := by
  induction es with
  | nil => simp [insertEntry]
  | cons e es ih =>
    obtain ⟨hnew, hrest⟩ := List.nodup_cons.mp (List.map_cons ▸ h)
    rw [insertEntry]
    by_cases he : e.1 = key
    · have hkey : ∀ y, (key, y) ∉ es := fun y hy => hnew (he ▸ List.mem_map_of_mem hy)
      rw [if_pos he, List.mem_cons, List.mem_cons, Prod.mk.injEq]
      by_cases hk : k = key
      · simp [hk, hkey]
      · have hne : (k, x) ≠ e := by
          rintro rfl
          exact hk he
        simp [hk, hne]
    · rw [if_neg he, List.mem_cons, List.mem_cons, ih hrest]
      by_cases hk : k = key
      · subst hk
        have hne : (k, x) ≠ e := by
          rintro rfl
          exact he rfl
        simp [hne]
      · simp [hk]

/-- Of the entries with one key the last counts, and the others leave nothing. -/
structure LastCounts (ps es : List (String × α)) : Prop where
  nodup : (es.map (·.1)).Nodup
  mem : ∀ key x, (key, x) ∈ es ↔ ∃ before after, ps = before ++ (key, x) :: after ∧ key ∉ after.map (·.1)
  length_le : es.length ≤ ps.length
  length_eq : es.length = ps.length ↔ (ps.map (·.1)).Nodup

theorem nodup_gathered (ps : List (String × α)) : ((gathered ps).map (·.1)).Nodup := by
  induction ps using List.reverseRecOn with
  | nil => exact List.nodup_nil
  | append_singleton ps p ih =>
    rw [gathered_append, keys_insertEntry]
    split
    · exact ih
    · next hnew =>
      exact List.nodup_append.mpr ⟨ih, List.nodup_singleton _, fun a ha b hb => by
        rw [List.mem_singleton.mp hb]
        exact fun h => hnew (h ▸ ha)⟩

theorem mem_gathered {ps : List (String × α)} {key : String} {x : α} :
    (key, x) ∈ gathered ps ↔ ∃ before after, ps = before ++ (key, x) :: after ∧ key ∉ after.map (·.1) := by
  induction ps using List.reverseRecOn with
  | nil => simp [gathered]
  | append_singleton ps p ih =>
    rw [gathered_append, mem_insertEntry (nodup_gathered ps), ih]
    constructor
    · rintro (⟨rfl, rfl⟩ | ⟨hne, before, after, rfl, hafter⟩)
      · exact ⟨ps, [], rfl, List.not_mem_nil⟩
      · exact ⟨before, after ++ [p], by simp, by simpa using ⟨by simpa using hafter, hne⟩⟩
    · rintro ⟨before, after, hps, hafter⟩
      rcases List.eq_nil_or_concat after with rfl | ⟨after, q, rfl⟩
      · obtain ⟨-, rfl⟩ := List.append_inj' hps rfl |>.imp_right List.singleton_inj.mp
        exact .inl ⟨rfl, rfl⟩
      · rw [List.concat_eq_append, ← List.cons_append, ← List.append_assoc] at hps
        obtain ⟨hps', rfl⟩ := List.append_inj' hps rfl |>.imp_right List.singleton_inj.mp
        simp only [List.concat_eq_append, List.map_append, List.map_cons, List.map_nil, List.mem_append,
          List.mem_singleton, not_or] at hafter
        exact .inr ⟨hafter.2, before, after, hps', hafter.1⟩

theorem keys_gathered (ps : List (String × α)) :
    ((gathered ps).map (·.1)).toFinset = (ps.map (·.1)).toFinset := by
  induction ps using List.reverseRecOn with
  | nil => rfl
  | append_singleton ps p ih =>
    rw [gathered_append, keys_insertEntry, List.map_append, List.toFinset_append, ← ih]
    split
    · next hold =>
      refine (Finset.union_eq_left.mpr ?_).symm
      simpa using hold
    · rw [List.toFinset_append]
      rfl

theorem lastCounts_gathered (ps : List (String × α)) : LastCounts ps (gathered ps) := by
  have hlength : (gathered ps).length = (ps.map (·.1)).toFinset.card := by
    rw [← keys_gathered, List.toFinset_card_of_nodup (nodup_gathered ps), List.length_map]
  have hkeys : (ps.map (·.1)).length = ps.length := List.length_map _
  refine ⟨nodup_gathered ps, fun key x => mem_gathered, ?_, ?_⟩
  · rw [hlength, ← hkeys]
    exact List.toFinset_card_le _
  · rw [hlength, ← hkeys]
    exact Multiset.toFinset_card_eq_card_iff_nodup

theorem exists_mapOfEntries (ps : List (String × Native)) : ∃ es, mapOfEntries ps = .map es ∧ LastCounts ps es :=
  ⟨gathered ps, rfl, lastCounts_gathered ps⟩

end Native

namespace Guest

namespace Bridge

variable (convert : Value → Bridge Native)

/-- The host form of an entry of a map: of the key, and then of the value. -/
def entryNative (entry : Value × Value) : Bridge (String × Native) := do
  let key ← coerceText entry.1
  return (key, ← convert entry.2)

variable {convert} {e : Engine} {m m' : Machine} {log : List Exchange}

theorem entryNative_fails {k v : Value} {failure : Failure} :
    (entryNative convert (k, v)).Reaches e m log (.error failure) m' ↔
      (coerceText k).Reaches e m log (.error failure) m' ∨
        ∃ l₁ l₂ key m₁, log = l₁ ++ l₂ ∧ (coerceText k).Reaches e m l₁ (.ok key) m₁ ∧
          (convert v).Reaches e m₁ l₂ (.error failure) m' := by
  rw [entryNative, reaches_bind, or_comm]
  apply or_congr
  · constructor
    · rintro ⟨_, ⟨⟩, h⟩
      exact h
    · exact fun h => ⟨failure, rfl, h⟩
  · refine exists₄_congr fun l₁ l₂ key m₁ => and_congr_right fun _ => and_congr_right fun _ => ?_
    rw [reaches_bind]
    constructor
    · rintro (⟨_, _, _, _, _, -, hreturn⟩ | ⟨_, ⟨⟩, h⟩)
      · cases (reaches_pure.mp hreturn).2.1
      · exact h
    · exact fun h => .inr ⟨failure, rfl, h⟩

theorem foldlM_entries (o : ObjectId) (entries : List (Value × Value)) (es : List (String × Native)) :
    ((entries.map fun e => [e.2, e.1, Value.object o]).foldlM (fun entries args => do
      match args with
      | v :: k :: _ =>
        let key ← coerceText k
        return Native.insertEntry entries key (← convert v)
      | _ => return entries) es : Bridge (List (String × Native))) = do
    let ps ← entries.mapM (entryNative convert)
    return ps.foldl (fun es p => Native.insertEntry es p.1 p.2) es := by
  induction entries generalizing es with
  | nil => simp
  | cons entry entries ih =>
    simp only [List.map_cons, List.foldlM_cons, List.mapM_cons, entryNative, bind_assoc, pure_bind, ih,
      List.foldl_cons]

theorem mapM_elements (o : ObjectId) (elements : List Value) :
    (do
      let items ← ((elements.map fun v => [v, v, Value.object o]).mapM fun args => do
        match args with
        | v :: _ => return some (← convert v)
        | [] => return none : Bridge (List (Option Native)))
      return items.filterMap id) = elements.mapM convert := by
  induction elements with
  | nil => simp
  | cons v elements ih =>
    rw [List.mapM_cons, ← ih]
    simp

end Bridge

variable {convert : Value → Bridge Native}

/-- What becomes of a map that is taken apart. When its entries are noted down, guest code has done nothing more to the
machine; from there they are converted. -/
structure MapTaken (convert : Value → Bridge Native) (e : Engine) (o : ObjectId) (entries : List (Value × Value))
    (m m₀ : Machine) : Prop where
  size : e.get o "size" (.object o) m = .done (.ofNat entries.length) m
  noted : m.Follows (fun _ => True) m₀
  /-- It comes out if all its keys and values do, in their order. -/
  gives : ∀ log es m', (Bridge.mapEntries convert o).Reaches e m log (.ok es) m' ↔
    ∃ ps m₁, Bridge.InTurn (Bridge.entryNative convert) e m₀ entries log ps m₁ ∧ es = Native.gathered ps ∧
      m' = { m₁ with roots := m.roots }
  /-- Then of the entries whose keys have one text the last counts. -/
  counts : ∀ log ps m₁, Bridge.InTurn (Bridge.entryNative convert) e m₀ entries log ps m₁ →
    ps.length = entries.length ∧ Native.LastCounts ps (Native.gathered ps)
  /-- It fails as the first of its keys and values that does. -/
  fails : ∀ log failure m', (Bridge.mapEntries convert o).Reaches e m log (.error failure) m' ↔
    ∃ before k v after l₁ l₂ ps m₁ m₂, entries = before ++ (k, v) :: after ∧ log = l₁ ++ l₂ ∧
      Bridge.InTurn (Bridge.entryNative convert) e m₀ before l₁ ps m₁ ∧
      ((Bridge.coerceText k).Reaches e m₁ l₂ (.error failure) m₂ ∨
        ∃ k₁ k₂ key m₃, l₂ = k₁ ++ k₂ ∧ (Bridge.coerceText k).Reaches e m₁ k₁ (.ok key) m₃ ∧
          (convert v).Reaches e m₃ k₂ (.error failure) m₂) ∧
      m' = { m₂ with roots := m.roots }
  /-- That is all that is done with an object that has been taken for a map. -/
  whole : ∀ (start : Machine) (l : List Exchange), (Bridge.kindOf o).Reaches e start l (.ok .map) m → ∀ log r m',
    (Bridge.nativeOfObject convert o).Reaches e start (l ++ log) r m' ↔
      ∃ r₀, (Bridge.mapEntries convert o).Reaches e m log r₀ m' ∧ r = r₀.map Native.map

/-- What becomes of a set that is taken apart. -/
structure SetTaken (convert : Value → Bridge Native) (e : Engine) (o : ObjectId) (elements : List Value)
    (m m₀ : Machine) : Prop where
  size : e.get o "size" (.object o) m = .done (.ofNat elements.length) m
  noted : m.Follows (fun _ => True) m₀
  gives : ∀ log xs m', (Bridge.setItems convert o).Reaches e m log (.ok xs) m' ↔
    ∃ m₁, Bridge.InTurn convert e m₀ elements log xs m₁ ∧ m' = { m₁ with roots := m.roots }
  counts : ∀ log xs m₁, Bridge.InTurn convert e m₀ elements log xs m₁ → xs.length = elements.length
  fails : ∀ log failure m', (Bridge.setItems convert o).Reaches e m log (.error failure) m' ↔
    ∃ before v after l₁ l₂ xs m₁ m₂, elements = before ++ v :: after ∧ log = l₁ ++ l₂ ∧
      Bridge.InTurn convert e m₀ before l₁ xs m₁ ∧ (convert v).Reaches e m₁ l₂ (.error failure) m₂ ∧
      m' = { m₂ with roots := m.roots }
  whole : ∀ (start : Machine) (l : List Exchange), (Bridge.kindOf o).Reaches e start l (.ok .set) m → ∀ log r m',
    (Bridge.nativeOfObject convert o).Reaches e start (l ++ log) r m' ↔
      ∃ r₀, (Bridge.setItems convert o).Reaches e m log r₀ m' ∧ r = r₀.map Native.set

namespace Machine.Genuine

variable {m : Machine} {far : Nat} {o : ObjectId}

section Noted

variable {c : Container} (h : m.Genuine far o c) (hdepth : m.depth < m.depthLimit)
  (hsize : c.size < Act.roundLimit) (n : Nat)
include h hdepth hsize

theorem exists_noted {α : Type} (goOn : List (List Value) → Bridge α) : ∃ m₀, m.Follows (fun _ => True) m₀ ∧
    (do
      let _ ← Bridge.countOf o "size"
      Bridge.holding [] do
        let calls ← Bridge.forEachCalls o
        goOn calls).run (Engine.ofLevel (far + n + 2)) m =
      ((goOn (c.pairs.map fun e => [e.2, e.1, .object o])).run (Engine.ofLevel (far + n + 2)) m₀).leaving
        fun m' => { m' with roots := m.roots } := by
  obtain ⟨m₀, hcalls, hfollows⟩ := Machine.Genuine.exists_run_forEachCalls (m := m.rooted []) (n := n)
    ⟨h.holds, h.size, h.forEach⟩ hdepth hsize
  have hcount : ∃ count, (Bridge.countOf o "size").run (Engine.ofLevel (far + n + 2)) m = .done (.ok count) m := by
    have hget : (Bridge.getProperty o "size").run (Engine.ofLevel (far + n + 2)) m = .done (.ok (.ofNat c.size)) m :=
      Bridge.run_check_of_done (h.get_size hdepth)
    unfold Bridge.countOf
    rw [Bridge.run_after hget]
    exact ⟨_, Bridge.run_after (Bridge.run_pure (Double.ofInt c.size))⟩
  obtain ⟨count, hcount⟩ := hcount
  refine ⟨m₀, ⟨hfollows.keeps, hfollows.size_le, hfollows.depth, hfollows.depthLimit⟩, ?_⟩
  rw [Bridge.run_after hcount]
  exact congrArg (Run.leaving · _) (Bridge.run_after hcalls)

end Noted

theorem mapEntries_reaches {entries : List (Value × Value)} (h : m.Genuine far o (.map entries))
    (hdepth : m.depth < m.depthLimit) (hsize : entries.length < Act.roundLimit) (convert : Value → Bridge Native)
    (n : Nat) : ∃ m₀, m.Follows (fun _ => True) m₀ ∧ ∀ log r m',
      (Bridge.mapEntries convert o).Reaches (Engine.ofLevel (far + n + 2)) m log r m' ↔
        ∃ r₀ m₁, (entries.mapM (Bridge.entryNative convert)).Reaches (Engine.ofLevel (far + n + 2)) m₀ log r₀ m₁ ∧
          r = r₀.map Native.gathered ∧ m' = { m₁ with roots := m.roots } := by
  obtain ⟨m₀, hfollows, hrun⟩ := h.exists_noted hdepth hsize n fun calls =>
    calls.foldlM (fun entries args => do
      match args with
      | v :: k :: _ =>
        let key ← Bridge.coerceText k
        return Native.insertEntry entries key (← convert v)
      | _ => return entries) []
  rw [Container.pairs, Bridge.foldlM_entries] at hrun
  have hall : (Bridge.mapEntries convert o).run (Engine.ofLevel (far + n + 2)) m =
      ((do return Native.gathered (← entries.mapM (Bridge.entryNative convert)) : Bridge _).run
        (Engine.ofLevel (far + n + 2)) m₀).leaving fun m' => { m' with roots := m.roots } := hrun
  refine ⟨m₀, hfollows, fun log r m' => ?_⟩
  have hmap : (Bridge.mapEntries convert o).Reaches (Engine.ofLevel (far + n + 2)) m log r m' ↔
      ∃ m₁, (do return Native.gathered (← entries.mapM (Bridge.entryNative convert)) : Bridge _).Reaches
        (Engine.ofLevel (far + n + 2)) m₀ log r m₁ ∧ m' = { m₁ with roots := m.roots } := by
    rw [Bridge.Reaches, hall]
    exact Run.reaches_leaving
  rw [hmap]
  simp only [Bridge.reaches_map]
  constructor
  · rintro ⟨m₁, ⟨r₀, hrow, hr⟩, hm⟩
    exact ⟨r₀, m₁, hrow, hr, hm⟩
  · rintro ⟨r₀, m₁, hrow, hr, hm⟩
    exact ⟨m₁, ⟨r₀, hrow, hr⟩, hm⟩

theorem setItems_reaches {elements : List Value} (h : m.Genuine far o (.set elements))
    (hdepth : m.depth < m.depthLimit) (hsize : elements.length < Act.roundLimit) (convert : Value → Bridge Native)
    (n : Nat) : ∃ m₀, m.Follows (fun _ => True) m₀ ∧ ∀ log r m',
      (Bridge.setItems convert o).Reaches (Engine.ofLevel (far + n + 2)) m log r m' ↔
        ∃ m₁, (elements.mapM convert).Reaches (Engine.ofLevel (far + n + 2)) m₀ log r m₁ ∧
          m' = { m₁ with roots := m.roots } := by
  obtain ⟨m₀, hfollows, hrun⟩ := h.exists_noted hdepth hsize n fun calls => do
    let items ← calls.mapM fun args => do
      match args with
      | v :: _ => return some (← convert v)
      | [] => return none
    return items.filterMap id
  have hpairs : (Container.set elements).pairs.map (fun e => [e.2, e.1, Value.object o]) =
      elements.map fun v => [v, v, Value.object o] := by
    rw [Container.pairs, List.map_map]
    rfl
  rw [hpairs, Bridge.mapM_elements] at hrun
  have hall : (Bridge.setItems convert o).run (Engine.ofLevel (far + n + 2)) m =
      ((elements.mapM convert).run (Engine.ofLevel (far + n + 2)) m₀).leaving fun m' =>
        { m' with roots := m.roots } := hrun
  refine ⟨m₀, hfollows, fun log r m' => ?_⟩
  rw [Bridge.Reaches, hall]
  exact Run.reaches_leaving

/-- What is in a map or a set when the host starts to take it apart is what comes out, whatever guest code the
conversions run. -/
theorem snapshot {c : Container} (h : m.Genuine far o c) (hdepth : m.depth < m.depthLimit)
    (hsize : c.size < Act.roundLimit) (convert : Value → Bridge Native) (n : Nat) : ∃ m₀, match c with
    | .map entries => MapTaken convert (Engine.ofLevel (far + n + 2)) o entries m m₀
    | .set elements => SetTaken convert (Engine.ofLevel (far + n + 2)) o elements m m₀ := by
  cases c with
  | map entries =>
    obtain ⟨m₀, hfollows, hways⟩ := h.mapEntries_reaches hdepth hsize convert n
    refine ⟨m₀, h.get_size hdepth, hfollows, ?_, ?_, ?_, ?_⟩
    · intro log es m'
      rw [hways]
      constructor
      · rintro ⟨_ | ps, m₁, hrow, hes, hm⟩
        · cases hes
        · cases hes
          exact ⟨ps, m₁, Bridge.reaches_mapM_ok.mp hrow, rfl, hm⟩
      · rintro ⟨ps, m₁, hrow, rfl, hm⟩
        exact ⟨.ok ps, m₁, Bridge.reaches_mapM_ok.mpr hrow, rfl, hm⟩
    · exact fun log ps m₁ hrow => ⟨hrow.length, Native.lastCounts_gathered ps⟩
    · intro log failure m'
      rw [hways]
      constructor
      · rintro ⟨_ | ps, m₂, hrow, hes, hm⟩
        · cases hes
          obtain ⟨before, ⟨k, v⟩, after, l₁, l₂, ps, m₁, hentries, hlog, hbefore, hfails⟩ :=
            Bridge.reaches_mapM_error.mp hrow
          exact ⟨before, k, v, after, l₁, l₂, ps, m₁, m₂, hentries, hlog, hbefore, Bridge.entryNative_fails.mp hfails,
            hm⟩
        · cases hes
      · rintro ⟨before, k, v, after, l₁, l₂, ps, m₁, m₂, hentries, hlog, hbefore, hfails, hm⟩
        exact ⟨.error failure, m₂, Bridge.reaches_mapM_error.mpr ⟨before, (k, v), after, l₁, l₂, ps, m₁, hentries, hlog,
          hbefore, Bridge.entryNative_fails.mpr hfails⟩, rfl, hm⟩
    · intro start l hkind log r m'
      rw [Bridge.nativeOfObject_eq, hkind.bind_iff]
      exact Bridge.reaches_map
  | set elements =>
    obtain ⟨m₀, hfollows, hways⟩ := h.setItems_reaches hdepth hsize convert n
    refine ⟨m₀, h.get_size hdepth, hfollows, ?_, ?_, ?_, ?_⟩
    · intro log xs m'
      rw [hways]
      exact exists_congr fun m₁ => and_congr_left fun _ => Bridge.reaches_mapM_ok
    · exact fun log xs m₁ hrow => hrow.length
    · intro log failure m'
      rw [hways]
      constructor
      · rintro ⟨m₂, hrow, hm⟩
        obtain ⟨before, v, after, l₁, l₂, xs, m₁, helements, hlog, hbefore, hfails⟩ := Bridge.reaches_mapM_error.mp hrow
        exact ⟨before, v, after, l₁, l₂, xs, m₁, m₂, helements, hlog, hbefore, hfails, hm⟩
      · rintro ⟨before, v, after, l₁, l₂, xs, m₁, m₂, helements, hlog, hbefore, hfails, hm⟩
        exact ⟨m₂, Bridge.reaches_mapM_error.mpr ⟨before, v, after, l₁, l₂, xs, m₁, helements, hlog, hbefore, hfails⟩, hm⟩
    · intro start l hkind log r m'
      rw [Bridge.nativeOfObject_eq, hkind.bind_iff]
      exact Bridge.reaches_map

/-- A map that an entry has been removed from; two of the keys that are left have one text. -/
theorem snapshot_withGap : ∃ (m : Machine) (o : ObjectId) (m₀ : Machine),
    m.Genuine 1 o (.map [(.ofNat 1, .null), (.text (Text.ofString "1"), .bool true)]) ∧ m.depth < m.depthLimit ∧
    MapTaken Bridge.toNative (Engine.ofLevel 3) o [(.ofNat 1, .null), (.text (Text.ofString "1"), .bool true)] m m₀ := by
  let x : Object :=
    { proto := some Intrinsic.mapPrototype
      payload := .map #[some (.ofNat 1, .null), none, some (.text (Text.ofString "1"), .bool true)] }
  let m : Machine := { Realm.initial with objects := Realm.initial.objects.push x, depth := 0, depthLimit := 1 }
  have hm : m.Unaltered := Machine.unaltered_initial.keep (.push x)
  have hgenuine : m.Genuine 1 Realm.initial.objects.size
      (.map [(.ofNat 1, .null), (.text (Text.ofString "1"), .bool true)]) :=
    hm.genuine (x := x) Array.getElem?_push_size rfl rfl rfl rfl (p := Intrinsic.mapPrototype) (by decide)
      (by decide +kernel) rfl rfl
  obtain ⟨m₀, htaken⟩ := hgenuine.snapshot Nat.one_pos (by decide) Bridge.toNative 0
  exact ⟨m, Realm.initial.objects.size, m₀, hgenuine, Nat.one_pos, htaken⟩

end Machine.Genuine

end Guest

end Embedding
