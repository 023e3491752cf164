import Embedding.Proofs.Integers
import Embedding.Proofs.Visits

namespace Embedding

theorem Native.insertEntry_of_not_mem {α : Type} {entries : List (String × α)} {key : String} {value : α}
    (h : key ∉ entries.map (·.1)) : insertEntry entries key value = entries ++ [(key, value)] := by
  induction entries with
  | nil => rfl
  | cons e rest ih =>
    simp only [List.map_cons, List.mem_cons, not_or] at h
    rw [insertEntry, if_neg (Ne.symm h.1), ih h.2, List.cons_append]

namespace Guest

namespace Bridge

theorem coerceText_ends {e : Engine} {m : Machine} (s : String) :
    (coerceText (.text (Text.ofString s))).Ends e m fun s' m' => s' = s ∧ m' = m := by
  have hhost : hostText (Text.ofString s) = .ok s := by rw [hostText, Text.toString?_ofString]
  have htext : Act.toText (.text (Text.ofString s)) e m = .done (Text.ofString s) m := rfl
  unfold coerceText
  apply Ends.andThen (.check htext ⟨rfl, rfl⟩)
  rw [hhost]
  exact .pure ⟨rfl, rfl⟩

end Bridge

namespace Machine.Unaltered

variable {m : Machine} (h : m.Unaltered) {n : Nat} {o : ObjectId} {convert : Value → Bridge Native}
  (hdepth : m.depth < m.depthLimit)
include h hdepth

theorem mapEntries_ends {es : List (String × Value × Native)}
    (hx : m.objects[o]? = some (.ofEntries (es.map fun e => (.text (Text.ofString e.1), e.2.1))))
    (hlength : es.length < 2 ^ 53) (hkeys : (es.map (·.1)).Nodup)
    (hconvert : ∀ e ∈ es, ∀ m', m.Follows (fun _ => True) m' →
      (convert e.2.1).Ends (Engine.ofLevel (n + 4)) m' fun t m'' => t = e.2.2 ∧ m'.Follows (fun _ => True) m'') :
    (Bridge.mapEntries convert o).Ends (Engine.ofLevel (n + 4)) m fun entries m' =>
      entries = es.map (fun e => (e.1, e.2.2)) ∧ m.Follows (fun _ => True) m' := by
  have hentries : (es.map fun e => (Value.text (Text.ofString e.1), e.2.1)).length = es.length := List.length_map _
  have hgenuine := h.genuine_ofEntries hx
  have hsize := hgenuine.get_size (n := n + 1) hdepth
  rw [show 1 + (n + 1) + 2 = n + 4 by omega, Container.size, hentries] at hsize
  obtain ⟨m₁, hcalls, hfollows⟩ := Machine.Genuine.exists_run_forEachCalls (m := m.rooted []) (n := n + 1)
    ⟨hgenuine.holds, hgenuine.size, hgenuine.forEach⟩ hdepth (by rw [Container.size, hentries]; exact hlength)
  rw [show 1 + (n + 1) + 2 = n + 4 by omega, Container.pairs] at hcalls
  unfold Bridge.mapEntries
  apply Bridge.Ends.andThen (Bridge.countOf_ends hsize hlength)
  apply Bridge.Ends.holding
  apply Bridge.Ends.after hcalls
  have hsame : ∀ m', (m.rooted []).Follows (fun _ => True) m' → m.Follows (fun _ => True) { m' with roots := m.roots } :=
    fun m' hm' => ⟨hm'.keeps, hm'.size_le, hm'.depth, hm'.depthLimit⟩
  have hsame' : ∀ m', (m.rooted []).Follows (fun _ => True) m' → m.Follows (fun _ => True) m' :=
    fun m' hm' => ⟨hm'.keeps, hm'.size_le, hm'.depth, hm'.depthLimit⟩
  refine (Bridge.Ends.foldlM (I := fun i entries m' => entries = (es.take i).map (fun e => (e.1, e.2.2)) ∧
    (m.rooted []).Follows (fun _ => True) m') ⟨rfl, hfollows⟩ ?_).imp ?_
  · rintro i hi entries m₂ ⟨rfl, hm₂⟩
    have hi' : i < es.length := by simpa using hi
    have htake : es.take (i + 1) = es.take i ++ [es[i]] := by
      rw [List.take_add_one, List.getElem?_eq_getElem hi']
      rfl
    have hnew : es[i].1 ∉ ((es.take i).map fun e => (e.1, e.2.2)).map (·.1) := by
      have hsplit : (es.map (·.1)).take (i + 1) = (es.map (·.1)).take i ++ [es[i].1] := by
        rw [← List.map_take, htake, List.map_append, List.map_take]
        rfl
      have hdistinct := (List.take_sublist (i + 1) (es.map (·.1))).nodup hkeys
      rw [hsplit] at hdistinct
      have hfirst : (fun e : String × Native => e.1) ∘ (fun e : String × Value × Native => (e.1, e.2.2)) =
          fun e => e.1 := rfl
      rw [List.map_map, hfirst, List.map_take]
      exact fun hmem => (List.nodup_append.mp hdistinct).2.2 _ hmem _ List.mem_cons_self rfl
    simp only [List.getElem_map]
    apply Bridge.Ends.andThen (Bridge.coerceText_ends _)
    apply Bridge.Ends.bind (hconvert es[i] (List.getElem_mem hi') m₂ (hsame' m₂ hm₂))
    rintro _ m₃ ⟨rfl, hm₃⟩
    refine .pure ⟨?_, hm₂.trans hm₃⟩
    rw [Native.insertEntry_of_not_mem hnew, htake, List.map_append]
    rfl
  · rintro _ m₂ ⟨rfl, hm₂⟩
    refine ⟨?_, hsame m₂ hm₂⟩
    simp

theorem setItems_ends {es : List (Value × Native)} (hx : m.objects[o]? = some (.ofElements (es.map (·.1))))
    (hlength : es.length < 2 ^ 53)
    (hconvert : ∀ e ∈ es, ∀ m', m.Follows (fun _ => True) m' →
      (convert e.1).Ends (Engine.ofLevel (n + 4)) m' fun t m'' => t = e.2 ∧ m'.Follows (fun _ => True) m'') :
    (Bridge.setItems convert o).Ends (Engine.ofLevel (n + 4)) m fun ts m' =>
      ts = es.map (·.2) ∧ m.Follows (fun _ => True) m' := by
  have helements : (es.map (·.1)).length = es.length := List.length_map _
  have hgenuine := h.genuine_ofElements hx
  have hsize := hgenuine.get_size (n := n + 1) hdepth
  rw [show 1 + (n + 1) + 2 = n + 4 by omega, Container.size, helements] at hsize
  obtain ⟨m₁, hcalls, hfollows⟩ := Machine.Genuine.exists_run_forEachCalls (m := m.rooted []) (n := n + 1)
    ⟨hgenuine.holds, hgenuine.size, hgenuine.forEach⟩ hdepth (by rw [Container.size, helements]; exact hlength)
  rw [show 1 + (n + 1) + 2 = n + 4 by omega, Container.pairs] at hcalls
  unfold Bridge.setItems
  apply Bridge.Ends.andThen (Bridge.countOf_ends hsize hlength)
  apply Bridge.Ends.holding
  apply Bridge.Ends.after hcalls
  have hsame : ∀ m', (m.rooted []).Follows (fun _ => True) m' → m.Follows (fun _ => True) { m' with roots := m.roots } :=
    fun m' hm' => ⟨hm'.keeps, hm'.size_le, hm'.depth, hm'.depthLimit⟩
  have hsame' : ∀ m', (m.rooted []).Follows (fun _ => True) m' → m.Follows (fun _ => True) m' :=
    fun m' hm' => ⟨hm'.keeps, hm'.size_le, hm'.depth, hm'.depthLimit⟩
  rw [List.map_map, List.map_map, List.mapM_map]
  apply Bridge.Ends.bind (Bridge.Ends.mapM (g := fun e => some e.2)
    (I := fun m' => (m.rooted []).Follows (fun _ => True) m') hfollows ?_)
  · rintro _ m₂ ⟨rfl, hm₂⟩
    refine .pure ⟨?_, hsame m₂ hm₂⟩
    simp
  · intro e he m₂ hm₂
    apply Bridge.Ends.bind (hconvert e he m₂ (hsame' m₂ hm₂))
    rintro _ m₃ ⟨rfl, hm₃⟩
    exact .pure ⟨rfl, hm₂.trans hm₃⟩

end Machine.Unaltered

/-- A value is converted to a host value wherever its objects are, when the stack has room for so many levels. -/
def Converts (objects : Array Object) (n k : Nat) (v : Value) (t : Native) : Prop :=
  ∀ (m : Machine) (l : Nat), m.Unaltered → Keeps (fun _ => True) objects m.objects → k ≤ l →
    m.depth + k ≤ m.depthLimit → (Bridge.toNativeWithin l v).Ends (Engine.ofLevel (n + 4)) m fun t' m' =>
      t' = t ∧ m.Follows (fun _ => True) m'

namespace Converts

variable {objects : Array Object} {n k l : Nat} {v : Value} {t : Native} {o : ObjectId} {x : Object} {kind : Kind}

theorem deeper (hv : Converts objects n k v t) {m m' : Machine} (h : m.Unaltered)
    (hobjects : Keeps (fun _ => True) objects m.objects) (hl : k ≤ l) (hroom : m.depth + (k + 1) ≤ m.depthLimit)
    (hfollows : m.Follows (fun _ => True) m') :
    (Bridge.deeper (Bridge.toNativeWithin l v)).Ends (Engine.ofLevel (n + 4)) m' fun t' m'' =>
      t' = t ∧ m'.Follows (fun _ => True) m'' := by
  have h' := hfollows.unaltered h
  have hbelow : (Bridge.toNativeWithin l v).Ends (Engine.ofLevel (n + 4)) { m' with depth := m'.depth + 1 }
      fun t' m'' => t' = t ∧ Machine.Follows (fun _ => True) { m' with depth := m'.depth + 1 } m'' := by
    refine hv _ l ⟨h'.standing, h'.functions⟩ (hobjects.trans hfollows.keeps) hl ?_
    simp only [hfollows.depth, hfollows.depthLimit]
    omega
  apply Bridge.Ends.deeper
  apply hbelow.imp
  rintro t' m'' ⟨rfl, hstep⟩
  exact ⟨rfl, hstep.keeps, hstep.size_le, rfl, hstep.depthLimit⟩

theorem of_primitive (hv : ∀ convert (e : Engine) (m : Machine), (Bridge.nativeOf convert v).Ends e m
    fun t' m' => t' = t ∧ m' = m) : Converts objects n (k + 1) v t := by
  intro m l _ _ hl _
  obtain ⟨l, rfl⟩ := Nat.exists_eq_add_of_le' (Nat.le_trans (Nat.le_add_left 1 _) hl)
  rw [Bridge.toNativeWithin]
  apply (hv _ _ m).imp
  rintro t' _ ⟨rfl, rfl⟩
  exact ⟨rfl, .refl⟩

theorem of_object {parts : (Value → Bridge Native) → Kind → Bridge Native}
    (hparts : ∀ convert, Bridge.nativeOfObject convert o = Bridge.kindOf o >>= parts convert)
    (hx : objects[o]? = some x) (hkind : x.IsOf kind)
    (hends : ∀ {m l}, m.Unaltered → m.objects[o]? = some x → Keeps (fun _ => True) objects m.objects → k ≤ l →
      m.depth + (k + 1) ≤ m.depthLimit →
      (parts (fun v => Bridge.deeper (Bridge.toNativeWithin l v)) kind).Ends (Engine.ofLevel (n + 4)) m fun t' m' =>
        t' = t ∧ m.Follows (fun _ => True) m') : Converts objects n (k + 1) (.object o) t := by
  intro m l h hobjects hl hroom
  obtain ⟨l, rfl⟩ := Nat.exists_eq_add_of_le' (Nat.le_trans (Nat.le_add_left 1 _) hl)
  have hx := hobjects _ _ trivial hx
  rw [Bridge.toNativeWithin, Bridge.nativeOf, hparts]
  apply Bridge.Ends.andThen (h.kindOf_ends (by omega) hx hkind)
  exact hends h hx hobjects (Nat.le_of_succ_le_succ hl) hroom

end Converts

theorem Shows.converts {objects : Array Object} {lo n k : Nat} {v : Value} {t : Native} (hv : Shows objects lo k v t) :
    Converts objects n k v t := by
  induction hv with
  | null | bool => exact Converts.of_primitive fun _ _ _ => .pure ⟨rfl, rfl⟩
  | bigint =>
    refine Converts.of_primitive fun _ _ _ => ?_
    rw [Bridge.nativeOf_bigint]
    exact .pure ⟨rfl, rfl⟩
  | number ht => exact Converts.of_primitive fun _ _ _ => .pure ⟨ht, rfl⟩
  | text =>
    refine Converts.of_primitive fun _ _ _ => ?_
    rw [Bridge.nativeOf, Bridge.hostText, Text.toString?_ofString]
    exact .pure ⟨rfl, rfl⟩
  | array _ hx hlength _ ih =>
    refine Converts.of_object (fun _ => rfl) hx (Object.isOf_ofItems _) fun h hx hobjects hl hroom => ?_
    apply Bridge.Ends.bind (Machine.Unaltered.arrayItems_ends hx hlength fun e he m' hfollows =>
      (ih e he).deeper h hobjects hl hroom hfollows)
    rintro _ m' ⟨rfl, hfollows⟩
    exact .pure ⟨rfl, hfollows⟩
  | bytes _ hx hlength =>
    refine Converts.of_object (fun _ => rfl) hx (Object.isOf_ofBytes _) fun h hx _ _ hroom => ?_
    apply Bridge.Ends.bind (h.bufferBytes_ends (by omega) hx hlength)
    rintro _ m' ⟨rfl, rfl⟩
    exact .pure ⟨rfl, .refl⟩
  | typed _ _ hx hy hlength =>
    refine Converts.of_object (fun _ => rfl) hx (Object.isOf_ofRow _ _ _) fun h hx hobjects _ hroom => ?_
    apply Bridge.Ends.bind (h.typedItems_ends (by omega) hx (hobjects _ _ trivial hy) hlength)
    rintro _ m' ⟨rfl, rfl⟩
    exact .pure ⟨rfl, .refl⟩
  | map _ hx hlength hkeys _ ih =>
    refine Converts.of_object (fun _ => rfl) hx (Object.isOf_ofEntries _) fun h hx hobjects hl hroom => ?_
    apply Bridge.Ends.bind (h.mapEntries_ends (by omega) hx hlength hkeys fun e he m' hfollows =>
      (ih e he).deeper h hobjects hl hroom hfollows)
    rintro _ m' ⟨rfl, hfollows⟩
    exact .pure ⟨rfl, hfollows⟩
  | set _ hx hlength _ ih =>
    refine Converts.of_object (fun _ => rfl) hx (Object.isOf_ofElements _) fun h hx hobjects hl hroom => ?_
    apply Bridge.Ends.bind (h.setItems_ends (by omega) hx hlength fun e he m' hfollows =>
      (ih e he).deeper h hobjects hl hroom hfollows)
    rintro _ m' ⟨rfl, hfollows⟩
    exact .pure ⟨rfl, hfollows⟩
  | date _ hx hleast hgreatest =>
    refine Converts.of_object (fun _ => rfl) hx (Object.isOf_ofTime _) fun h hx _ _ hroom => ?_
    apply Bridge.Ends.bind (h.dateOf_ends (by omega) hx hleast hgreatest)
    rintro _ m' ⟨rfl, rfl⟩
    exact .pure ⟨rfl, .refl⟩
  | function _ hx hkind =>
    exact Converts.of_object (fun _ => rfl) hx hkind fun _ _ _ _ _ => .pure ⟨rfl, .refl⟩

end Guest

end Embedding
