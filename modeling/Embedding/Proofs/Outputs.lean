import Embedding.CommandLine.Run
import Embedding.Proofs.Renderings

namespace Embedding

namespace Native.Reordered

variable {v v' : Native}

theorem display_eq (h : v.Reordered v') : v'.display = v.display := by
  have hjson := h.toJson_eq
  cases h with
  | plain => rfl
  | array | set | map => rw [display, display, hjson] <;> (intro s hs; cases hs)

theorem isNull_eq (h : v.Reordered v') : v'.isNull = v.isNull := by
  cases h <;> rfl

theorem resultText_eq (h : v.Reordered v') : CommandLine.resultText v' = CommandLine.resultText v := by
  rw [CommandLine.resultText, CommandLine.resultText, h.isNull_eq, h.toJson_eq]

end Native.Reordered

/-- Going through maps in some order: a value is left as it is, or its maps are gone through in another order. -/
def Native.IsOrder (order : Native → Native) : Prop := ∀ v, order v = v ∨ v.Reordered (order v)

namespace Native.IsOrder

variable {order : Native → Native} (h : IsOrder order)
include h

theorem display_eq (v : Native) : (order v).display = v.display := by
  rcases h v with hsame | hreordered
  · rw [hsame]
  · exact hreordered.display_eq

theorem resultText_eq (v : Native) : CommandLine.resultText (order v) = CommandLine.resultText v := by
  rcases h v with hsame | hreordered
  · rw [hsame]
  · exact hreordered.resultText_eq

theorem printed_eq (args : List Native) : Console.printed args order = Console.printed args :=
  congrArg (" ".intercalate · ++ "\n") (List.map_congr_left fun v _ => h.display_eq v)

theorem handler_eq : Console.handler order = Console.handler := by
  simp only [Console.handler, h.printed_eq]

theorem perform_eq {α : Type} (world : World) (output : String) (x : Attempt String α) :
    Console.perform world output x order = Console.perform world output x := by
  rw [Console.perform, h.handler_eq, Console.perform]

theorem work_eq {α : Type} (x : ContextId → Attempt String α) : Console.work x order = Console.work x := by
  simp only [Console.work, h.perform_eq]

theorem open_eq (config : Config) : Console.open_ config order = Console.open_ config := by
  simp only [Console.open_, h.perform_eq]

variable {m : Type → Type} [Monad m] (files : FileAccess m)

theorem command_eq (c : CommandLine.Command) : c.perform files order = c.perform files := by
  cases c <;> simp only [CommandLine.Command.perform, Console.evaluateFile, Console.executeFile, Console.compileFile,
    Console.evaluate, Console.execute, Console.compile, h.work_eq]

theorem conclude_eq (c : CommandLine.Command) : c.conclude files order = c.conclude files := by
  simp only [CommandLine.Command.conclude, h.command_eq, h.resultText_eq, id_eq]

theorem execute_eq (a : CommandLine.Arguments) : CommandLine.execute files a order = CommandLine.execute files a := by
  simp only [CommandLine.execute, h.open_eq, h.conclude_eq]

theorem run_eq (args : List String) : CommandLine.run files args order = CommandLine.run files args := by
  simp only [CommandLine.run, h.execute_eq]

end Native.IsOrder

namespace Native

/-- The JSON of a host value is made of that of its parts, and neither it nor its text depends on the order in which
maps are gone through; nor does what `print` prints or what the program prints of a result. -/
theorem rendered_in_any_order {v v' : Native} (h : v.Reordered v') {order : Native → Native} (horder : IsOrder order) :
    v.Renders v.toJson ∧ v'.toJson = v.toJson ∧ v'.toJson.text = v.toJson.text ∧ v'.display = v.display ∧
      (∀ {α : Type} (world : World) (output : String) (x : Attempt String α),
        Console.perform world output x order = Console.perform world output x) ∧
      ∀ {m : Type → Type} [Monad m] (files : FileAccess m) (args : List String),
        CommandLine.run files args order = CommandLine.run files args :=
  ⟨h.renders, h.toJson_eq, congrArg _ h.toJson_eq, h.display_eq, horder.perform_eq, fun files args => horder.run_eq files args⟩

theorem Reordered.pair {k l : String} {x x' y y' : Native} (hkeys : k ≠ l) (hx : x.Reordered x') (hy : y.Reordered y') :
    (Native.map [(k, x), (l, y)]).Reordered (Native.map [(l, y'), (k, x')]) :=
  @Reordered.map [(k, x, x'), (l, y, y')] _ _ (by simp [hkeys]) (.refl _) (.swap _ _ _) (by simp [hx, hy])

def turned : Native → Native
  | map [(k, x), (l, y)] =>
    if k ≠ l ∧ x.isPlain = true ∧ y.isPlain = true then map [(l, y), (k, x)] else map [(k, x), (l, y)]
  | v => v

theorem isOrder_turned : IsOrder turned := by
  intro v
  unfold turned
  split
  · next k x l y =>
    split
    · next hentries => exact .inr (.pair hentries.1 (.plain hentries.2.1) (.plain hentries.2.2))
    · exact .inl rfl
  · exact .inl rfl

def mapInMap : Native :=
  .map [("z", .array [.map [("b", .float .nan), ("a", .typed .bigUint64 [18446744073709551615, 0])]]), ("é", .null)]

def mapInMapTurned : Native :=
  .map [("é", .null), ("z", .array [.map [("a", .typed .bigUint64 [18446744073709551615, 0]), ("b", .float .nan)]])]

theorem reordered_mapInMap : mapInMap.Reordered mapInMapTurned := by
  have hinner := Reordered.pair (k := "b") (l := "a") (by decide) (.plain (v := .float .nan) rfl)
    (.plain (v := .typed .bigUint64 [18446744073709551615, 0]) rfl)
  exact .pair (by decide) (@Reordered.array [(_, _)] (by simpa using hinner)) (.plain rfl)

theorem rendered_in_any_order_mapInMap :
    mapInMap.Reordered mapInMapTurned ∧ IsOrder turned ∧ mapInMap.Renders mapInMap.toJson ∧
      mapInMapTurned.toJson = mapInMap.toJson ∧ mapInMapTurned.toJson.text = mapInMap.toJson.text ∧
      mapInMapTurned.display = mapInMap.display :=
  have h := rendered_in_any_order reordered_mapInMap isOrder_turned
  ⟨reordered_mapInMap, isOrder_turned, h.1, h.2.1, h.2.2.1, h.2.2.2.1⟩

example : mapInMap.display = "\x7b\"z\":[\x7b\"a\":[18446744073709551615,0],\"b\":null\x7d],\"é\":null\x7d" := by cbv

end Native

end Embedding
