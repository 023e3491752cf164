import Embedding.Proofs.Evaluating
import Embedding.Proofs.RoundTrip
import Embedding.Proofs.Scans

namespace Embedding

open Guest

namespace Guest.Machine

/-- The host tells kinds by the original constructors, and makes objects of the original builtins. -/
structure Converts (m : Machine) : Prop where
  /-- Any object whatever is told by the tests for the constructors that the realm started with, in their order. -/
  scanned : ∀ {e : Engine} {o : ObjectId} {k : Kind} {way log : List Exchange} {m₁ m₂ : Machine} {r : Except Failure Kind},
    Bridge.Scanned e o m.borrowed way k m₁ →
    ((Bridge.kindOf o).Reaches e m (.asked .isReleased false :: (way ++ log)) r m₂ ↔
      log = [] ∧ r = .ok k ∧ m₂ = m.returned m₁)
  /-- Where the tests run no function of a proxy, the kind is the one that prototypes tell, or an array. -/
  kind : ∀ {n : Nat} {o : ObjectId} {k : Kind}, Classed m.objects (n + 2) o k →
    (Bridge.kindOf o).Ends (Engine.ofLevel (n + 3)) m fun k' m' => k' = k ∧ m' = m
  host : ∀ {σ : Type} (handler : Handler σ) (w : World) (s : σ) (v : ValueRef) {o : ObjectId} {k : Kind},
    w.contextObstacle? v.context = none → (w.context v.context).pins.find? v.pin = some (.object o) →
    w.machineFor v.context = m → Classed m.objects 999999 o k → v.kind.result handler w s = .ok k
  /-- A host value gets its form, once all that it needs has been granted. -/
  makes : ∀ {n l : Nat} {t : Native}, t.FitsWithin l → Makes m n t
  comesBack : ∀ {n n' l : Nat} {t : Native} {log : List Exchange} {v : Value} {m' : Machine}, t.FitsWithin l →
    l ≤ Bridge.nestingLimit → m.HasRoom t.footprint → m.depth + l ≤ m.depthLimit →
    ((Bridge.ofNative t).run (Engine.ofLevel (n + 4)) m).Gives log (.ok v) m' →
    (Bridge.toNative v).Ends (Engine.ofLevel (n' + 4)) m' fun t' _ => t' = t.norm

/-- The host makes the same of the objects and values in two machines. -/
structure Unmoved (m m' : Machine) : Prop where
  before : m.Converts
  after : m'.Converts
  /-- An object keeps its kind where the objects tell what they did of their prototypes, whatever names stand for. -/
  classed : Retaining m.objects m'.objects →
    ∀ {n : Nat} {o : ObjectId} {k : Kind}, Classed m.objects n o k → Classed m'.objects n o k

theorem Unaltered.converts {m : Machine} (h : m.Unaltered) (hdepth : m.depth < m.depthLimit) : m.Converts where
  scanned hway := Bridge.reaches_kindOf_of_scanned hway
  kind := h.kindOf_ends_of_classed hdepth
  host handler w s v o k hfree hpin hmachine hk := by
    subst hmachine
    have hheld : ((w.machineFor v.context).heldOn (.object o)).Unaltered := ⟨h.standing, h.functions⟩
    have hends := hheld.kindOf_ends_of_classed (n := 999997) hdepth hk
    obtain ⟨_, _, hresult, ⟨rfl, -⟩, -⟩ := ValueRef.insideObject_of_ends hfree hpin handler s hends
    exact hresult
  makes := makes_of_fitsWithin h hdepth
  comesBack {n n' l t log v m'} hfits hl hroom hstack hgives := by
    obtain ⟨_, new, -, hmade⟩ := (makes_of_fitsWithin h hdepth hfits m [] ⟨.refl, fun _ hl => by cases hl⟩ hroom).gives hgives
    have hsame := hmade.underway.same
    refine roundTrip_norm h hdepth hroom hfits hl hgives (hmade.underway.unaltered h) .refl ?_
    rw [hsame]
    exact hstack

/-- Whatever guest code has done, to the global names or to anything else, as long as it has left the builtin objects
alone, the host makes the same of objects and values as if it had done nothing. -/
theorem Unaltered.unmoved {m m' : Machine} (h : m.Unaltered) (hdepth : m.depth < m.depthLimit) (h' : m'.Unaltered)
    (hdepth' : m'.depth < m'.depthLimit) : m.Unmoved m' :=
  ⟨h.converts hdepth, h'.converts hdepth', fun hretaining _ _ _ => Classed.retaining hretaining⟩

theorem Regular.unlimited {m : Machine} (h : m.Regular) : m.unlimited.Regular := ⟨h.toUnaltered.unlimited, h.global⟩

theorem keeps_unlimited (m : Machine) : Keeps (fun _ => True) m.objects m.unlimited.objects := fun _ _ _ hx => hx

theorem exists_regular_made (xs : Nat → List Object) : ∃ (m : Machine) (size : Nat), m.Regular ∧
    m.depth + 2 < m.depthLimit ∧ 0 < size ∧ m.lexicals = [] ∧ Keeps (fun _ => True) Realm.initial.objects m.objects ∧
    ∀ i x, (xs size)[i]? = some x → m.objects[size + i]? = some x := by
  have hstart := regular_initial.unlimited
  have hstack := Realm.depth_unlimited (show 3 ≤ callDepthLimit by decide)
  have hobjects := keeps_unlimited Realm.initial
  have hlexicals₀ : Realm.initial.unlimited.lexicals = [] := rfl
  obtain ⟨x, hx, -⟩ := hstart.global
  generalize Realm.initial.unlimited = m₀ at hstart hstack hobjects hx hlexicals₀
  obtain ⟨m, hm, hdepth, hlimit, hlexicals, hkeeps, hmade⟩ := hstart.exists_made (xs m₀.objects.size)
  have hsize : Intrinsic.globalObject < m₀.objects.size := (Array.getElem?_eq_some_iff.mp hx).1
  exact ⟨m, m₀.objects.size, hm, by omega, hsize, hlexicals.trans hlexicals₀, hobjects.trans hkeeps, hmade⟩

/-- A script that gives a name to the prototype of dates. -/
def shadowing : String := "Map = Date.prototype"

theorem parse_shadowing : SourceKind.ofSource shadowing = .ok .script ∧
    Program.parse .script shadowing = .ok (.assigning "Map" (.property (.name "Date" 1) (Text.ofString "prototype") 1)
      ["Date", "Map"]) := by
  refine ⟨?_, Program.parse_of_written (by decide +kernel)⟩
  rw [SourceKind.ofSource_of_noNul (by decide +kernel)]
  exact congrArg Except.ok (by decide +kernel)

structure Shadowed (m m' : Machine) : Prop where
  leads : Bridge.Leads shadowing m m'
  regular : m'.Regular
  retaining : Retaining m.objects m'.objects
  lt_depthLimit : m'.depth + 1 < m'.depthLimit
  keeps : Keeps (· ≠ Intrinsic.globalObject) m.objects m'.objects
  global : ∃ x, m'.objects[Intrinsic.globalObject]? = some x ∧ x.property? "Map" = some (.method (.object Intrinsic.datePrototype))

theorem Regular.exists_shadowed {m : Machine} (h : m.Regular) (hdepth : m.depth + 1 < m.depthLimit)
    (hlexicals : m.lexicals = [])
    (hglobal : m.objects[Intrinsic.globalObject]? = some (Realm.builtin Intrinsic.globalObject)) :
    ∃ m', m.Shadowed m' := by
  have hmap : m.Offers "Map" _ (.object Intrinsic.mapConstructor) :=
    h.offers (k := .map) hlexicals hglobal (by decide) rfl
  have hdate : m.Offers "Date" _ (.object Intrinsic.dateConstructor) :=
    h.offers (k := .date) hlexicals hglobal (by decide) rfl
  have hreads := (constructorSite_of_kind (k := .date) rfl nofun).reads_prototype
  have hconstructor : m.objects[Intrinsic.dateConstructor]? = some (Realm.builtin Intrinsic.dateConstructor) :=
    h.object (by decide)
  have hcounted : m.counted.Offers "Map" _ (.object Intrinsic.mapConstructor) := hmap.of_same rfl rfl
  have hrun := hcounted.run_runGlobal (n := 999997) _ ["Date", "Map"] (m.programs + 1) (Nat.lt_of_succ_lt hdepth) fun env m' hobjects hlexicals' hscope =>
      (hdate.of_same hobjects hlexicals').exists_eval_property 1 1 rfl (hobjects ▸ hconstructor) hreads hscope
  have hcount : m.Rebinding m.objects.size m.counted := .other rfl
  have hrebound := h.rebound (.head hcount
    (hcounted.rebinding_assigned m.objects.size (.object Intrinsic.datePrototype)))
  refine ⟨_, ⟨_, _, Bridge.run_evaluate_of_done parse_shadowing.1 parse_shadowing.2 rfl hrun⟩, hrebound.regular, hrebound.retaining, hdepth,
    fun o y ho hy => ?_, _, Array.getElem?_setIfInBounds_self_of_lt (Array.getElem?_eq_some_iff.mp hglobal).1, ?_⟩
  · exact (Array.getElem?_setIfInBounds_ne (Ne.symm ho)).trans hy
  · rw [Object.property?_putProperty, if_pos rfl]
    rfl

/-- A new context in which a map has been made, and then its name given to another object. -/
theorem unmoved_map : ∃ (m m' : Machine) (o : ObjectId), m.Unaltered ∧ m.depth < m.depthLimit ∧ m'.Unaltered ∧
    m'.depth < m'.depthLimit ∧ Bridge.Leads shadowing m m' ∧ Retaining m.objects m'.objects ∧ Classed m.objects 2 o .map ∧
    (∃ x, m'.objects[Intrinsic.globalObject]? = some x ∧
      x.property? "Map" = some (.method (.object Intrinsic.datePrototype))) ∧
    m.Unmoved m' := by
  obtain ⟨m, o, hm, hdepth, -, hlexicals, hkeeps, hmade⟩ := exists_regular_made fun _ => [.ofEntries []]
  have ho := hmade 0 _ rfl
  obtain ⟨m', hm'⟩ := hm.exists_shadowed (by omega) hlexicals
    (hkeeps _ _ trivial (Realm.getElem?_initial (o := Intrinsic.globalObject) rfl))
  have hchain := hm.chain_of_isOf ho (Object.isOf_ofEntries [])
  have hclassed := Classed.other (n := 2) (.plain ho rfl) (.of_chain hchain)
  rw [Intrinsic.kindAmong_chainOf (by decide)] at hclassed
  have hdepth' := hm'.lt_depthLimit
  exact ⟨m, m', o, hm.toUnaltered, by omega, hm'.regular.toUnaltered, by omega, hm'.leads, hm'.retaining, hclassed,
    hm'.global, hm.toUnaltered.unmoved (by omega) hm'.regular.toUnaltered (by omega)⟩

/-- A proxy whose prototype is what the global object has under a name: its handler has for that the builtin `Reflect.get`
with both as arguments. -/
structure Asks (m : Machine) (name : String) (o t h b g : ObjectId) : Prop where
  proxy : ∃ x callable constructs, m.objects[o]? = some x ∧
    x.payload = .proxy (.object t) (.object h) callable constructs false
  target : ∃ x, m.objects[t]? = some x ∧ x.isProxy = false ∧ x.isArray = false ∧ x.extensible = true
  handler : ∃ x, m.objects[h]? = some x ∧ x.Reads "getPrototypeOf" (some (.plain (.object b)))
  bound : ∃ x this constructs, m.objects[b]? = some x ∧
    x.payload = .bound (.object g) this [.object Intrinsic.globalObject, .text (Text.ofString name)] constructs
  builtin : ∃ x, m.objects[g]? = some x ∧ x.payload = .builtin (.reflect .get)

namespace Asks

variable {m m' : Machine} {name : String} {o t h b g p : ObjectId} {x : Object} {n : Nat} {ps : List ObjectId}
  (hasks : m.Asks name o t h b g)
include hasks

theorem keep (hkeeps : Keeps (· ≠ Intrinsic.globalObject) m.objects m'.objects)
    (hne : ∀ i ∈ [o, t, h, b, g], i ≠ Intrinsic.globalObject) : m'.Asks name o t h b g where
  proxy := by
    obtain ⟨x, callable, constructs, hx, hpayload⟩ := hasks.proxy
    exact ⟨x, callable, constructs, hkeeps o x (hne o (by simp)) hx, hpayload⟩
  target := hasks.target.imp fun x hx => ⟨hkeeps t x (hne t (by simp)) hx.1, hx.2⟩
  handler := hasks.handler.imp fun x hx => ⟨hkeeps h x (hne h (by simp)) hx.1, hx.2⟩
  bound := by
    obtain ⟨x, this, constructs, hx, hpayload⟩ := hasks.bound
    exact ⟨x, this, constructs, hkeeps b x (hne b (by simp)) hx, hpayload⟩
  builtin := hasks.builtin.imp fun x hx => ⟨hkeeps g x (hne g (by simp)) hx.1, hx.2⟩

theorem tellsArray : TellsArray m.objects (n + 2) o false := by
  obtain ⟨x, _, _, hx, hpayload⟩ := hasks.proxy
  obtain ⟨y, hy, hproxy, harray, -⟩ := hasks.target
  have htarget := TellsArray.plain (n := n) hy hproxy
  rw [harray] at htarget
  exact .proxy hx hpayload htarget

variable (hx : m.objects[Intrinsic.globalObject]? = some x)
  (hp : x.Reads (Key.ofString name) (some (.method (.object p))))
include hx hp

theorem call_eq (hdepth : m.depth < m.depthLimit) (this : Value) (args : List Value) :
    (Engine.ofLevel (n + 3)).call (.object b) this args m = .done (.object p) m := by
  obtain ⟨y, this', _, hy, hbound⟩ := hasks.bound
  obtain ⟨z, hz, hget⟩ := hasks.builtin
  have hrun (receiver : Value) (args : List Value) : Act.runBuiltin (.reflect .get) this'
      (.object Intrinsic.globalObject :: .text (Text.ofString name) :: args) .undefined (Engine.ofLevel (n + 1))
      (m.framed g this' (.object Intrinsic.globalObject :: .text (Text.ofString name) :: args)) =
      .done (.object p) (m.framed g this' (.object Intrinsic.globalObject :: .text (Text.ofString name) :: args)) :=
    Act.get_own (m := m.framed g this' _) hx hp
  have hcall := Act.call_builtin_of_done hz hget hdepth rfl (hrun .undefined args)
  show Act.callValue (.object b) this args (Engine.ofLevel (n + 2)) m = _
  simp only [Act.callValue]
  rw [Act.run_bind_of_done (Act.run_object hy)]
  simp only [hbound]
  exact hcall

theorem prototype_eq (hdepth : m.depth < m.depthLimit) :
    (Engine.ofLevel (n + 4)).prototype o m = .done (some p) m := by
  obtain ⟨y, _, _, hy, hpayload⟩ := hasks.proxy
  obtain ⟨z, hz, hproxy, -, hextensible⟩ := hasks.target
  obtain ⟨w, hw, htrap⟩ := hasks.handler
  have hget : Act.proxyTrap (.object t) (.object h) false "getPrototypeOf" (Engine.ofLevel (n + 3)) m =
      .done ⟨t, .object h, some (.object b)⟩ m := by
    show (Act.get (.object h) "getPrototypeOf" >>= _) _ m = _
    rw [Act.run_bind_of_done (show Act.get (.object h) "getPrototypeOf" _ m = .done (.object b) m from
      Act.get_own hw htrap)]
    rfl
  have hcall : Act.call (.object b) (.object h) [.object t] (Engine.ofLevel (n + 3)) m = .done (.object p) m :=
    hasks.call_eq hx hp hdepth _ _
  have hisExtensible : Act.isExtensible t (Engine.ofLevel (n + 3)) m = .done true m := by
    show Act.isExtensibleRule t (Engine.ofLevel (n + 2)) m = _
    rw [Act.isExtensibleRule, Act.run_unlessProxy hz hproxy, hextensible]
    rfl
  show Act.prototypeRule o (Engine.ofLevel (n + 3)) m = _
  rw [Act.prototypeRule, Act.run_ofProxy hy hpayload]
  unfold Act.proxyPrototype
  rw [Act.run_bind_of_done hget]
  simp only
  rw [Act.run_bind_of_done hcall]
  show (Act.isExtensible t >>= _) _ m = _
  rw [Act.run_bind_of_done hisExtensible]
  rfl

theorem kindOf_ends (hm : m.Regular) (hdepth : m.depth + 1 < m.depthLimit) (hps : Chain m.objects p ps) :
    (Bridge.kindOf o).Ends (Engine.ofLevel (n + 5)) m fun k m' => k = Intrinsic.kindAmong (p :: ps) ∧ m' = m := by
  have harray := (hasks.tellsArray (n := 0)).isArray_eq (m := m.borrowed) (l := n + 5) (by omega)
  have hlength := (Lineage.of_chain (n := 0) hps).length_le
  refine hm.kindOf_ends_of_climbs harray (fun g' this args => ?_) ?_ (by omega)
  · have hframed : (m.borrowed.framed g' this args).Asks name o t h b g :=
      ⟨hasks.proxy, hasks.target, hasks.handler, hasks.bound, hasks.builtin⟩
    exact .up (hframed.prototype_eq hx hp hdepth) (Act.climbs_of_chain hps)
  · rw [List.length_cons]
    omega

end Asks

theorem exists_asks : ∃ (m : Machine) (o t h b g : ObjectId), m.Regular ∧ m.depth + 2 < m.depthLimit ∧ m.lexicals = [] ∧
    m.Asks "Map" o t h b g ∧ (∀ i ∈ [o, t, h, b, g], i ≠ Intrinsic.globalObject) ∧
    m.objects[Intrinsic.globalObject]? = some (Realm.builtin Intrinsic.globalObject) := by
  obtain ⟨g, hreserved, -, hg⟩ := Realm.stands_builtin (m := .method "get" (.reflect .get) 2)
    (show Realm.member? Intrinsic.reflect "get" = some _ from rfl)
  obtain ⟨m, s, hm, hdepth, hpos, hlexicals, hkeeps, hmade⟩ := exists_regular_made fun s => [
    { proto := some Intrinsic.objectPrototype },
    { proto := some Intrinsic.functionPrototype
      payload := .bound (.object g) .null [.object Intrinsic.globalObject, .text (Text.ofString "Map")] false },
    { proto := some Intrinsic.objectPrototype
      properties := #[("getPrototypeOf", .plain (.object (s + 1)))] },
    { proto := none
      payload := .proxy (.object s) (.object (s + 2)) false false false }]
  refine ⟨m, s + 3, s, s + 2, s + 1, g, hm, hdepth, hlexicals, ⟨⟨_, _, _, hmade 3 _ rfl, rfl⟩,
    ⟨_, hmade 0 _ rfl, rfl, rfl, rfl⟩, ⟨_, hmade 2 _ rfl, ?_⟩, ⟨_, _, _, hmade 1 _ rfl, rfl⟩,
    ⟨_, hkeeps _ _ trivial hg, rfl⟩⟩, ?_, hkeeps _ _ trivial (Realm.getElem?_initial (o := Intrinsic.globalObject) rfl)⟩
  · exact Object.reads_of_isTable rfl rfl (by rintro _ ⟨⟩; nofun)
  · have hg' : 0 < g := Nat.lt_of_lt_of_le (by decide) hreserved
    intro i hi
    simp only [List.mem_cons, List.not_mem_nil, or_false] at hi
    unfold Intrinsic.globalObject
    rcases hi with rfl | rfl | rfl | rfl | rfl <;> exact Nat.ne_of_gt (by omega)

/-- An object that asks for the value of a global name is of another kind when the name has been given another value. -/
theorem kind_of_asking : ∃ (m m' : Machine) (o : ObjectId), m.Unaltered ∧ m.depth < m.depthLimit ∧ m'.Unaltered ∧
    Bridge.Leads shadowing m m' ∧ Retaining m.objects m'.objects ∧
    (Bridge.kindOf o).Ends Engine.standard m (fun k m₁ => k = .unknown ∧ m₁ = m) ∧
    (Bridge.kindOf o).Ends Engine.standard m' (fun k m₁ => k = .date ∧ m₁ = m') := by
  obtain ⟨m, o, t, h, b, g, hm, hdepth, hlexicals, hasks, hne, hx⟩ := exists_asks
  obtain ⟨m', hm'⟩ := hm.exists_shadowed (by omega) hlexicals hx
  obtain ⟨y, hy, hname'⟩ := hm'.global
  obtain ⟨c, ⟨⟩, hname⟩ := property?_globalObject (k := .map) (by decide)
  have hreads {z : Object} {v : Value} (hz : z.payload = .ordinary) (hv : z.property? "Map" = some (.method v)) :
      z.Reads (Key.ofString "Map") (some (.method v)) :=
    Object.reads_of_isTable (by rw [hz]; rfl) hv (by rintro _ ⟨⟩; nofun)
  have hglobal {n : Machine} {z : Object} (hn : n.Regular) (hz : n.objects[Intrinsic.globalObject]? = some z) :
      z.payload = .ordinary := by
    obtain ⟨w, hw, hw'⟩ := hn.global
    cases hz.symm.trans hw
    exact hw'.payload
  have hbefore : Chain m.objects Intrinsic.mapConstructor [Intrinsic.functionPrototype, Intrinsic.objectPrototype] := by
    refine hm.chain_builtin (by decide) (by decide +kernel) ?_
    rintro _ ⟨⟩
    exact hm.chain_prototypeOf (by decide) (by decide +kernel)
  have hafter : Chain m'.objects Intrinsic.datePrototype [Intrinsic.objectPrototype] :=
    hm'.regular.chain_prototypeOf (by decide) (by decide +kernel)
  refine ⟨m, m', o, hm.toUnaltered, by omega, hm'.regular.toUnaltered, hm'.leads, hm'.retaining, ?_, ?_⟩
  · exact hasks.kindOf_ends (n := 999995) hx (hreads (hglobal hm hx) hname) hm (by omega) hbefore
  · exact (hasks.keep hm'.keeps hne).kindOf_ends (n := 999995) hy (hreads (hglobal hm'.regular hy) hname') hm'.regular
      hm'.lt_depthLimit hafter

end Guest.Machine

end Embedding
