import Embedding.Proofs.Lookup
import Embedding.Proofs.Realm

namespace Embedding.Guest

/-- The prototypes and constructors that make guest values of host values and take them apart. -/
def Intrinsic.crossing : List ObjectId :=
  [objectPrototype, functionPrototype, arrayPrototype, bufferPrototype, typedArrayPrototype, mapPrototype,
    setPrototype, datePrototype, bufferConstructor, typedArrayConstructor, mapConstructor, setConstructor,
    dateConstructor, bigintConstructor] ++
  ElementType.all.flatMap fun t => [elementPrototype (.plain t), elementConstructor (.plain t)]

theorem isSome_siteAt?_of_crossing : ∀ o ∈ Intrinsic.crossing, (Realm.siteAt? o).isSome = true := by decide +kernel

theorem Realm.isTable_builtin {o : ObjectId} (h : (siteAt? o).map (·.payload.isTable) = some true) :
    (builtin o).payload.isTable = true := by
  obtain ⟨s, hs, htable⟩ := Option.map_eq_some_iff.mp h
  have hpayload : (builtin o).payload = s.payload := payload_builtin (by rw [hs]; rfl)
  rwa [hpayload]

theorem Realm.reads_noElement {k : Key} (hk : k.index?.isSome = true) :
    (builtin Intrinsic.arrayPrototype).Reads k none ∧ (builtin Intrinsic.objectPrototype).Reads k none := by
  obtain ⟨i, hindex⟩ := Option.isSome_iff_exists.mp hk
  have harray : (builtin Intrinsic.arrayPrototype).payload = .array #[] 0 false := payload_builtin rfl
  have hnone : (builtin Intrinsic.arrayPrototype).property? k = none :=
    property?_builtin_of_index (by decide +kernel) hk
  have habove : (builtin Intrinsic.objectPrototype).property? k = none :=
    property?_builtin_of_index (by decide +kernel) hk
  exact ⟨Object.reads_listed harray hindex rfl hnone Object.not_lazy_of_none,
    Object.reads_of_isTable (isTable_builtin (by decide +kernel)) habove Object.not_lazy_of_none⟩

theorem Realm.proto_arrayPrototype : (builtin Intrinsic.arrayPrototype).proto = some Intrinsic.objectPrototype :=
  proto_builtin (by decide +kernel)

theorem Realm.proto_objectPrototype : (builtin Intrinsic.objectPrototype).proto = none :=
  proto_builtin (by decide +kernel)

namespace Machine

/-- The builtin objects are what they were at first. Names of the global object may have changed, and so may the
properties of functions. -/
structure Unaltered (m : Machine) : Prop where
  standing : ∀ o ∈ Intrinsic.crossing, m.objects[o]? = Realm.initial.objects[o]?
  functions : ∀ (g : ObjectId) (x : Object) (f : Builtin), Realm.initial.objects[g]? = some x → x.payload = .builtin f →
    ∃ y, m.objects[g]? = some y ∧ y.payload = .builtin f

theorem unaltered_initial : Realm.initial.Unaltered := ⟨fun _ _ => rfl, fun _ x _ hx hf => ⟨x, hx, hf⟩⟩

namespace Unaltered

variable {m : Machine} (h : m.Unaltered)
include h

theorem object {o : ObjectId} (ho : o ∈ Intrinsic.crossing) : m.objects[o]? = some (Realm.builtin o) :=
  (h.standing o ho).trans (Realm.getElem?_initial (isSome_siteAt?_of_crossing o ho))

theorem method {o : ObjectId} {k k' : Key} {f : Builtin} {n : Nat}
    (hk : Realm.member? o k = some (.method k' f n)) :
    ∃ g y, (Realm.builtin o).property? k = some (.method (.object g)) ∧ m.objects[g]? = some y ∧
      y.payload = .builtin f := by
  obtain ⟨g, -, hp, hg⟩ := Realm.stands_builtin hk
  obtain ⟨y, hy, hf⟩ := h.functions g _ f hg rfl
  exact ⟨g, y, hp, hy, hf⟩

theorem getter {o : ObjectId} {k k' : Key} {f : Builtin} {set : Option Builtin}
    (hk : Realm.member? o k = some (.accessor k' f set)) :
    ∃ g set' y, (Realm.builtin o).property? k = some ⟨.accessor (.object g) set', false, true⟩ ∧
      m.objects[g]? = some y ∧ y.payload = .builtin f := by
  obtain ⟨g, set', -, hp, hg⟩ := Realm.stands_builtin hk
  obtain ⟨y, hy, hf⟩ := h.functions g _ f hg rfl
  exact ⟨g, set', y, hp, hy, hf⟩

theorem keep {m' : Machine} (hkeeps : Keeps (fun _ => True) m.objects m'.objects) : m'.Unaltered := by
  constructor
  · intro o ho
    rw [Realm.getElem?_initial (isSome_siteAt?_of_crossing o ho)]
    exact hkeeps o _ trivial (h.object ho)
  · intro g x f hx hf
    obtain ⟨y, hy, hpayload⟩ := h.functions g x f hx hf
    exact ⟨y, hkeeps g y trivial hy, hpayload⟩

section Get

variable {n : Nat} {o : ObjectId} {k : Key} (receiver : Value) (ho : o ∈ Intrinsic.crossing)
  (htable : (Realm.siteAt? o).map (·.payload.isTable) = some true)
include ho htable

theorem get_method {k' : Key} {f : Builtin} {arity : Nat} (hk : Realm.member? o k = some (.method k' f arity)) :
    ∃ g y, (Engine.ofLevel (n + 1)).get o k receiver m = .done (.object g) m ∧ m.objects[g]? = some y ∧
      y.payload = .builtin f := by
  obtain ⟨g, y, hproperty, hy, hf⟩ := h.method hk
  have hreads := Object.reads_of_isTable (Realm.isTable_builtin htable) hproperty (by rintro _ ⟨⟩; nofun)
  exact ⟨g, y, Act.get_own (h.object ho) hreads, hy, hf⟩

theorem get_absent {p : ObjectId} (hk : Realm.member? o k = none)
    (hproto : (Realm.siteAt? o).map (·.proto) = some (some p)) :
    (Engine.ofLevel (n + 1)).get o k receiver m = (Engine.ofLevel n).get p k receiver m := by
  have hproperty := Realm.property?_builtin_of_absent (isSome_siteAt?_of_crossing o ho) hk
  exact Act.get_inherited (h.object ho)
    (Object.reads_of_isTable (Realm.isTable_builtin htable) hproperty Object.not_lazy_of_none)
    (Realm.proto_builtin hproto)

end Get

section HasBuiltin

variable {p : ObjectId} {k k' : Key} {f : Builtin} (hp : p ∈ Intrinsic.crossing)
  (htable : (Realm.siteAt? p).map (·.payload.isTable) = some true)
include hp htable

theorem hasBuiltin_method {arity : Nat} (hk : Realm.member? p k = some (.method k' f arity)) :
    m.HasBuiltin 0 p k Property.IsMethod f := by
  obtain ⟨g, y, hmethod, hy, hg⟩ := h.method hk
  exact ⟨0, _, g, y, Nat.le_refl 0, .own (h.object hp) (Object.reads_of_isTable (Realm.isTable_builtin htable) hmethod
    (by rintro _ ⟨⟩ ⟨⟩)), ⟨true, rfl⟩, hy, hg⟩

theorem hasBuiltin_getter {set : Option Builtin} (hk : Realm.member? p k = some (.accessor k' f set)) :
    m.HasBuiltin 0 p k Property.IsGetter f := by
  obtain ⟨g, set', y, hgetter, hy, hg⟩ := h.getter hk
  exact ⟨0, _, g, y, Nat.le_refl 0, .own (h.object hp) (Object.reads_of_isTable (Realm.isTable_builtin htable) hgetter
    (by rintro _ ⟨⟩ ⟨⟩)), ⟨set', rfl⟩, hy, hg⟩

end HasBuiltin

end Unaltered

end Machine

end Embedding.Guest
