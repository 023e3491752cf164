import Embedding.Proofs.Kinds
import Embedding.Proofs.Norm

namespace Embedding.Guest

namespace Object

def ofItems (vs : List Value) : Object where
  proto := some Intrinsic.arrayPrototype
  payload := .array (vs.map some).toArray vs.length false

def ofBytes (bytes : List UInt8) : Object where
  proto := some Intrinsic.bufferPrototype
  payload := .buffer bytes.toArray false

/-- A row of elements that fills a buffer. -/
def ofRow (t : ElementType) (buffer : ObjectId) (length : Nat) : Object where
  proto := some (Intrinsic.elementPrototype (.plain t))
  payload := .typedArray (.plain t) buffer 0 length

def ofEntries (entries : List (Value × Value)) : Object where
  proto := some Intrinsic.mapPrototype
  payload := .map (entries.map some).toArray

def ofElements (vs : List Value) : Object where
  proto := some Intrinsic.setPrototype
  payload := .set (vs.map some).toArray

def ofTime (time : Double) : Object where
  proto := some Intrinsic.datePrototype
  payload := .date time

theorem isOf_ofItems (vs : List Value) : (ofItems vs).IsOf .array := ⟨rfl, rfl, rfl⟩

theorem isOf_ofBytes (bytes : List UInt8) : (ofBytes bytes).IsOf .buffer := ⟨rfl, rfl, rfl⟩

theorem isOf_ofRow (t : ElementType) (buffer : ObjectId) (length : Nat) : (ofRow t buffer length).IsOf (.typed t) :=
  ⟨rfl, rfl, rfl⟩

theorem isOf_ofEntries (entries : List (Value × Value)) : (ofEntries entries).IsOf .map := ⟨rfl, rfl, rfl⟩

theorem isOf_ofElements (vs : List Value) : (ofElements vs).IsOf .set := ⟨rfl, rfl, rfl⟩

theorem isOf_ofTime (time : Double) : (ofTime time).IsOf .date := ⟨rfl, rfl, rfl⟩

end Object

/-- A value stands for a host value that is nested no deeper than so many levels. Its objects lie at or behind a
place. -/
inductive Shows (objects : Array Object) (lo : Nat) : Nat → Value → Native → Prop
  | null {n : Nat} : Shows objects lo (n + 1) .null .null
  | bool {n : Nat} {b : Bool} : Shows objects lo (n + 1) (.bool b) (.bool b)
  | number {n : Nat} {d : Double} {t : Native} (ht : Bridge.nativeOfNumber d = t) :
      Shows objects lo (n + 1) (.number d) t
  | bigint {n : Nat} {k : Int} : Shows objects lo (n + 1) (.bigint k) (.bigint k)
  | text {n : Nat} {s : String} : Shows objects lo (n + 1) (.text (Text.ofString s)) (.string s)
  | array {n o : Nat} {es : List (Value × Native)} (ho : lo ≤ o)
      (hx : objects[o]? = some (.ofItems (es.map (·.1)))) (hlength : es.length < 2 ^ 32)
      (hitems : ∀ e ∈ es, Shows objects lo n e.1 e.2) :
      Shows objects lo (n + 1) (.object o) (.array (es.map (·.2)))
  | bytes {n o : Nat} {data : List UInt8} (ho : lo ≤ o) (hx : objects[o]? = some (.ofBytes data))
      (hlength : data.length < 2 ^ 53) : Shows objects lo (n + 1) (.object o) (.bytes data)
  | typed {n o buffer : Nat} {t : ElementType} {xs : List t.Carrier} (ho : lo ≤ o) (hbuffer : lo ≤ buffer)
      (hx : objects[o]? = some (.ofRow t buffer xs.length))
      (hy : objects[buffer]? = some (.ofBytes (t.encode xs))) (hlength : xs.length * t.width < 2 ^ 53) :
      Shows objects lo (n + 1) (.object o) (.typed t xs)
  | map {n o : Nat} {es : List (String × Value × Native)} (ho : lo ≤ o)
      (hx : objects[o]? = some (.ofEntries (es.map fun e => (.text (Text.ofString e.1), e.2.1))))
      (hlength : es.length < 2 ^ 53) (hkeys : (es.map (·.1)).Nodup)
      (hitems : ∀ e ∈ es, Shows objects lo n e.2.1 e.2.2) :
      Shows objects lo (n + 1) (.object o) (.map (es.map fun e => (e.1, e.2.2)))
  | set {n o : Nat} {es : List (Value × Native)} (ho : lo ≤ o)
      (hx : objects[o]? = some (.ofElements (es.map (·.1)))) (hlength : es.length < 2 ^ 53)
      (hitems : ∀ e ∈ es, Shows objects lo n e.1 e.2) :
      Shows objects lo (n + 1) (.object o) (.set (es.map (·.2)))
  | date {n o : Nat} {ms : Int} (ho : lo ≤ o) (hx : objects[o]? = some (.ofTime (Double.ofInt ms)))
      (hleast : Instant.leastMilliseconds ≤ ms) (hgreatest : ms ≤ Instant.greatestMilliseconds) :
      Shows objects lo (n + 1) (.object o) (.date (Instant.ofMilliseconds ms))
  | function {n o : Nat} {x : Object} (ho : lo ≤ o) (hx : objects[o]? = some x) (hkind : x.IsOf .unknown) :
      Shows objects lo (n + 1) (.object o) .unmapped

namespace Shows

variable {a b : Array Object} {lo lo' n : Nat} {v : Value} {t : Native}

end Shows

/-- A machine that has gone on from another: objects at some places are what they were, and the stack is as deep. -/
structure Machine.Follows (places : ObjectId → Prop) (m m' : Machine) : Prop where
  keeps : Keeps places m.objects m'.objects
  size_le : m.objects.size ≤ m'.objects.size
  depth : m'.depth = m.depth
  depthLimit : m'.depthLimit = m.depthLimit

namespace Machine.Follows

variable {p q : ObjectId → Prop} {m m₁ m₂ : Machine}

theorem refl : Follows p m m := ⟨.refl, Nat.le_refl _, rfl, rfl⟩

theorem trans (h : Follows p m m₁) (h' : Follows p m₁ m₂) : Follows p m m₂ :=
  ⟨h.keeps.trans h'.keeps, Nat.le_trans h.size_le h'.size_le, h'.depth.trans h.depth,
    h'.depthLimit.trans h.depthLimit⟩

theorem unaltered (h : Follows (fun _ => True) m m₁) (hm : m.Unaltered) : m₁.Unaltered := hm.keep h.keeps

theorem lt_depthLimit (h : Follows p m m₁) (hdepth : m.depth < m.depthLimit) : m₁.depth < m₁.depthLimit := by
  rw [h.depth, h.depthLimit]
  exact hdepth

end Machine.Follows

end Embedding.Guest
