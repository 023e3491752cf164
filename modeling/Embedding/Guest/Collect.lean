import Embedding.Guest.Machine

namespace Embedding.Guest

/-- Guest values that the host holds on to, by number. -/
structure Pins where
  next : Nat := 0
  held : List (Nat × Value) := []
deriving Inhabited

namespace Pins

variable (p : Pins)

def add (v : Value) : Nat × Pins := (p.next, ⟨p.next + 1, (p.next, v) :: p.held⟩)

def remove (id : Nat) : Pins := { p with held := p.held.filter fun e => e.1 != id }

def find? (id : Nat) : Option Value := p.held.lookup id

def values : List Value := p.held.map (·.2)

end Pins

namespace Machine

-- `held` are the values that the host holds on to.
variable (m : Machine) (held : List Value)

def placeOf : Target → Nat
  | .object o => o
  | .cell c => m.objects.size + c

def placeCount : Nat := m.objects.size + m.cells.size

def targetsAt (place : Nat) : List Target :=
  if place < m.objects.size then Target.ofObject (m.objects.getD place default)
  else
    match m.cells.getD (place - m.objects.size) none with
    | some v => Target.ofValue v
    | none => []

def rootTargets : List Target :=
  m.roots.flatMap Target.ofRoot ++ Target.ofValues held ++
    m.frames.flatMap (fun f => (f.function.map Target.object).toList) ++ m.lexicals.map (fun l => .cell l.cell) ++
    m.collections.toList.flatMap (fun calls => calls.flatMap Target.ofValues) ++ m.jobs.flatMap Target.ofValues ++
    (List.range m.realmSize).map .object

def countTargets (counts : Array Nat) (ts : List Target) : Array Nat :=
  ts.foldl (fun counts t => counts.modify (m.placeOf t) (· + 1)) counts

def referenceCounts : Array Nat :=
  (List.range m.placeCount).foldl (fun counts i => m.countTargets counts (m.targetsAt i))
    (m.countTargets (Array.replicate m.placeCount 0) (m.rootTargets held))

/-- Lets go of some targets; those that nothing else refers to come first among the pending. -/
def letGo (counts : Array Nat) (pending : List Nat) : List Target → Array Nat × List Nat
  | [] => (counts, pending)
  | t :: ts =>
    let place := m.placeOf t
    letGo (counts.modify place (· - 1)) (if counts[place]? = some 1 then place :: pending else pending) ts

/-- Frees what is pending, and what that lets go of. The places freed come last first. -/
def freePending : Nat → Array Nat → List Nat → List Nat → Array Nat × List Nat
  | 0, counts, _, freed => (counts, freed)
  | _, counts, [], freed => (counts, freed)
  | fuel + 1, counts, place :: pending, freed =>
    let (counts, pending) := m.letGo counts pending (m.targetsAt place)
    freePending fuel counts pending (place :: freed)

/-- The places that nothing refers to, in the order in which they are freed. -/
def freedPlaces : List Nat :=
  let counts := m.referenceCounts held
  let start := (List.range m.placeCount).filter fun i => counts.getD i 0 = 0
  let (_, freed) := start.foldl (fun (s : Array Nat × List Nat) i =>
    m.freePending (m.placeCount + 1) s.1 [i] s.2) (counts, [])
  freed.reverse

def mark : Nat → Array Bool → List Nat → Array Bool
  | 0, marked, _ => marked
  | _, marked, [] => marked
  | fuel + 1, marked, place :: pending =>
    if marked.getD place true then mark fuel marked pending
    else mark fuel (marked.setIfInBounds place true) ((m.targetsAt place).map m.placeOf ++ pending)

def unreachablePlaces : List Nat :=
  let edges := (List.range m.placeCount).foldl (fun n i => n + (m.targetsAt i).length + 1) (m.rootTargets held).length
  let marked := m.mark (edges + 1) (Array.replicate m.placeCount false) ((m.rootTargets held).map m.placeOf)
  (List.range m.placeCount).filter fun i => !(marked.getD i true)

end Machine

/-- What an engine frees, where the host holds on to some values. What keeps an object is the engine's own affair. -/
class Collector where
  /-- The places to which nothing refers any more, in the order in which they are freed. -/
  freed : Machine → (held : List Value) → List Nat
  unreachable : Machine → (held : List Value) → List Nat

instance : Collector := ⟨Machine.freedPlaces, Machine.unreachablePlaces⟩

namespace Machine

variable (m : Machine)

def storageOfText (t : Text) : Nat :=
  if t.length ≤ 256 then 0 else if t.units.any (256 ≤ ·.toNat) then 2 * t.length else t.length

def storageOfValue : Value → Nat
  | .text t => storageOfText t
  | _ => 0

def storageOfObject (x : Object) : Nat :=
  let own := match x.payload with
    | .array elements _ _ => elements.foldl (fun n e => n + 16 + (e.map storageOfValue).getD 0) 0
    | .map entries => entries.foldl (fun n e => n + 32 + (e.map fun (k, v) => storageOfValue k + storageOfValue v).getD 0) 0
    | .set entries => entries.foldl (fun n e => n + 32 + (e.map storageOfValue).getD 0) 0
    | .buffer bytes _ => bytes.size
    | _ => 0
  x.properties.foldl (fun n p =>
    match p.2.slot with
    | .data v _ => n + storageOfValue v
    | _ => n) own

def storageAt (place : Nat) : Nat :=
  if place < m.objects.size then storageOfObject (m.objects.getD place default)
  else ((m.cells.getD (place - m.objects.size) none).map storageOfValue).getD 0

def storageOf (places : List Nat) : Nat := places.foldl (fun n place => n + m.storageAt place) 0

def storageInUse [Collector] (held : List Value) : Nat :=
  m.storageOf (List.range m.placeCount) - m.storageOf (Collector.freed m held)

end Machine

end Embedding.Guest
