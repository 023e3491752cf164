import Embedding.Guest.Operator

namespace Embedding.Guest.Act

/-- Sinks a value into a sorted list that is given from its last value on. -/
def sink (greater : α → α → Act Bool) (x : α) : List α → List α → Act (List α)
  | [], after => return x :: after
  | y :: before, after => do
    if ← greater y x then sink greater x before (y :: after)
    else return (y :: before).reverse ++ x :: after

def insertionSort (greater : α → α → Act Bool) (xs : List α) : Act (List α) :=
  xs.foldlM (fun sorted x => sink greater x sorted.reverse []) []

def mergeLists (greater : α → α → Act Bool) : Nat → List α → List α → List α → Act (List α)
  | 0, xs, ys, acc => return acc.reverse ++ xs ++ ys
  | _, [], ys, acc => return acc.reverse ++ ys
  | _, xs, [], acc => return acc.reverse ++ xs
  | n + 1, x :: xs, y :: ys, acc => do
    if ← greater x y then mergeLists greater n (x :: xs) ys (y :: acc)
    else mergeLists greater n xs (y :: ys) (x :: acc)

def mergeSort (greater : α → α → Act Bool) : Nat → List α → Act (List α)
  | 0, xs => return xs
  | n + 1, xs => do
    if xs.length ≤ 6 then insertionSort greater xs
    else
      let half := xs.length / 2
      let left ← mergeSort greater n (xs.take half)
      let right ← mergeSort greater n (xs.drop half)
      mergeLists greater xs.length left right []

/-- Sorts values by a comparison function, or by their texts if there is none. -/
def sortValues (f : Value) (vs : List Value) : Act (List Value) := do
  if f.isUndefined then
    let texts ← vs.mapM fun v => do return (v, ← toText v)
    let greater (a b : Value × Text) : Act Bool := return a.2.compare b.2 == .gt
    return (← mergeSort greater texts.length texts).map (·.1)
  else
    let greater (a b : Value) : Act Bool := do
      if a == b then return false
      let d ← toDouble (← call f .undefined [a, b])
      return Double.zero.lt d
    mergeSort greater vs.length vs

end Embedding.Guest.Act
