import Embedding.Guest.Bridge.ToNative
import Embedding.Proofs.Doubles
import Embedding.Proofs.Runs

namespace Embedding

namespace Double

variable {d : Double}

/-- The machine word that is nearest to the integer part of a number. What is not a number counts as zero. -/
def word (d : Double) : Nat := (d.clamp 0 Guest.Bridge.wordLimit).toNat

theorem word_of_truncated? {n : Int} (h : d.truncated? = some n) : d.word = min n.toNat (2 ^ 64 - 1) := by
  rw [word, clamp, h]
  simp only [Guest.Bridge.wordLimit]
  omega

theorem word_ofInt {k : Nat} (h : k < 2 ^ 53) : (ofInt k).word = k := by
  rw [word_of_truncated? (truncated?_of_toInt? (toInt?_ofInt (by omega)))]
  omega

end Double

namespace Guest

/-- The machine once the host has panicked. -/
def Machine.afterPanic (m : Machine) : Machine := { m with panicked := true }

namespace Bridge

variable {a b : Nat} {e : Engine} {m : Machine}

theorem run_addWords (h : a + b < 2 ^ 64) : (addWords a b).run e m = .done (.ok (a + b)) m := by
  rw [addWords, if_pos (show a + b ≤ wordLimit.toNat by unfold wordLimit; omega), run_pure]

theorem run_addWords_of_le (h : 2 ^ 64 ≤ a + b) : (addWords a b).run e m = .stopped .exhausted m.afterPanic := by
  rw [addWords, if_neg (show ¬ a + b ≤ wordLimit.toNat by unfold wordLimit; omega)]
  rfl

theorem bytesBetween?_add (bytes : Array UInt8) (a b : Nat) :
    bytesBetween? bytes a (a + b) = if a + b ≤ bytes.size then some ((bytes.toList.drop a).take b) else none := by
  have hiff : (a ≤ a + b ∧ a + b ≤ bytes.size) ↔ a + b ≤ bytes.size := by omega
  simp only [bytesBetween?, hiff]
  congr 2
  rw [Array.toList_extract, List.extract_eq_take_drop, Nat.add_sub_cancel_left]

end Bridge

end Guest

end Embedding
