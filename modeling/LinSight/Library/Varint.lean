import Mathlib

set_option autoImplicit false

/-! Variable-length numbers, and the sizes of the values that are built on them. -/

namespace Varint

variable {α : Type}

/-- The number of bytes of a number, seven bits a byte. -/
def size (n : Nat) : Nat := n.log2 / 7 + 1

/-- The lowest bits come first; all bytes but the last have their high bit set. -/
def encode (n : Nat) : List UInt8 :=
  (List.range (size n)).map fun i =>
    UInt8.ofNat (n / 128 ^ i % 128 + if i + 1 < size n then 128 else 0)

/-- A number of bytes behind their count. -/
def blobSize (bytes : Nat) : Nat := size bytes + bytes

/-- A tag, and the value behind it if there is one. -/
def optionSize (valueSize : α → Nat) : Option α → Nat
  | none => 1
  | some value => 1 + valueSize value

/-- The elements behind their count. -/
def seqSize (valueSize : α → Nat) (values : List α) : Nat :=
  size values.length + (values.map valueSize).sum

theorem length_encode (n : Nat) : (encode n).length = size n := by
  simp [encode]

theorem size_le {n k : Nat} (small : n < 2 ^ (7 * k)) (positive : 0 < k) : size n ≤ k := by
  unfold size
  by_cases zero : n = 0
  · subst zero
    have none : Nat.log2 0 = 0 := by simp
    omega
  · have bits : n.log2 < 7 * k := (Nat.log2_lt zero).mpr small
    omega

theorem blobSize_le {bytes : Nat} (small : bytes < 2 ^ 14) : blobSize bytes ≤ bytes + 2 := by
  have counted : size bytes ≤ 2 := size_le small (by decide)
  unfold blobSize
  omega

end Varint
