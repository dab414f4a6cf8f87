/-
# Big-endian words

A number is hashed as a fixed count of bytes, the most significant first.  `bigEndian_inj` says
that two numbers that fit the width (`capacity`) and have the same bytes are equal.
-/

namespace StakeChain.Digest

/-- The `width` bytes of `n`, the most significant first; higher bits are dropped. -/
def bigEndian : (width : Nat) → (n : Nat) → List UInt8
  | 0, _ => []
  | width + 1, n => bigEndian width (n / 256) ++ [UInt8.ofNat n]

/-- How many numbers fit in `width` bytes. -/
def capacity : (width : Nat) → Nat
  | 0 => 1
  | width + 1 => 256 * capacity width

/-- The eight bytes of a 64-bit word. -/
def word64 (w : UInt64) : List UInt8 := bigEndian 8 w.toNat

@[simp] theorem length_bigEndian (width n : Nat) : (bigEndian width n).length = width := by
  induction width generalizing n with
  | zero => rfl
  | succ width ih => simp [bigEndian, ih]

@[simp] theorem length_word64 (w : UInt64) : (word64 w).length = 8 := length_bigEndian 8 _

/-- **Bytes determine the number**, when it fits the width. -/
theorem bigEndian_inj {width m n : Nat} (hm : m < capacity width) (hn : n < capacity width)
    (h : bigEndian width m = bigEndian width n) : m = n := by
  induction width generalizing m n with
  | zero => simp only [capacity] at hm hn; omega
  | succ width ih =>
    simp only [capacity] at hm hn
    obtain ⟨hhigh, hlow⟩ := List.append_inj h (by simp)
    have hhigh : m / 256 = n / 256 := ih (by omega) (by omega) hhigh
    have hlow : m % 256 = n % 256 := by
      simpa using congrArg UInt8.toNat (List.cons.inj hlow).1
    omega

theorem word64_inj {v w : UInt64} (h : word64 v = word64 w) : v = w := by
  have hv : v.toNat < capacity 8 := v.toNat_lt
  have hw : w.toNat < capacity 8 := w.toNat_lt
  exact UInt64.toNat_inj.mp (bigEndian_inj hv hw h)

end StakeChain.Digest
