/-
# Decimal numerals

Numbers arrive as text in configuration values, in paths, in queries and in amounts.  A digit
is an ASCII digit, leading zeros carry no meaning, and a numeral has at least one digit.

* `digits?` reads a run of digits of any length as its exact value;
* `unsigned?` allows one leading `+`, `signed?` a leading `+` or `-`;
* both take the range as a bound, so the caller's word size is its argument.
-/

namespace StakeChain.Text

/-- The value of a non-empty run of ASCII digits. -/
def digits? (s : List Char) : Option Nat :=
  if s ≠ [] ∧ s.all Char.isDigit then some (Nat.ofDigitChars 10 s 0) else none

/-- An optional `+`, then digits whose value is below `size`. -/
def unsigned? (size : Nat) (s : List Char) : Option Nat :=
  let body := match s with
    | '+' :: rest => rest
    | _ => s
  (digits? body).filter (· < size)

/-- An optional sign, then digits; the value lies in `[-bound, bound)`. -/
def signed? (bound : Nat) (s : List Char) : Option Int :=
  let value := match s with
    | '-' :: rest => (digits? rest).map fun n => -(n : Int)
    | '+' :: rest => (digits? rest).map Int.ofNat
    | _ => (digits? s).map Int.ofNat
  value.filter fun i => -(bound : Int) ≤ i ∧ i < bound

/-- A numeral that fits in 64 bits. -/
def uint64? (s : List Char) : Option UInt64 := (unsigned? UInt64.size s).map UInt64.ofNat

/-- A numeral that fits in 32 bits. -/
def uint32? (s : List Char) : Option UInt32 := (unsigned? UInt32.size s).map UInt32.ofNat

/-- The number of non-negative 64-bit integers, and of negative ones. -/
def int64Bound : Nat := 9223372036854775808

/-- A signed numeral that fits in 64 bits. -/
def int64? (s : List Char) : Option Int64 := (signed? int64Bound s).map Int64.ofInt

theorem digits?_eq_some_iff {s : List Char} {n : Nat} :
    digits? s = some n ↔ s ≠ [] ∧ (∀ c ∈ s, c.isDigit = true) ∧ Nat.ofDigitChars 10 s 0 = n := by
  unfold digits?
  rw [Option.ite_none_right_eq_some, List.all_eq_true, and_assoc, Option.some.injEq]

/-- **Writing reads back.**  The decimal digits of `n` are a numeral of value `n`. -/
theorem digits?_toDigits (n : Nat) : digits? (Nat.toDigits 10 n) = some n := by
  have hne : Nat.toDigits 10 n ≠ [] := by
    rw [Nat.toDigits_eq_if (by decide)]; split <;> simp
  have hall : (Nat.toDigits 10 n).all Char.isDigit = true :=
    List.all_eq_true.mpr fun _ hc => Nat.isDigit_of_mem_toDigits (by decide) (by decide) hc
  simp [digits?, hne, hall]

/-- Zeros in front of a numeral leave its value. -/
theorem digits?_replicate_append {k : Nat} {s : List Char} (hs : s ≠ []) :
    digits? (List.replicate k '0' ++ s) = digits? s := by
  have hz : ∀ k : Nat, ∀ c ∈ List.replicate k '0', c.isDigit = true := by
    intro k c hc
    rw [List.eq_of_mem_replicate hc]; rfl
  by_cases hall : s.all Char.isDigit = true
  · have : (List.replicate k '0' ++ s).all Char.isDigit = true := by
      rw [List.all_append, hall, List.all_eq_true.mpr (hz k)]; rfl
    simp [digits?, hs, this, hall, Nat.ofDigitChars_append]
  · have : (List.replicate k '0' ++ s).all Char.isDigit ≠ true := by
      rw [List.all_append]; simp_all
    simp [digits?, hs, this, hall]

end StakeChain.Text
