/-
# Amounts

Money is a count of minor units in 64 bits, a hundred million of them to the coin.  Sums are
refused when they do not fit (`add?`), or stop at the largest amount where a total is only
reported (`addClamped`, `clamp`); differences stop at zero.  Every operation is stated through
`toNat`, so what happens is a fact about natural numbers.
-/

namespace StakeChain

/-- An amount of money in minor units. -/
@[ext] structure Amount where
  units : UInt64
deriving DecidableEq, Repr, Inhabited

namespace Amount

/-- Minor units in a coin. -/
def unitsPerCoin : Nat := 100000000

/-- Digits after the point: a coin is ten to this power. -/
def decimals : Nat := 8

/-- The number of minor units. -/
def toNat (a : Amount) : Nat := a.units.toNat

/-- No money. -/
def zero : Amount := ⟨0⟩

instance : LE Amount := ⟨fun a b => a.units ≤ b.units⟩
instance : LT Amount := ⟨fun a b => a.units < b.units⟩
instance (a b : Amount) : Decidable (a ≤ b) := inferInstanceAs (Decidable (a.units ≤ b.units))
instance (a b : Amount) : Decidable (a < b) := inferInstanceAs (Decidable (a.units < b.units))

/-- The amount of `n` units, when it fits in 64 bits. -/
def ofNat? (n : Nat) : Option Amount :=
  if n < UInt64.size then some ⟨UInt64.ofNat n⟩ else none

/-- The amount of `n` units, or the largest amount. -/
def clamp (n : Nat) : Amount := ⟨UInt64.ofNatClamp n⟩

/-- The amount of `n` coins, when it fits. -/
def ofCoins? (n : UInt64) : Option Amount := ofNat? (n.toNat * unitsPerCoin)

/-- The sum, when it fits. -/
def add? (a b : Amount) : Option Amount := ofNat? (a.toNat + b.toNat)

/-- The sum, or the largest amount. -/
def addClamped (a b : Amount) : Amount := clamp (a.toNat + b.toNat)

/-- The difference, or nothing. -/
def monus (a b : Amount) : Amount := clamp (a.toNat - b.toNat)

/-- The exact total of several amounts. -/
def total : List Amount → Nat
  | [] => 0
  | a :: rest => a.toNat + total rest

theorem total_append : ∀ early late : List Amount, total (early ++ late) = total early + total late
  | [], late => (Nat.zero_add (total late)).symm
  | a :: rest, late => by
    rw [List.cons_append, total, total, total_append rest late, Nat.add_assoc]

/-! ## Through `toNat` -/

theorem toNat_inj {a b : Amount} : a.toNat = b.toNat ↔ a = b := by
  rw [toNat, toNat, UInt64.toNat_inj, Amount.ext_iff]

theorem toNat_lt (a : Amount) : a.toNat < UInt64.size := a.units.toNat_lt

theorem le_iff_toNat {a b : Amount} : a ≤ b ↔ a.toNat ≤ b.toNat := UInt64.le_iff_toNat_le

theorem lt_iff_toNat {a b : Amount} : a < b ↔ a.toNat < b.toNat := UInt64.lt_iff_toNat_lt

@[simp] theorem toNat_zero : zero.toNat = 0 := rfl

theorem ofNat?_eq_some_iff {n : Nat} {a : Amount} : ofNat? n = some a ↔ a.toNat = n := by
  unfold ofNat?
  split
  · rename_i h
    rw [Option.some.injEq, ← toNat_inj, show (⟨UInt64.ofNat n⟩ : Amount).toNat = n from
      UInt64.toNat_ofNat_of_lt h]
    exact eq_comm
  · have := a.toNat_lt
    simp only [reduceCtorEq, false_iff]
    omega

theorem ofNat?_eq_none_iff {n : Nat} : ofNat? n = none ↔ UInt64.size ≤ n := by
  unfold ofNat?
  split <;> simp <;> omega

theorem toNat_clamp (n : Nat) : (clamp n).toNat = min n (UInt64.size - 1) := by
  unfold clamp toNat
  by_cases h : n < UInt64.size
  · rw [UInt64.toNat_ofNatClamp_of_lt h]; omega
  · rw [UInt64.toNat_ofNatClamp_of_le (by omega)]; omega

/-- Every number that fits counts the units of an amount. -/
theorem exists_toNat_eq {n : Nat} (h : n < UInt64.size) : ∃ a : Amount, a.toNat = n :=
  ⟨clamp n, by rw [toNat_clamp]; omega⟩

theorem add?_eq_some_iff {a b c : Amount} : a.add? b = some c ↔ c.toNat = a.toNat + b.toNat :=
  ofNat?_eq_some_iff

theorem add?_eq_none_iff {a b : Amount} : a.add? b = none ↔ UInt64.size ≤ a.toNat + b.toNat :=
  ofNat?_eq_none_iff

theorem toNat_addClamped (a b : Amount) :
    (a.addClamped b).toNat = min (a.toNat + b.toNat) (UInt64.size - 1) := toNat_clamp _

/-- Stopping at the largest amount at every step comes to the same as stopping at the end. -/
theorem toNat_foldl_addClamped : ∀ (amounts : List Amount) (a : Amount),
    (amounts.foldl addClamped a).toNat = min (a.toNat + total amounts) (UInt64.size - 1)
  | [], a => by
    have := a.toNat_lt
    simp only [List.foldl_nil, total]
    omega
  | b :: rest, a => by
    rw [List.foldl_cons, toNat_foldl_addClamped rest, toNat_addClamped, total]
    omega

/-- From nothing, the exact total is held once. -/
theorem foldl_addClamped_zero (amounts : List Amount) :
    amounts.foldl addClamped zero = clamp (total amounts) := by
  rw [← toNat_inj, toNat_foldl_addClamped, toNat_clamp, toNat_zero, Nat.zero_add]

theorem toNat_monus (a b : Amount) : (a.monus b).toNat = a.toNat - b.toNat := by
  have := a.toNat_lt
  rw [monus, toNat_clamp]
  omega

end Amount

end StakeChain
