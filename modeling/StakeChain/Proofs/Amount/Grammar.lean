/-
# How an amount is written

Digits with at most one point among them: the ones in front of the point count coins, and there may
be any number of them, up to eight behind it are parts of a coin, and one side may be empty, but not
both.  Blanks may stand around that.  This is the grammar of amounts (`Amount.Denotes`,
`Amount.Written`), and its meaning is an exact number of units, which need not fit an amount.

The reader takes a text apart at the first point and looks at the two sides in turn.  There are three
places where a number may not fit on the way, and they come to one: parts are never more than their
sum, so if the sum is an amount, nothing on the way was too large
(`Amount.ofChars?_eq_some_iff_sides`).

Main statement: `Amount.parse_follows_grammar`.
-/
import Mathlib.Algebra.Group.Nat.Defs
import StakeChain.Amount.Text

namespace StakeChain.Amount

/-! ## 1. The grammar -/

/-- The number that decimal digits denote; no digits denote zero. -/
def value (digits : List Char) : Nat := Nat.ofDigitChars 10 digits 0

/-- The digits on the two sides of a point, and the units that they make together.  A digit that is
missing behind the point counts as a zero there. -/
structure Sides (whole fraction : List Char) (units : Nat) : Prop where
  whole_digits : ∀ c ∈ whole, c.isDigit = true
  fraction_digits : ∀ c ∈ fraction, c.isDigit = true
  not_both_empty : ¬ (whole = [] ∧ fraction = [])
  fraction_short : fraction.length ≤ 8
  units_eq : value whole * 10 ^ 8 + value fraction * 10 ^ (8 - fraction.length) = units

/-- The characters of an amount without blanks, and the units that they denote. -/
inductive Denotes : List Char → Nat → Prop where
  | whole {whole : List Char} {units : Nat} : Sides whole [] units → Denotes whole units
  | point {whole fraction : List Char} {units : Nat} :
      Sides whole fraction units → Denotes (whole ++ '.' :: fraction) units

/-- The text of an amount, with any blanks around it, and the units that it denotes. -/
def Written (s : String) (units : Nat) : Prop :=
  ∃ before core after, s.toList = before ++ core ++ after ∧ Denotes core units ∧
    (∀ c ∈ before, Text.isBlank c = true) ∧ ∀ c ∈ after, Text.isBlank c = true

/-! ## 2. The two sides -/

/-- Each zero behind a fraction makes its value ten times as large. -/
theorem value_append_zeros (digits : List Char) (k : Nat) :
    value (digits ++ List.replicate k '0') = value digits * 10 ^ k := by
  rw [value, Nat.ofDigitChars_append, Nat.ofDigitChars_replicate_zero, Nat.mul_comm, value]

theorem coins?_eq_some_iff {whole : List Char} {coins : UInt64} :
    coins? whole = some coins ↔ (∀ c ∈ whole, c.isDigit = true) ∧ value whole = coins.toNat := by
  unfold coins?
  split
  · rename_i hempty
    subst hempty
    rw [Option.some.injEq, ← UInt64.toNat_inj]
    simp [value]
  · rename_i hsome
    simp only [Option.map_eq_some_iff, Option.filter_eq_some_iff, Text.digits?_eq_some_iff,
      decide_eq_true_eq]
    constructor
    · rintro ⟨n, ⟨⟨-, hdigits, rfl⟩, hsize⟩, rfl⟩
      exact ⟨hdigits, (UInt64.toNat_ofNat_of_lt hsize).symm⟩
    · rintro ⟨hdigits, hvalue⟩
      exact ⟨coins.toNat, ⟨⟨hsome, hdigits, hvalue⟩, coins.toNat_lt⟩, UInt64.ofNat_toNat⟩

theorem fraction?_eq_some_iff {fraction : List Char} {units : Nat} :
    fraction? fraction = some units ↔ fraction.length ≤ 8 ∧
      (∀ c ∈ fraction, c.isDigit = true) ∧
      value fraction * 10 ^ (8 - fraction.length) = units := by
  unfold fraction? decimals
  rw [Option.ite_none_right_eq_some, Text.digits?_eq_some_iff]
  refine and_congr_right fun hshort => ?_
  have hsome : fraction ++ List.replicate (8 - fraction.length) '0' ≠ [] := by
    refine List.ne_nil_of_length_pos ?_
    rw [List.length_append, List.length_replicate]
    omega
  have hzeros : ∀ c ∈ List.replicate (8 - fraction.length) '0', c.isDigit = true := by
    intro c hc
    rw [List.eq_of_mem_replicate hc]
    rfl
  rw [← value_append_zeros, List.forall_mem_append]
  constructor
  · rintro ⟨-, ⟨hdigits, -⟩, hvalue⟩
    exact ⟨hdigits, hvalue⟩
  · rintro ⟨hdigits, hvalue⟩
    exact ⟨hsome, ⟨hdigits, hzeros⟩, hvalue⟩

/-- **The reader accepts the two sides of the first point, if their units fit.** -/
theorem ofChars?_eq_some_iff_sides {s : List Char} {a : Amount} :
    ofChars? s = some a ↔
      Sides ((Text.trim s).takeWhile (· ≠ '.')) (((Text.trim s).dropWhile (· ≠ '.')).drop 1)
        a.toNat := by
  unfold ofChars?
  simp only
  generalize (Text.trim s).takeWhile (· ≠ '.') = whole
  generalize ((Text.trim s).dropWhile (· ≠ '.')).drop 1 = fraction
  rw [Option.ite_none_left_eq_some]
  simp only [Option.bind_eq_bind, Option.bind_eq_some_iff, coins?_eq_some_iff,
    fraction?_eq_some_iff, ofCoins?, ofNat?_eq_some_iff, add?_eq_some_iff, unitsPerCoin]
  constructor
  · rintro ⟨hsome, coins, ⟨hwhole, hcoins⟩, _, ⟨hshort, hfraction, rfl⟩, x, hx, y, hy, hsum⟩
    exact ⟨hwhole, hfraction, hsome, hshort, by omega⟩
  · rintro ⟨hwhole, hfraction, hsome, hshort, hunits⟩
    -- whatever is computed on the way is not more than the sum, which is an amount
    have hsize := a.toNat_lt
    obtain ⟨coins, hcoins⟩ := exists_toNat_eq (n := value whole) (by omega)
    obtain ⟨x, hx⟩ := exists_toNat_eq (n := value whole * 10 ^ 8) (by omega)
    obtain ⟨y, hy⟩ :=
      exists_toNat_eq (n := value fraction * 10 ^ (8 - fraction.length)) (by omega)
    refine ⟨hsome, coins.units, ⟨hwhole, hcoins.symm⟩, _, ⟨hshort, hfraction, rfl⟩, x, ?_, y, hy,
      ?_⟩
    · rw [hx, ← hcoins]
      rfl
    · rw [hx, hy, hunits]

/-! ## 3. Taking a text apart -/

theorem ne_point_of_isDigit {c : Char} (h : c.isDigit = true) : decide (c ≠ '.') = true := by
  refine decide_eq_true ?_
  rintro rfl
  cases h

/-- What the grammar puts together is taken apart at the first point: digits are no points. -/
theorem denotes_iff_sides {s : List Char} {units : Nat} :
    Denotes s units ↔
      Sides (s.takeWhile (· ≠ '.')) ((s.dropWhile (· ≠ '.')).drop 1) units := by
  constructor
  · intro h
    cases h with
    | whole h =>
      have hpoint : ∀ c ∈ s, decide (c ≠ '.') = true :=
        fun c hc => ne_point_of_isDigit (h.whole_digits c hc)
      rw [← List.append_nil s, List.takeWhile_append_of_pos hpoint,
        List.dropWhile_append_of_pos hpoint]
      simpa using h
    | @point whole fraction _ h =>
      have hpoint : ∀ c ∈ whole, decide (c ≠ '.') = true :=
        fun c hc => ne_point_of_isDigit (h.whole_digits c hc)
      rw [List.takeWhile_append_of_pos hpoint, List.dropWhile_append_of_pos hpoint]
      simpa using h
  · intro h
    have hsplit := List.takeWhile_append_dropWhile (p := (· ≠ '.')) (l := s)
    cases hrest : s.dropWhile (· ≠ '.') with
    | nil =>
      rw [hrest, List.append_nil] at hsplit
      rw [hrest, hsplit] at h
      exact .whole h
    | cons c fraction =>
      have hfirst := List.head?_dropWhile_not (· ≠ '.') s
      rw [hrest] at hfirst
      have hc : c = '.' := Decidable.of_not_not (of_decide_eq_false hfirst)
      rw [hrest, hc] at hsplit
      rw [hrest] at h
      rw [← hsplit]
      exact .point h

theorem Denotes.not_isBlank {s : List Char} {units : Nat} (h : Denotes s units) :
    ∀ c ∈ s, Text.isBlank c = false := by
  cases h with
  | whole h => exact fun c hc => Text.isBlank_eq_false_of_isDigit (h.whole_digits c hc)
  | point h =>
    intro c hc
    rcases List.mem_append.mp hc with hc | hc
    · exact Text.isBlank_eq_false_of_isDigit (h.whole_digits c hc)
    · rcases List.mem_cons.mp hc with rfl | hc
      · rfl
      · exact Text.isBlank_eq_false_of_isDigit (h.fraction_digits c hc)

/-- The blanks around an amount are what trimming takes away. -/
theorem written_iff {s : String} {units : Nat} :
    Written s units ↔ Denotes (Text.trim s.toList) units := by
  constructor
  · rintro ⟨before, core, after, hs, hcore, hbefore, hafter⟩
    rw [hs, Text.trim_append hbefore hcore.not_isBlank hafter]
    exact hcore
  · intro h
    obtain ⟨before, after, hs, hbefore, hafter⟩ := Text.exists_trim s.toList
    exact ⟨before, _, after, hs, h, hbefore, hafter⟩

/-! ## 4. Reading -/

theorem ofChars?_eq_some_iff {s : String} {a : Amount} :
    ofChars? s.toList = some a ↔ Written s a.toNat := by
  rw [ofChars?_eq_some_iff_sides, ← denotes_iff_sides, written_iff]

/-- **What is read is what is written.** -/
theorem parse_eq_ok_iff {s : String} {a : Amount} : parse s = .ok a ↔ Written s a.toNat := by
  rw [← ofChars?_eq_some_iff, parse]
  cases ofChars? s.toList <;> simp

theorem parse_eq_error_iff {s : String} {e : Malformed} :
    parse s = .error e ↔ e = ⟨s⟩ ∧ ∀ a, parse s ≠ .ok a := by
  unfold parse
  cases ofChars? s.toList <;> simp [eq_comm]

/-- **A text is read exactly if it is an amount by the grammar and fits.**  It is then read as the
units that it denotes.  Any other text, one of too many units among them, is reported as it was
given. -/
theorem parse_follows_grammar (s : String) :
    (∀ units : UInt64, parse s = .ok ⟨units⟩ ↔ Written s units.toNat) ∧
      ∀ e : Malformed,
        parse s = .error e ↔ e = ⟨s⟩ ∧ ∀ units, Written s units → 2 ^ 64 ≤ units := by
  refine ⟨fun units => parse_eq_ok_iff, fun e => ?_⟩
  rw [parse_eq_error_iff]
  refine and_congr_right fun _ => ?_
  constructor
  · intro hnone units hwritten
    refine Nat.not_lt.mp fun hfits => ?_
    obtain ⟨a, rfl⟩ := exists_toNat_eq hfits
    exact hnone a (parse_eq_ok_iff.mpr hwritten)
  · intro hlarge a ha
    have hsize := a.toNat_lt
    exact absurd (hlarge _ (parse_eq_ok_iff.mp ha)) (Nat.not_le.mpr hsize)

/-- Blanks, zeros in front and a short fraction. -/
example : parse "\u3000007.5 " = .ok ⟨750000000⟩ := rfl

/-- One unit more than the largest amount. -/
example : parse "184467440737.09551616" = .error ⟨"184467440737.09551616"⟩ := rfl

end StakeChain.Amount
