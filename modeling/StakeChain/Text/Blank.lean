/-
# Blank characters

Identifiers, amounts and configuration values are read with blank characters removed at both
ends.  A character is blank when it has the Unicode property `White_Space`: twenty-five code
points, the ASCII ones among them.  The property is wider than `Char.isWhitespace`, which
knows the ASCII ones only (`isBlank_of_isWhitespace`).

What is removed is all blank characters at both ends and nothing else: `exists_trim`,
`trim_append`.
-/

namespace StakeChain.Text

/-- The code points with the Unicode property `White_Space`. -/
def isBlank (c : Char) : Bool :=
  let n := c.toNat
  (0x9 ≤ n && n ≤ 0xD) || n == 0x20 || n == 0x85 || n == 0xA0 || n == 0x1680 ||
    (0x2000 ≤ n && n ≤ 0x200A) || n == 0x2028 || n == 0x2029 || n == 0x202F ||
    n == 0x205F || n == 0x3000

/-- `s` without the blank characters at its end. -/
def trimEnd (s : List Char) : List Char := (s.reverse.dropWhile isBlank).reverse

/-- `s` without the blank characters at either end. -/
def trim (s : List Char) : List Char := trimEnd (s.dropWhile isBlank)

/-- A text that holds nothing but blank characters, the empty text included. -/
def allBlank (s : String) : Bool := s.toList.all isBlank

/-- `s` without the blank characters at either end. -/
def trimmed (s : String) : String := String.ofList (trim s.toList)

theorem isBlank_of_isWhitespace {c : Char} (h : c.isWhitespace = true) : isBlank c = true := by
  simp only [Char.isWhitespace, Bool.or_eq_true, decide_eq_true_eq] at h
  rcases h with ((rfl | rfl) | rfl) | rfl <;> rfl

theorem isBlank_eq_false_of_isDigit {c : Char} (h : c.isDigit = true) : isBlank c = false := by
  simp only [Char.isDigit, Bool.and_eq_true, decide_eq_true_eq, UInt32.le_iff_toNat_le] at h
  have hlow : 48 ≤ c.toNat := h.1
  have hhigh : c.toNat ≤ 57 := h.2
  simp [isBlank]
  omega

/-! ## What trimming removes -/

theorem exists_trimEnd (s : List Char) :
    ∃ after, s = trimEnd s ++ after ∧ ∀ c ∈ after, isBlank c = true := by
  refine ⟨(s.reverse.takeWhile isBlank).reverse, ?_, fun c hc => ?_⟩
  · rw [trimEnd, ← List.reverse_append, List.takeWhile_append_dropWhile, List.reverse_reverse]
  · exact List.all_eq_true.mp List.all_takeWhile c (List.mem_reverse.mp hc)

/-- Only blank characters are removed. -/
theorem exists_trim (s : List Char) :
    ∃ before after, s = before ++ trim s ++ after ∧ (∀ c ∈ before, isBlank c = true) ∧
      ∀ c ∈ after, isBlank c = true := by
  obtain ⟨after, hafter, hblank⟩ := exists_trimEnd (s.dropWhile isBlank)
  refine ⟨s.takeWhile isBlank, after, ?_, List.all_eq_true.mp List.all_takeWhile, hblank⟩
  rw [trim, List.append_assoc, ← hafter, List.takeWhile_append_dropWhile]

theorem dropWhile_isBlank_eq_self {s : List Char} (h : ∀ c ∈ s, isBlank c = false) :
    s.dropWhile isBlank = s := by
  cases s with
  | nil => rfl
  | cons c rest =>
    have hc : ¬ isBlank c = true := by
      rw [h c List.mem_cons_self]
      exact Bool.false_ne_true
    exact List.dropWhile_cons_of_neg hc

theorem trimEnd_append {s after : List Char} (hs : ∀ c ∈ s, isBlank c = false)
    (hafter : ∀ c ∈ after, isBlank c = true) : trimEnd (s ++ after) = s := by
  have hreverse : ∀ c ∈ after.reverse, isBlank c = true :=
    fun c hc => hafter c (List.mem_reverse.mp hc)
  rw [trimEnd, List.reverse_append, List.dropWhile_append_of_pos hreverse,
    dropWhile_isBlank_eq_self fun c hc => hs c (List.mem_reverse.mp hc), List.reverse_reverse]

/-- All blank characters around a text without any are removed. -/
theorem trim_append {before s after : List Char} (hbefore : ∀ c ∈ before, isBlank c = true)
    (hs : ∀ c ∈ s, isBlank c = false) (hafter : ∀ c ∈ after, isBlank c = true) :
    trim (before ++ s ++ after) = s := by
  rw [trim, List.append_assoc, List.dropWhile_append_of_pos hbefore]
  cases s with
  | nil =>
    rw [List.nil_append, ← List.append_nil after, List.dropWhile_append_of_pos hafter]
    rfl
  | cons c rest =>
    have hc : ¬ isBlank c = true := by
      rw [hs c List.mem_cons_self]
      exact Bool.false_ne_true
    rw [List.cons_append, List.dropWhile_cons_of_neg hc]
    exact trimEnd_append hs hafter

end StakeChain.Text
