/-
# Spellings of a text

One text has many spellings as a segment of a path.  A character that may stand in a segment
stands for itself, and any character may be written as its UTF-8 bytes in escapes, with digits of
either case (`Text.Spells`).  Every text has one (`Text.spells_escape`).

What a reader makes of a piece of its input does not depend on what follows, as long as the piece
does not end within an escape.  `Percent.Reads` says so of a piece, and pieces are put together
with `Reads.append`.
-/
import StakeChain.Text.Percent
import StakeChain.Text.Utf8

namespace StakeChain.Text

/-! ## 1. Spellings -/

/-- The characters that stand for themselves in a segment: digits, letters, `-._~`, `:@` and
`!$&'()*+,;=`. -/
def isPlain (c : Char) : Bool :=
  let n := c.toNat
  (0x30 ≤ n && n ≤ 0x39) || (0x41 ≤ n && n ≤ 0x5A) || (0x61 ≤ n && n ≤ 0x7A) ||
    n == 0x2D || n == 0x2E || n == 0x5F || n == 0x7E || n == 0x3A || n == 0x40 ||
    n == 0x21 || n == 0x24 || (0x26 ≤ n && n ≤ 0x2C) || n == 0x3B || n == 0x3D

/-- Bytes written as `%` and two hexadecimal digits each. -/
inductive Escapes : List Char → List UInt8 → Prop where
  | nil : Escapes [] []
  | cons {hi lo : Char} {h l : Nat} {written : List Char} {b : UInt8} {bs : List UInt8} :
      hexValue? hi.toNat = some h → hexValue? lo.toNat = some l → b.toNat = 16 * h + l →
      Escapes written bs → Escapes ('%' :: hi :: lo :: written) (b :: bs)

/-- **The spellings of a text as one segment**: each character stands for itself, if it may, or is
written as its bytes in escapes. -/
inductive Spells : List Char → List Char → Prop where
  | nil : Spells [] []
  | plain {c : Char} {written text : List Char} :
      isPlain c = true → Spells written text → Spells (c :: written) (c :: text)
  | escaped {c : Char} {escapes written text : List Char} :
      Escapes escapes (String.utf8EncodeChar c) → Spells written text →
      Spells (escapes ++ written) (c :: text)

/-- A text of plain characters is a spelling of itself. -/
theorem spells_of_isPlain {text : List Char} (h : text.all isPlain = true) : Spells text text := by
  induction text with
  | nil => exact .nil
  | cons c text ih =>
    rw [List.all_cons, Bool.and_eq_true] at h
    exact .plain h.1 (ih h.2)

/-- The spelling that escapes everything. -/
def escape (text : List Char) : List Char :=
  text.flatMap fun c => (String.utf8EncodeChar c).flatMap fun b => '%' :: hexPair b

theorem escapes_flatMap (bs : List UInt8) : Escapes (bs.flatMap fun b => '%' :: hexPair b) bs := by
  induction bs with
  | nil => exact .nil
  | cons b bs ih =>
    have hb := b.toNat_lt
    have hhigh : b.toNat / 16 < 16 := by omega
    have hlow : b.toNat % 16 < 16 := by omega
    exact .cons (hexValue?_hexDigit hhigh) (hexValue?_hexDigit hlow) (by omega) ih

/-- **Every text has a spelling.** -/
theorem spells_escape (text : List Char) : Spells (escape text) text := by
  induction text with
  | nil => exact .nil
  | cons c text ih => exact .escaped (escapes_flatMap _) ih

/-! ## 2. The bytes of a spelling -/

/-- The bytes of a list of characters. -/
abbrev utf8 (cs : List Char) : List UInt8 := cs.flatMap String.utf8EncodeChar

theorem utf8EncodeChar_of_ascii {c : Char} (h : c.toNat < 0x80) :
    String.utf8EncodeChar c = [UInt8.ofNat c.toNat] := by
  have hval : c.val.toNat ≤ 0x7F := Nat.le_of_lt_succ h
  unfold String.utf8EncodeChar
  rw [if_pos hval]
  rfl

/-- A byte of a character that is in the range of ASCII is all of the character. -/
theorem toNat_of_mem_utf8EncodeChar {c : Char} {b : UInt8} (h : b ∈ String.utf8EncodeChar c)
    (hb : b.toNat < 0x80) : b.toNat = c.toNat := by
  have hvalid := c.valid
  simp only [UInt32.isValidChar, Nat.isValidChar] at hvalid
  unfold String.utf8EncodeChar at h
  show b.toNat = c.val.toNat
  generalize c.val.toNat = v at *
  simp only at h
  -- the first and the later bytes of a longer character are past the range
  split at h
  · rw [List.mem_singleton] at h
    rw [h, UInt8.toNat_ofNat_of_lt' (show v < 256 by omega)]
  · split at h
    · simp only [List.mem_cons, List.not_mem_nil, or_false] at h
      rcases h with rfl | rfl <;> simp at hb <;> omega
    · split at h
      · simp only [List.mem_cons, List.not_mem_nil, or_false] at h
        rcases h with rfl | rfl | rfl <;> simp at hb <;> omega
      · simp only [List.mem_cons, List.not_mem_nil, or_false] at h
        rcases h with rfl | rfl | rfl | rfl <;> simp at hb <;> omega

/-- What may be written in a segment: no slash, and nothing that ends a path. -/
theorem isPlain_bounds {c : Char} (h : isPlain c = true) :
    c.toNat < 0x80 ∧ c.toNat ≠ 0x25 ∧ c.toNat ≠ 0x2F ∧ c.toNat ≠ 0x3F ∧ c.toNat ≠ 0x23 := by
  simp [isPlain] at h
  omega

theorem hexValue?_bounds {code h : Nat} (hcode : hexValue? code = some h) :
    code < 0x80 ∧ code ≠ 0x25 ∧ code ≠ 0x2F ∧ code ≠ 0x3F ∧ code ≠ 0x23 ∧ h < 16 := by
  unfold hexValue? at hcode
  split at hcode
  · cases hcode; omega
  split at hcode
  · cases hcode; omega
  split at hcode
  · cases hcode; omega
  · cases hcode

/-- The code point of a digit is a byte. -/
theorem toNat_ofNat_of_hexValue? {code h : Nat} (hcode : hexValue? code = some h) :
    (UInt8.ofNat code).toNat = code :=
  UInt8.toNat_ofNat_of_lt' (Nat.lt_trans (hexValue?_bounds hcode).1 (by decide))

theorem Escapes.not_mem {written : List Char} {bs : List UInt8} (h : Escapes written bs) {c : Char}
    (hc : c ∈ written) : c.toNat ≠ 0x2F ∧ c.toNat ≠ 0x3F ∧ c.toNat ≠ 0x23 := by
  induction h with
  | nil => simp at hc
  | cons hhi hlo _ _ ih =>
    simp only [List.mem_cons] at hc
    rcases hc with rfl | rfl | rfl | hc
    · decide
    · have := hexValue?_bounds hhi
      omega
    · have := hexValue?_bounds hlo
      omega
    · exact ih hc

/-- A spelling holds no slash and ends no path. -/
theorem Spells.not_mem {written text : List Char} (h : Spells written text) {c : Char}
    (hc : c ∈ written) : c.toNat ≠ 0x2F ∧ c.toNat ≠ 0x3F ∧ c.toNat ≠ 0x23 := by
  induction h with
  | nil => simp at hc
  | plain hplain _ ih =>
    rcases List.mem_cons.mp hc with rfl | hc
    · have := isPlain_bounds hplain
      omega
    · exact ih hc
  | escaped hescapes _ ih =>
    rcases List.mem_append.mp hc with hc | hc
    · exact hescapes.not_mem hc
    · exact ih hc

/-! ## 3. Reading piece by piece -/

namespace Percent

variable {kept : UInt8 → Bool} {piece more out late : List UInt8} {mark hi lo b : UInt8}

/-- A byte that is no `%` stands for itself. -/
theorem decode_cons_of_ne (hmark : mark.toNat ≠ 0x25) (rest : List UInt8) :
    decode kept (mark :: rest) = mark :: decode kept rest := by
  match rest with
  | [] => rfl
  | [_] => rfl
  | hi :: lo :: rest =>
    have hnone : escaped? mark hi lo = none := if_neg hmark
    rw [decode, hnone]
    rfl

/-- An escape whose byte is not kept is read. -/
theorem decode_escape (hescape : escaped? mark hi lo = some b) (hkept : kept b = false)
    (rest : List UInt8) : decode kept (mark :: hi :: lo :: rest) = b :: decode kept rest := by
  rw [decode, hescape, Option.filter_some, if_pos (by rw [hkept]; rfl)]

/-- An escape whose byte is kept stays. -/
theorem decode_kept (hescape : escaped? mark hi lo = some b) (hkept : kept b = true)
    (rest : List UInt8) :
    decode kept (mark :: hi :: lo :: rest) = mark :: decode kept (hi :: lo :: rest) := by
  rw [decode, hescape, Option.filter_some, if_neg (by rw [hkept]; decide)]

/-- **A piece reads as `out`, whatever follows it.** -/
def Reads (kept : UInt8 → Bool) (piece out : List UInt8) : Prop :=
  ∀ rest, decode kept (piece ++ rest) = out ++ decode kept rest

theorem Reads.nil : Reads kept [] [] := fun _ => rfl

theorem Reads.append (h : Reads kept piece out) (h' : Reads kept more late) :
    Reads kept (piece ++ more) (out ++ late) := by
  intro rest
  rw [List.append_assoc, h, h', List.append_assoc]

/-- Bytes among which there is no `%` stand for themselves. -/
theorem Reads.plain : ∀ {piece : List UInt8}, (∀ b ∈ piece, b.toNat ≠ 0x25) → Reads kept piece piece
  | [], _ => .nil
  | b :: piece, h => by
    have hrest : Reads kept piece piece := Reads.plain fun c hc => h c (List.mem_cons_of_mem b hc)
    intro rest
    rw [List.cons_append, decode_cons_of_ne (h b List.mem_cons_self), hrest, List.cons_append]

/-- What a piece reads as when nothing follows. -/
theorem Reads.decode (h : Reads kept piece out) : decode kept piece = out := by
  simpa [Percent.decode] using h []

/-! ## 4. Characters and escapes -/

/-- A character other than `%` stands for itself. -/
theorem Reads.char {c : Char} (h : c.toNat ≠ 0x25) : Reads kept (utf8 [c]) (utf8 [c]) := by
  refine Reads.plain fun b hb hpercent => ?_
  rw [utf8, List.flatMap_singleton] at hb
  have hcode := toNat_of_mem_utf8EncodeChar hb (by omega)
  omega

section Digits

variable {first second : Char} {h l : Nat} (hh : hexValue? first.toNat = some h)
  (hl : hexValue? second.toNat = some l) (hb : b.toNat = 16 * h + l)

include hh hl

theorem utf8_escape :
    utf8 ['%', first, second] = [0x25, UInt8.ofNat first.toNat, UInt8.ofNat second.toNat] := by
  have hfirst := utf8EncodeChar_of_ascii (hexValue?_bounds hh).1
  have hsecond := utf8EncodeChar_of_ascii (hexValue?_bounds hl).1
  have hpercent : String.utf8EncodeChar '%' = [0x25] := by decide
  simp [utf8, hfirst, hsecond, hpercent]

include hb

theorem escaped?_digits :
    escaped? 0x25 (UInt8.ofNat first.toNat) (UInt8.ofNat second.toNat) = some b := by
  rw [escaped?, if_pos (by decide), toNat_ofNat_of_hexValue? hh, toNat_ofNat_of_hexValue? hl, hh,
    hl]
  simp [← hb]

/-- An escape that is not kept reads as its byte. -/
theorem Reads.escape (hkept : kept b = false) : Reads kept (utf8 ['%', first, second]) [b] := by
  rw [utf8_escape hh hl]
  exact decode_escape (escaped?_digits hh hl hb) hkept

/-- An escape that is kept ends where it ends: its digits begin no other. -/
theorem Reads.keep (hkept : kept b = true) :
    Reads kept (utf8 ['%', first, second]) (utf8 ['%', first, second]) := by
  rw [utf8_escape hh hl]
  intro rest
  obtain ⟨-, hfirst, -⟩ := hexValue?_bounds hh
  obtain ⟨-, hsecond, -⟩ := hexValue?_bounds hl
  rw [← toNat_ofNat_of_hexValue? hh] at hfirst
  rw [← toNat_ofNat_of_hexValue? hl] at hsecond
  have hstay := decode_kept (escaped?_digits hh hl hb) hkept rest
  rwa [decode_cons_of_ne hfirst, decode_cons_of_ne hsecond] at hstay

end Digits

/-- **Escapes read as their bytes**, if none of those is kept. -/
theorem Reads.escapes {written : List Char} {bs : List UInt8} (h : Escapes written bs)
    (hkept : ∀ b ∈ bs, kept b = false) : Reads kept (utf8 written) bs := by
  induction h with
  | nil => exact .nil
  | @cons hi lo _ _ written b bs hh hl hb _ ih =>
    have hone : Reads kept (utf8 ['%', hi, lo]) [b] :=
      .escape hh hl hb (hkept b List.mem_cons_self)
    have hrest := ih fun c hc => hkept c (List.mem_cons_of_mem b hc)
    simpa [utf8] using hone.append hrest

end Percent

end StakeChain.Text
