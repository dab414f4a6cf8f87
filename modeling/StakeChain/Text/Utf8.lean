/-
# UTF-8

Digests and lengths are taken over the UTF-8 bytes of a text (`bytes`).  Bytes that come out of
percent-decoding need not be UTF-8, so reading them (`ofBytes`) never fails: each maximal piece
that starts a character and cannot be continued becomes one replacement character, and so does
each byte that cannot start one.  Main statement: a text is read back from its bytes
(`ofBytes_bytes`).
-/

namespace StakeChain.Text

/-- The UTF-8 bytes of a text. -/
def bytes (s : String) : List UInt8 := s.toByteArray.data.toList

/-- **A text is determined by its bytes.** -/
theorem bytes_inj {s t : String} : bytes s = bytes t ↔ s = t := by
  rw [bytes, bytes, Array.toList_inj, ← ByteArray.ext_iff, String.toByteArray_inj]

/-! ## Reading bytes that may not be UTF-8 -/

/-- The first bytes of a character: how many are still owed, between which bounds the next one
lies, and the bits read so far. -/
structure Opening where
  owed : Nat
  low : Nat
  high : Nat
  bits : Nat

/-- The character that stands for bytes that are not UTF-8. -/
def replacement : Char := '\uFFFD'

/-- A byte where a character may start: the characters it completes, and what it opens.  The
bounds keep out overlong forms, surrogates and values past the last code point. -/
def startWith (b : Nat) : List Char × Option Opening :=
  if b ≤ 0x7F then ([Char.ofNat b], none)
  else if 0xC2 ≤ b ∧ b ≤ 0xDF then ([], some ⟨1, 0x80, 0xBF, b - 0xC0⟩)
  else if b = 0xE0 then ([], some ⟨2, 0xA0, 0xBF, 0⟩)
  else if b = 0xED then ([], some ⟨2, 0x80, 0x9F, 0xD⟩)
  else if 0xE1 ≤ b ∧ b ≤ 0xEF then ([], some ⟨2, 0x80, 0xBF, b - 0xE0⟩)
  else if b = 0xF0 then ([], some ⟨3, 0x90, 0xBF, 0⟩)
  else if 0xF1 ≤ b ∧ b ≤ 0xF3 then ([], some ⟨3, 0x80, 0xBF, b - 0xF0⟩)
  else if b = 0xF4 then ([], some ⟨3, 0x80, 0x8F, 4⟩)
  else ([replacement], none)

/-- One more byte.  A byte that cannot continue what is open closes it with a replacement
character and is then read as a start. -/
def readByte (state : Option Opening) (b : Nat) : List Char × Option Opening :=
  match state with
  | none => startWith b
  | some o =>
    if o.low ≤ b ∧ b ≤ o.high then
      let bits := o.bits * 64 + (b - 0x80)
      if o.owed ≤ 1 then ([Char.ofNat bits], none) else ([], some ⟨o.owed - 1, 0x80, 0xBF, bits⟩)
    else
      let (out, next) := startWith b
      (replacement :: out, next)

/-- The characters of the remaining bytes, when `state` is open. -/
def readFrom (state : Option Opening) : List UInt8 → List Char
  | [] => if state.isSome then [replacement] else []
  | b :: rest =>
    let (out, next) := readByte state b.toNat
    out ++ readFrom next rest

/-- The characters of a byte string, replacement characters where it is not UTF-8. -/
def ofBytes (bs : List UInt8) : List Char := readFrom none bs

/-! ## Reading undoes encoding -/

theorem readFrom_ascii {b : Nat} (h : b ≤ 0x7F) (rest : List UInt8) :
    readFrom none (UInt8.ofNat b :: rest) = Char.ofNat b :: readFrom none rest := by
  have hb : (UInt8.ofNat b).toNat = b := UInt8.toNat_ofNat_of_lt' (Nat.lt_of_le_of_lt h (by decide))
  simp [readFrom, readByte, startWith, hb, h]

theorem readFrom_start {b : Nat} (hb : b < 256) {o : Opening} (h : startWith b = ([], some o))
    (rest : List UInt8) : readFrom none (UInt8.ofNat b :: rest) = readFrom (some o) rest := by
  have hn : (UInt8.ofNat b).toNat = b := UInt8.toNat_ofNat_of_lt' hb
  simp [readFrom, readByte, hn, h]

/-- The last byte that is owed completes the character. -/
theorem readFrom_last {low high bits b : Nat} (hb : b < 256) (hlow : low ≤ b) (hhigh : b ≤ high)
    (rest : List UInt8) :
    readFrom (some ⟨1, low, high, bits⟩) (UInt8.ofNat b :: rest) =
      Char.ofNat (bits * 64 + (b - 0x80)) :: readFrom none rest := by
  have hn : (UInt8.ofNat b).toNat = b := UInt8.toNat_ofNat_of_lt' hb
  simp [readFrom, readByte, hn, hlow, hhigh]

/-- A byte before the last leaves one fewer owed. -/
theorem readFrom_more {owed low high bits b : Nat} (hb : b < 256) (hlow : low ≤ b)
    (hhigh : b ≤ high) (rest : List UInt8) :
    readFrom (some ⟨owed + 2, low, high, bits⟩) (UInt8.ofNat b :: rest) =
      readFrom (some ⟨owed + 1, 0x80, 0xBF, bits * 64 + (b - 0x80)⟩) rest := by
  have hn : (UInt8.ofNat b).toNat = b := UInt8.toNat_ofNat_of_lt' hb
  simp [readFrom, readByte, hn, hlow, hhigh]

/-- The first of three bytes, and the bounds it sets for the second. -/
theorem startWith_three {v : Nat} (hmin : 0x800 ≤ v) (hmax : v < 0x10000)
    (hsurrogate : v < 0xD800 ∨ 0xDFFF < v) :
    ∃ low high, startWith (v / 4096 % 0x10 + 0xe0) = ([], some ⟨2, low, high, v / 4096⟩) ∧
      low ≤ v / 64 % 0x40 + 0x80 ∧ v / 64 % 0x40 + 0x80 ≤ high := by
  unfold startWith
  rw [if_neg (by omega), if_neg (by omega)]
  by_cases h0 : v / 4096 = 0
  · refine ⟨0xA0, 0xBF, ?_, by omega, by omega⟩
    rw [if_pos (by omega), h0]
  by_cases hd : v / 4096 = 0xD
  · refine ⟨0x80, 0x9F, ?_, by omega, by omega⟩
    rw [if_neg (by omega), if_pos (by omega), hd]
  · refine ⟨0x80, 0xBF, ?_, by omega, by omega⟩
    rw [if_neg (by omega), if_neg (by omega), if_pos (by omega),
      show v / 4096 % 0x10 + 0xe0 - 0xE0 = v / 4096 by omega]

/-- The first of four bytes, and the bounds it sets for the second. -/
theorem startWith_four {v : Nat} (hmin : 0x10000 ≤ v) (hmax : v < 0x110000) :
    ∃ low high, startWith (v / 262144 % 0x08 + 0xf0) = ([], some ⟨3, low, high, v / 262144⟩) ∧
      low ≤ v / 4096 % 0x40 + 0x80 ∧ v / 4096 % 0x40 + 0x80 ≤ high := by
  unfold startWith
  rw [if_neg (by omega), if_neg (by omega), if_neg (by omega), if_neg (by omega),
    if_neg (by omega)]
  by_cases h0 : v / 262144 = 0
  · refine ⟨0x90, 0xBF, ?_, by omega, by omega⟩
    rw [if_pos (by omega), h0]
  by_cases h4 : v / 262144 = 4
  · refine ⟨0x80, 0x8F, ?_, by omega, by omega⟩
    rw [if_neg (by omega), if_neg (by omega), if_pos (by omega), h4]
  · refine ⟨0x80, 0xBF, ?_, by omega, by omega⟩
    rw [if_neg (by omega), if_pos (by omega),
      show v / 262144 % 0x08 + 0xf0 - 0xF0 = v / 262144 by omega]

/-- **Reading undoes encoding**, one character at a time and whatever follows. -/
theorem ofBytes_encode_append (c : Char) (rest : List UInt8) :
    ofBytes (String.utf8EncodeChar c ++ rest) = c :: ofBytes rest := by
  have back : ∀ n, n = c.val.toNat → Char.ofNat n = c := by
    intro n h
    rw [h]
    exact Char.ofNat_toNat c
  have hvalid := c.valid
  simp only [UInt32.isValidChar, Nat.isValidChar] at hvalid
  unfold String.utf8EncodeChar ofBytes
  generalize c.val.toNat = v at *
  simp only
  split
  · rw [List.cons_append, List.nil_append, readFrom_ascii (by omega), back v rfl]
  split
  · have hs : startWith (v / 64 % 0x20 + 0xc0) = ([], some ⟨1, 0x80, 0xBF, v / 64⟩) := by
      unfold startWith
      rw [if_neg (by omega), if_pos (by omega),
        show v / 64 % 0x20 + 0xc0 - 0xC0 = v / 64 by omega]
    simp only [List.cons_append, List.nil_append]
    rw [readFrom_start (by omega) hs, readFrom_last (by omega) (by omega) (by omega),
      back _ (by omega)]
  split
  · obtain ⟨low, high, hs, hl, hh⟩ := startWith_three (v := v) (by omega) (by omega) (by omega)
    simp only [List.cons_append, List.nil_append]
    rw [readFrom_start (by omega) hs, readFrom_more (by omega) hl hh,
      readFrom_last (by omega) (by omega) (by omega), back _ (by omega)]
  · obtain ⟨low, high, hs, hl, hh⟩ := startWith_four (v := v) (by omega) (by omega)
    simp only [List.cons_append, List.nil_append]
    rw [readFrom_start (by omega) hs, readFrom_more (by omega) hl hh,
      readFrom_more (by omega) (by omega) (by omega),
      readFrom_last (by omega) (by omega) (by omega), back _ (by omega)]

/-- The bytes of a text are those of its characters, one after another. -/
theorem bytes_eq_flatMap (s : String) : bytes s = s.toList.flatMap String.utf8EncodeChar := by
  rw [bytes, ← String.utf8Encode_toList, List.utf8Encode, List.data_toByteArray]

theorem ofBytes_flatMap (cs : List Char) : ofBytes (cs.flatMap String.utf8EncodeChar) = cs := by
  induction cs with
  | nil => rfl
  | cons c cs ih => rw [List.flatMap_cons, ofBytes_encode_append, ih]

/-- **A text is read back from its bytes.** -/
theorem ofBytes_bytes (s : String) : ofBytes (bytes s) = s.toList := by
  rw [bytes_eq_flatMap, ofBytes_flatMap]

end StakeChain.Text
