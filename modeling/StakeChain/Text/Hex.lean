/-
# Hexadecimal digits

Digests are written as lower-case hexadecimal, two digits a byte.  `hexDigit` gives the digit
of a value below sixteen and `hexValue?` reads one back, in either case.  The main statement
is `toHex_inj`: two byte strings with the same hexadecimal text are equal, so comparing texts
of digests compares the digests.
-/

namespace StakeChain.Text

/-- The lower-case digit of a value below sixteen. -/
def hexDigit (n : Nat) : Char :=
  if n < 10 then Char.ofNat (0x30 + n) else Char.ofNat (0x57 + n)

/-- The value of the hexadecimal digit with this code point, upper or lower case. -/
def hexValue? (code : Nat) : Option Nat :=
  if 0x30 ≤ code ∧ code ≤ 0x39 then some (code - 0x30)
  else if 0x61 ≤ code ∧ code ≤ 0x66 then some (code - 0x57)
  else if 0x41 ≤ code ∧ code ≤ 0x46 then some (code - 0x37)
  else none

/-- The two digits of a byte, the high half first. -/
def hexPair (b : UInt8) : List Char := [hexDigit (b.toNat / 16), hexDigit (b.toNat % 16)]

/-- The digits of a byte string. -/
def hexDigits (bytes : List UInt8) : List Char := bytes.flatMap hexPair

/-- The hexadecimal text of a byte string. -/
def toHex (bytes : List UInt8) : String := String.ofList (hexDigits bytes)

/-- A digit reads back as its value. -/
theorem hexValue?_hexDigit {n : Nat} (h : n < 16) : hexValue? (hexDigit n).toNat = some n := by
  have all : ∀ k : Fin 16, hexValue? (hexDigit k).toNat = some (k : Nat) := by decide
  exact all ⟨n, h⟩

theorem hexDigit_inj {m n : Nat} (hm : m < 16) (hn : n < 16) (h : hexDigit m = hexDigit n) :
    m = n := by
  have := congrArg (fun c => hexValue? c.toNat) h
  simpa [hexValue?_hexDigit hm, hexValue?_hexDigit hn] using this

theorem hexDigits_inj : ∀ {xs ys : List UInt8}, hexDigits xs = hexDigits ys → xs = ys
  | [], [], _ => rfl
  | [], _ :: _, h => by simp [hexDigits, hexPair] at h
  | _ :: _, [], h => by simp [hexDigits, hexPair] at h
  | x :: xs, y :: ys, h => by
    have hx := x.toNat_lt
    have hy := y.toNat_lt
    simp only [hexDigits, hexPair, List.flatMap_cons, List.cons_append, List.nil_append,
      List.cons.injEq] at h
    obtain ⟨h1, h2, h3⟩ := h
    have e1 := hexDigit_inj (by omega) (by omega) h1
    have e2 := hexDigit_inj (Nat.mod_lt _ (by decide)) (Nat.mod_lt _ (by decide)) h2
    have hxy : x = y := UInt8.toNat_inj.mp (by omega)
    rw [hxy, hexDigits_inj h3]

/-- **Hexadecimal text determines the bytes.** -/
theorem toHex_inj {xs ys : List UInt8} (h : toHex xs = toHex ys) : xs = ys :=
  hexDigits_inj (String.ofList_inj.mp h)

end StakeChain.Text
