/-
# Amounts as text

An amount is written in coins, with a point and exactly eight digits behind it.  It is read
more freely: blanks around it, a missing whole part or a missing fraction, fewer digits, leading
zeros of any number.  A text that is refused is reported as it was given.
-/
import StakeChain.Amount.Basic
import StakeChain.Json.Record
import StakeChain.Text.Blank

namespace StakeChain.Amount

/-- The digits of `n`, filled up with zeros in front to `width`. -/
def padded (width n : Nat) : List Char := (Nat.toDigits 10 n).leftpad width '0'

/-- The text of an amount: `2.00000000`. -/
def render (a : Amount) : String :=
  String.ofList (Nat.toDigits 10 (a.toNat / unitsPerCoin) ++
    '.' :: padded decimals (a.toNat % unitsPerCoin))

/-- A text that is not an amount. -/
structure Malformed where
  text : String
deriving DecidableEq, Repr

/-- The report of a text that is not an amount. -/
def Malformed.message (e : Malformed) : String := s!"invalid amount '{e.text}'"

/-- Whole coins: digits whose value fits in 64 bits, or no digits for none. -/
def coins? (whole : List Char) : Option UInt64 :=
  if whole = [] then some 0
  else ((Text.digits? whole).filter (· < UInt64.size)).map UInt64.ofNat

/-- A fraction of a coin in units: at most eight digits, filled up with zeros behind. -/
def fraction? (digits : List Char) : Option Nat :=
  if digits.length ≤ decimals then
    Text.digits? (digits ++ List.replicate (decimals - digits.length) '0')
  else none

/-- The amount that the characters denote. -/
def ofChars? (s : List Char) : Option Amount := do
  let t := Text.trim s
  let whole := t.takeWhile (· ≠ '.')
  let behind := (t.dropWhile (· ≠ '.')).drop 1
  if whole = [] ∧ behind = [] then none
  else
    let coins ← coins? whole
    let units ← fraction? behind
    let amount ← ofCoins? coins
    let rest ← ofNat? units
    amount.add? rest

/-- The amount that a text denotes. -/
def parse (s : String) : Except Malformed Amount :=
  match ofChars? s.toList with
  | some a => .ok a
  | none => .error ⟨s⟩

/-- An amount is a string in JSON. -/
def toJson (a : Amount) : Json := .text a.render

/-- The amount that a JSON string denotes. -/
def ofJson? (j : Json) : Option Amount := do
  let s ← j.text?
  ofChars? s.toList

end StakeChain.Amount
