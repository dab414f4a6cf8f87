/-
# Quoted texts

A message that reports a refused value shows it between double quotes.  Inside, a quote and a
backslash are written with a backslash in front, four control characters by a letter, every
other unprinted character by its code point in hexadecimal, and all else as it is.
-/
import StakeChain.Text.Unprinted

namespace StakeChain.Text.Quoted

/-- A character shown by its code point: lower-case digits, no padding. -/
def byCodePoint (c : Char) : List Char :=
  ['\\', 'u', '\x7b'] ++ Nat.toDigits 16 c.toNat ++ ['\x7d']

/-- How a character is written inside quotes. -/
def encodeChar (c : Char) : List Char :=
  if c = '"' then ['\\', '"']
  else if c = '\\' then ['\\', '\\']
  else if c = '\n' then ['\\', 'n']
  else if c = '\r' then ['\\', 'r']
  else if c = '\t' then ['\\', 't']
  else if c = '\x00' then ['\\', '0']
  else if isUnprinted c then byCodePoint c
  else [c]

/-- The text between double quotes. -/
def encode (s : String) : String :=
  String.ofList ('"' :: s.toList.flatMap encodeChar ++ ['"'])

end StakeChain.Text.Quoted
