/-
# Percent-encoding

A byte of a path or of a query may be written as `%` and two hexadecimal digits.  `decode`
reads such escapes, except those of the bytes it is told to keep: a path is first read with the
separators kept escaped, so that an escaped `/` does not split a segment, and each segment is
then read with nothing kept.  A `%` that is not followed by two digits stands for itself.
-/
import StakeChain.Text.Hex

namespace StakeChain.Text.Percent

/-- The byte that three bytes escape, when they are `%` and two hexadecimal digits. -/
def escaped? (mark hi lo : UInt8) : Option UInt8 :=
  if mark.toNat = 0x25 then
    match hexValue? hi.toNat, hexValue? lo.toNat with
    | some h, some l => some (UInt8.ofNat (16 * h + l))
    | _, _ => none
  else none

/-- The bytes with each escape read, save those whose byte is `kept`. -/
def decode (kept : UInt8 → Bool) : List UInt8 → List UInt8
  | a :: hi :: lo :: rest =>
    match (escaped? a hi lo).filter (fun b => !kept b) with
    | some b => b :: decode kept rest
    | none => a :: decode kept (hi :: lo :: rest)
  | short => short

/-- The bytes with every escape read. -/
def decodeAll (bs : List UInt8) : List UInt8 := decode (fun _ => false) bs

end StakeChain.Text.Percent
