/-
# Reading JSON

`Json.read` accepts one JSON value with blanks around it and nothing else.  It is stricter than
most readers in three ways: a number has no leading zeros and a digit on each side of its point,
a raw control character inside a string is refused, and nothing may follow a trailing comma.
Escapes that leave half of a surrogate pair are the one thing it leaves to whoever reads the
string: such a literal has no text.

The reader is a recursive descent on the remaining characters.  Every two steps consume a
character, so twice the length of the text bounds its depth.
-/
import StakeChain.Json.Basic
import StakeChain.Text.Hex

namespace StakeChain.Json.Reader

/-- The blanks between the parts of a value. -/
def isSpace (c : Char) : Bool := c = ' ' || c = '\n' || c = '\t' || c = '\r'

/-- The text after any blanks. -/
def skipSpace (s : List Char) : List Char := s.dropWhile isSpace

/-! ## Numbers -/

/-- One digit or more, and the text after them. -/
def someDigits? (s : List Char) : Option (List Char × List Char) :=
  if s.takeWhile Char.isDigit = [] then none
  else some (s.takeWhile Char.isDigit, s.dropWhile Char.isDigit)

/-- A lone zero, or digits that do not start with one. -/
def whole? : List Char → Option (List Char × List Char)
  | '0' :: rest => some (['0'], rest)
  | s => someDigits? s

/-- An optional point with digits behind it. -/
def fraction? : List Char → Option (List Char × List Char)
  | '.' :: rest => (someDigits? rest).map fun (digits, after) => ('.' :: digits, after)
  | s => some ([], s)

/-- The optional sign of an exponent. -/
def exponentSign : List Char → List Char × List Char
  | '+' :: rest => (['+'], rest)
  | '-' :: rest => (['-'], rest)
  | s => ([], s)

/-- An optional exponent. -/
def exponent? : List Char → Option (List Char × List Char)
  | [] => some ([], [])
  | mark :: rest =>
    if mark = 'e' ∨ mark = 'E' then
      let (sign, unsigned) := exponentSign rest
      (someDigits? unsigned).map fun (digits, after) => (mark :: sign ++ digits, after)
    else some ([], mark :: rest)

/-- The parts of a number after its sign. -/
def magnitude? (s : List Char) : Option (List Char × List Char) := do
  let (w, s) ← whole? s
  let (f, s) ← fraction? s
  let (e, s) ← exponent? s
  some (w ++ f ++ e, s)

/-- The spelling of a number, and the text after it. -/
def number? : List Char → Option (List Char × List Char)
  | '-' :: rest => (magnitude? rest).map fun (m, after) => ('-' :: m, after)
  | s => magnitude? s

/-! ## Strings -/

/-- What one character or escape of a literal contributes. -/
inductive Piece where
  | char (c : Char)
  /-- Half of a surrogate pair, between `0xD800` and `0xDFFF`. -/
  | half (unit : Nat)

/-- The character that a one-letter escape stands for. -/
def escaped? : Char → Option Char
  | '"' => some '"'
  | '\\' => some '\\'
  | '/' => some '/'
  | 'b' => some '\x08'
  | 'f' => some '\x0c'
  | 'n' => some '\n'
  | 'r' => some '\r'
  | 't' => some '\t'
  | _ => none

/-- The piece that four hexadecimal digits stand for. -/
def unit? (a b c d : Char) : Option Piece := do
  let a ← Text.hexValue? a.toNat
  let b ← Text.hexValue? b.toNat
  let c ← Text.hexValue? c.toNat
  let d ← Text.hexValue? d.toNat
  let n := ((a * 16 + b) * 16 + c) * 16 + d
  some (if 0xD800 ≤ n ∧ n ≤ 0xDFFF then .half n else .char (Char.ofNat n))

/-- The pieces of a literal up to its closing quote, and the text after the quote. -/
def pieces? : List Char → Option (List Piece × List Char)
  | [] => none
  | '"' :: rest => some ([], rest)
  | '\\' :: 'u' :: a :: b :: c :: d :: rest => do
    let piece ← unit? a b c d
    let (pieces, after) ← pieces? rest
    some (piece :: pieces, after)
  | '\\' :: letter :: rest => do
    let c ← escaped? letter
    let (pieces, after) ← pieces? rest
    some (.char c :: pieces, after)
  | c :: rest =>
    if c.toNat < 0x20 then none
    else do
      let (pieces, after) ← pieces? rest
      some (.char c :: pieces, after)

/-- The characters of a literal: a high half joins the low half right behind it, and any other
half leaves the literal without a text. -/
def join? : List Piece → Option (List Char)
  | [] => some []
  | .char c :: rest => (join? rest).map (c :: ·)
  | .half hi :: .half lo :: rest =>
    if hi < 0xDC00 ∧ 0xDC00 ≤ lo then
      (join? rest).map (Char.ofNat (0x10000 + (hi - 0xD800) * 0x400 + (lo - 0xDC00)) :: ·)
    else none
  | .half _ :: _ => none

/-- The text of the literal whose opening quote has been read, and what follows it. -/
def literal? (s : List Char) : Option (Option String × List Char) :=
  (pieces? s).map fun (pieces, after) => ((join? pieces).map String.ofList, after)

/-! ## Values -/

mutual

/-- One value, after any blanks. -/
def value? : Nat → List Char → Option (Json × List Char)
  | 0, _ => none
  | depth + 1, s =>
    match skipSpace s with
    | 'n' :: 'u' :: 'l' :: 'l' :: rest => some (.null, rest)
    | 't' :: 'r' :: 'u' :: 'e' :: rest => some (.bool true, rest)
    | 'f' :: 'a' :: 'l' :: 's' :: 'e' :: rest => some (.bool false, rest)
    | '"' :: rest => (literal? rest).map fun (text, after) => (.str text, after)
    | '[' :: rest =>
      match skipSpace rest with
      | ']' :: after => some (.arr [], after)
      | _ => (items? depth rest).map fun (items, after) => (.arr items, after)
    | '\x7b' :: rest =>
      match skipSpace rest with
      | '\x7d' :: after => some (.obj [], after)
      | _ => (members? depth rest).map fun (members, after) => (.obj members, after)
    | other => (number? other).map fun (spelling, after) => (.num (String.ofList spelling), after)

/-- The items of an array that has at least one, through the closing bracket. -/
def items? : Nat → List Char → Option (List Json × List Char)
  | 0, _ => none
  | depth + 1, s => do
    let (item, s) ← value? depth s
    match skipSpace s with
    | ']' :: after => some ([item], after)
    | ',' :: rest =>
      let (items, after) ← items? depth rest
      some (item :: items, after)
    | _ => none

/-- The members of an object that has at least one, through the closing brace. -/
def members? : Nat → List Char → Option (List (Option String × Json) × List Char)
  | 0, _ => none
  | depth + 1, s => do
    let (name, s) ← match skipSpace s with
      | '"' :: rest => literal? rest
      | _ => none
    let (value, s) ← match skipSpace s with
      | ':' :: rest => value? depth rest
      | _ => none
    match skipSpace s with
    | '\x7d' :: after => some ([(name, value)], after)
    | ',' :: rest =>
      let (members, after) ← members? depth rest
      some ((name, value) :: members, after)
    | _ => none

end

end Reader

/-- The value that a text denotes, when it is one JSON value and nothing else. -/
def read (text : String) : Option Json :=
  let s := text.toList
  match Reader.value? (2 * s.length + 2) s with
  | some (value, after) => if Reader.skipSpace after = [] then some value else none
  | none => none

end StakeChain.Json
