/-
# Writing JSON

The text of a value: no blanks, members in order.  In a string a quote, a backslash and the
control characters are escaped and all else stands as it is.
-/
import StakeChain.Json.Basic
import StakeChain.Text.Hex

namespace StakeChain.Json

/-- How a character is written inside a string literal. -/
def escapeChar (c : Char) : List Char :=
  if c = '"' then ['\\', '"']
  else if c = '\\' then ['\\', '\\']
  else if c.toNat < 0x20 then
    ['\\', 'u', '0', '0', Text.hexDigit (c.toNat / 16), Text.hexDigit (c.toNat % 16)]
  else [c]

/-- The string literal that denotes `s`. -/
def quote (s : String) : String := String.ofList ('"' :: s.toList.flatMap escapeChar ++ ['"'])

/-- The literal of an optional text; a literal that denotes none is written as `null`. -/
def quote? : Option String → String
  | some s => quote s
  | none => "null"

mutual

/-- The text of a value. -/
def render : Json → String
  | .null => "null"
  | .bool true => "true"
  | .bool false => "false"
  | .num spelling => spelling
  | .str text => quote? text
  | .arr items => "[" ++ ",".intercalate (renderItems items) ++ "]"
  | .obj members => "\x7b" ++ ",".intercalate (renderMembers members) ++ "\x7d"

/-- The texts of the items of an array. -/
def renderItems : List Json → List String
  | [] => []
  | item :: rest => render item :: renderItems rest

/-- The texts of the members of an object. -/
def renderMembers : List (Option String × Json) → List String
  | [] => []
  | (name, value) :: rest => (quote? name ++ ":" ++ render value) :: renderMembers rest

end

end StakeChain.Json
