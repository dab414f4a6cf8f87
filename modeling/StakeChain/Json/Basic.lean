/-
# JSON values

The values that requests carry and responses are made of.  Two choices keep what a reader of a
record needs to decide:

* a number is its spelling, because `0` is an integer and `0.0`, `0e0` and `-0` are not;
* the members of an object stand in the order written, repeated names included, because a
  record refuses a repeated field.

The text of a string literal, or of a member's name, is optional.  A literal whose escapes leave
half of a surrogate pair is well formed but denotes no text; it may stand where nothing reads it.
-/

namespace StakeChain

/-- A JSON value. -/
inductive Json where
  | null
  | bool (value : Bool)
  | num (spelling : String)
  | str (text : Option String)
  | arr (items : List Json)
  | obj (members : List (Option String × Json))
deriving Repr, Inhabited

namespace Json

/-- The string that denotes `s`. -/
def text (s : String) : Json := .str (some s)

/-- A natural number. -/
def nat (n : Nat) : Json := .num (toString n)

/-- An integer. -/
def int (i : Int) : Json := .num (toString i)

/-- The object with these members. -/
def record (fields : List (String × Json)) : Json :=
  .obj (fields.map fun f => (some f.1, f.2))

/-- The array of the values `f` gives. -/
def list {α : Type} (f : α → Json) (xs : List α) : Json := .arr (xs.map f)

/-- `null` for nothing. -/
def option {α : Type} (f : α → Json) : Option α → Json
  | none => .null
  | some a => f a

end Json

end StakeChain
