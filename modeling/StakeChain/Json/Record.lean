/-
# Records in JSON

A record is read from an object by the names of its fields, or from an array by their order.
In an object, members with other names are skipped, whatever they hold, but every name has to be
a text and no field may come twice.  An array may stop early and may not go on past the last
field.  What a missing field means is for the reader of the field to say.
-/
import StakeChain.Json.Basic
import StakeChain.Text.Numeral

namespace StakeChain.Json

/-! ## Fields -/

/-- How many members carry this name. -/
def occurrences (name : String) (members : List (Option String × Json)) : Nat :=
  members.countP fun m => m.1 = some name

/-- The value of the first member with this name. -/
def member? (name : String) (members : List (Option String × Json)) : Option Json :=
  (members.find? fun m => m.1 = some name).map (·.2)

/-- The values of the fields called `names`, in that order, where they are present. -/
def fields? (names : List String) : Json → Option (List (Option Json))
  | .obj members =>
    if members.all (fun m => m.1.isSome) ∧ names.all (fun n => occurrences n members ≤ 1) then
      some (names.map fun n => member? n members)
    else none
  | .arr items =>
    if items.length ≤ names.length then
      some (items.map some ++ List.replicate (names.length - items.length) none)
    else none
  | _ => none

/-! ## Values of fields -/

/-- A text. -/
def text? : Json → Option String
  | .str t => t
  | _ => none

/-- A truth value. -/
def bool? : Json → Option Bool
  | .bool b => some b
  | _ => none

/-- An integer below `2 ^ 64`, spelled with digits only. -/
def uint64? : Json → Option UInt64
  | .num spelling => ((Text.digits? spelling.toList).filter (· < UInt64.size)).map UInt64.ofNat
  | _ => none

/-- An integer of 64 bits with its sign, spelled with digits only; zero has no sign. -/
def int64? : Json → Option Int64
  | .num spelling =>
    match spelling.toList with
    | '-' :: digits =>
      ((Text.digits? digits).filter fun n => 0 < n ∧ n ≤ Text.int64Bound).map fun n =>
        Int64.ofInt (-(n : Int))
    | digits => ((Text.digits? digits).filter (· < Text.int64Bound)).map fun n => Int64.ofInt n
  | _ => none

/-- An array whose items `f` reads. -/
def list? {α : Type} (f : Json → Option α) : Json → Option (List α)
  | .arr items => items.mapM f
  | _ => none

/-- `null`, or what `f` reads. -/
def option? {α : Type} (f : Json → Option α) : Json → Option (Option α)
  | .null => some none
  | other => (f other).map some

end StakeChain.Json
