/-
# Paths and queries

The path of a request is read in two steps.  First every escape is read except those of `%`, `/`
and `+`, and the result is split at its slashes: this is what routes are matched against, and an
escaped slash does not split.  Then each segment that a route hands on is read once more, with no
exceptions.  A path begins and ends with a slash and has no empty segment in between.

A query is a list of names and values in the form encoding: `+` is a blank and every escape is
read.
-/
import StakeChain.Text.Numeral
import StakeChain.Text.Percent
import StakeChain.Text.Utf8

namespace StakeChain.Http

/-- The path and the query of a target; a fragment is dropped. -/
def splitTarget (target : String) : List Char × List Char :=
  let s := target.toList.takeWhile (· ≠ '#')
  (s.takeWhile (· ≠ '?'), (s.dropWhile (· ≠ '?')).drop 1)

/-- The bytes that stay escaped until the path has been split. -/
def isSeparator (b : UInt8) : Bool := b == 0x25 || b == 0x2F || b == 0x2B

/-- The text of a path with its escapes read, separators kept escaped. -/
def decodePath (path : List Char) : List Char :=
  Text.ofBytes (Text.Percent.decode isSeparator (Text.bytes (String.ofList path)))

/-- The segments of a path, separators still escaped, when it begins and ends with a slash and
has no empty one. -/
def segments? (path : List Char) : Option (List String) :=
  match (decodePath path).splitOn '/' with
  | [] :: rest =>
    match rest.reverse with
    | [] :: inner => if [] ∈ inner then none else some (inner.reverse.map String.ofList)
    | _ => none
  | _ => none

/-- The text that a segment stands for. -/
def decodeSegment (segment : String) : String :=
  String.ofList (Text.ofBytes (Text.Percent.decodeAll (Text.bytes segment)))

/-! ## Queries -/

/-- The text of a name or a value in a query. -/
def decodeForm (piece : List Char) : List Char :=
  let spaced := piece.map fun c => if c = '+' then ' ' else c
  Text.ofBytes (Text.Percent.decodeAll (Text.bytes (String.ofList spaced)))

/-- The names and values of a query, in order. -/
def parameters (query : List Char) : List (List Char × List Char) :=
  ((query.splitOn '&').filter (· ≠ [])).map fun piece =>
    (decodeForm (piece.takeWhile (· ≠ '=')), decodeForm ((piece.dropWhile (· ≠ '=')).drop 1))

/-- The number that a query gives under a name, `none` within when it gives none; refused when
the name is given twice or its value is not a number. -/
def number? (name : String) (query : List Char) : Option (Option UInt64) :=
  match (parameters query).filter (fun p => p.1 = name.toList) with
  | [] => some none
  | [(_, value)] => (Text.uint64? value).map some
  | _ => none

end StakeChain.Http
