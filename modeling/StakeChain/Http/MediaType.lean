/-
# Media types

A JSON body is read only under a content type that says JSON: a media type whose subtype is
`json`, or whose structured suffix, the part behind the last `+` of the subtype, is.  The type
may be followed by parameters.  Letters count without case, and a content type that is not a
well-formed media type says nothing.
-/

namespace StakeChain.Http.MediaType

/-- The characters of a token: visible ASCII without separators. -/
def isToken (c : Char) : Bool :=
  let n := c.toNat
  c.isAlphanum || n == 0x21 || (0x23 ≤ n && n ≤ 0x27) || n == 0x2A || n == 0x2B || n == 0x2D ||
    n == 0x2E || (0x5E ≤ n && n ≤ 0x60) || n == 0x7C || n == 0x7E

/-- The characters inside a quoted value: ASCII other than controls. -/
def isQuotable (c : Char) : Bool := decide (0x20 ≤ c.toNat ∧ c.toNat ≤ 0x7E)

/-- Where a reader of parameters stands. -/
inductive Place where
  /-- Before the first character of a parameter's name. -/
  | nameStart
  /-- Inside the name. -/
  | name
  /-- Before the first character of the value. -/
  | valueStart
  /-- Inside a value that is a token. -/
  | value
  /-- Before the first character of a quoted value, which may be a quote itself. -/
  | quotedStart
  /-- Inside a quoted value. -/
  | quoted
  /-- Behind the closing quote, where blanks may stand. -/
  | closed

/-- The parameters behind the first semicolon are well formed. -/
def parametersOk : Place → List Char → Bool
  | .nameStart, [] => true
  | .nameStart, c :: rest =>
    if c = ' ' then parametersOk .nameStart rest
    else isToken c && parametersOk .name rest
  | .name, [] => false
  | .name, c :: rest =>
    if c = '=' then parametersOk .valueStart rest else isToken c && parametersOk .name rest
  | .valueStart, [] => true
  | .valueStart, c :: rest =>
    if c = '"' then parametersOk .quotedStart rest
    else isToken c && parametersOk .value rest
  | .value, [] => true
  | .value, c :: rest =>
    if c = ';' then parametersOk .nameStart rest else isToken c && parametersOk .value rest
  | .quotedStart, [] => false
  | .quotedStart, c :: rest => isQuotable c && parametersOk .quoted rest
  | .quoted, [] => false
  | .quoted, c :: rest =>
    if c = '"' then parametersOk .closed rest else isQuotable c && parametersOk .quoted rest
  | .closed, [] => true
  | .closed, c :: rest =>
    if c = ';' then parametersOk .nameStart rest else c = ' ' && parametersOk .closed rest

/-- The text without regard to the case of its letters. -/
def lower (s : List Char) : List Char := s.map Char.toLower

/-- The subtype says JSON: by itself, or by its suffix.  A `+` at its start opens no suffix. -/
def subtypeIsJson (subtype : List Char) : Bool :=
  let json := "json".toList
  match subtype with
  | [] => false
  | c :: rest =>
    let suffix := (rest.reverse.takeWhile (· ≠ '+')).reverse
    if suffix.length = rest.length then lower (c :: rest) == json
    else
      lower suffix == json || lower (c :: rest.take (rest.length - suffix.length - 1)) == json

/-- The content type is a media type that says JSON. -/
def isJson (contentType : String) : Bool :=
  let s := contentType.toList
  let top := s.takeWhile (· ≠ '/')
  match s.dropWhile (· ≠ '/') with
  | [] => false
  | _ :: rest =>
    let subtype := rest.takeWhile (· ≠ ';')
    let behind := rest.dropWhile (· ≠ ';')
    top ≠ [] && top.all isToken && subtype.all isToken && subtypeIsJson subtype &&
      parametersOk .nameStart (behind.drop 1)

end StakeChain.Http.MediaType
