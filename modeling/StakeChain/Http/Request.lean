/-
# Requests and responses

A request is what arrives behind the base path: a method, a path with its query, a content type
if there is one, and a body.  A response is a status and a body; what the service refuses before
a request reaches the ledger has no body.
-/
import StakeChain.Error
import StakeChain.Json.Basic

namespace StakeChain.Http

/-- A request. -/
structure Request where
  method : String
  /-- Path and query behind the base path, percent-encoded. -/
  path : String
  contentType : Option String
  body : String

/-- The body of a response. -/
inductive Body where
  | none
  | text (content : String)
  | json (content : Json)

/-- A response. -/
structure Response where
  status : Nat
  body : Body

namespace Response

/-- A successful answer. -/
def ok (content : Json) : Response := ⟨200, .json content⟩

/-- A successful answer that made something. -/
def created (content : Json) : Response := ⟨201, .json content⟩

/-- A request that cannot be read. -/
def badRequest : Response := ⟨400, .none⟩

/-- A request that nothing answers. -/
def notFound : Response := ⟨404, .none⟩

/-- The status of a refusal, by its class. -/
def statusOf : ErrorKind → Nat
  | .validation => 400
  | .notFound => 404
  | .conflict => 409
  | .state => 422

/-- A refusal by the ledger. -/
def refused (e : LedgerError) : Response :=
  ⟨statusOf e.kind,
    .json (.record [("error", .text e.message), ("kind", .text e.kind.label)])⟩

/-- Whatever the cause, a refusal blames the request. -/
theorem status_refused (e : LedgerError) :
    400 ≤ (refused e).status ∧ (refused e).status < 500 := by
  show 400 ≤ statusOf e.kind ∧ statusOf e.kind < 500
  cases e.kind <;> decide

/-- A refusal by the ledger, or what is made of its answer. -/
def ofResult {α : Type} (accept : α → Response) : Except LedgerError α → Response
  | .ok a => accept a
  | .error e => refused e

/-- The status says that the request succeeded. -/
def isSuccess (r : Response) : Bool := decide (200 ≤ r.status ∧ r.status < 300)

end Response

end StakeChain.Http
