/-
# What request bodies ask for

Each body is a record with the fields named here, all of them required except the transactions
of a production request, which may be missing or `null`.
-/
import StakeChain.Amount.Text
import StakeChain.Block.Json

namespace StakeChain.Http.Payload

/-- Payloads to seal into a block, or nothing for what waits in the mempool. -/
def production? (j : Json) : Option (Option (List String)) := do
  match ← j.fields? ["transactions"] with
  | [some payloads] => payloads.option? (Json.list? Json.text?)
  | [none] => some none
  | _ => none

/-- A payload to submit. -/
def submission? (j : Json) : Option String := do
  match ← j.fields? ["payload"] with
  | [some payload] => payload.text?
  | _ => none

/-- A validator to register: identifier and stake. -/
def registration? (j : Json) : Option (String × Amount) := do
  match ← j.fields? ["identifier", "stake"] with
  | [some identifier, some stake] => some (← identifier.text?, ← Amount.ofJson? stake)
  | _ => none

/-- The administrative flag to set. -/
def activation? (j : Json) : Option Bool := do
  match ← j.fields? ["active"] with
  | [some active] => active.bool?
  | _ => none

/-- A stake to open: owner and amount. -/
def opening? (j : Json) : Option (String × Amount) := do
  match ← j.fields? ["owner", "amount"] with
  | [some owner, some amount] => some (← owner.text?, ← Amount.ofJson? amount)
  | _ => none

/-- An amount to add to a stake. -/
def increase? (j : Json) : Option Amount := do
  match ← j.fields? ["amount"] with
  | [some amount] => Amount.ofJson? amount
  | _ => none

end StakeChain.Http.Payload
