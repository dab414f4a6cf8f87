/-
# Transactions

A payload that the ledger does not interpret, and an identifier that is the digest of the
payload.  A record that arrives from elsewhere may carry another identifier; it is then forged.
-/
import StakeChain.Digest.Sha256
import StakeChain.Text.Utf8

namespace StakeChain

/-- A payload with its identifier. -/
structure Transaction where
  txid : String
  payload : String
deriving DecidableEq, Repr, Inhabited

namespace Transaction

/-- The identifier that belongs to a payload. -/
def idOf (payload : String) : String := Digest.Sha256.hex (Text.bytes payload)

/-- The transaction with this payload. -/
def ofPayload (payload : String) : Transaction := ⟨idOf payload, payload⟩

/-- The identifier is that of the payload. -/
def isConsistent (tx : Transaction) : Bool := tx.txid == idOf tx.payload

@[simp] theorem isConsistent_ofPayload (payload : String) :
    (ofPayload payload).isConsistent = true := by
  simp [isConsistent, ofPayload]

end Transaction

end StakeChain
