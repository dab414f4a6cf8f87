/-
# Blocks in JSON

A block and its transactions are records: every field is required, in the order of the type when
the record is written as an array.
-/
import StakeChain.Block.Basic
import StakeChain.Json.Record

namespace StakeChain

/-- A transaction as a JSON object. -/
def Transaction.toJson (tx : Transaction) : Json :=
  .record [("txid", .text tx.txid), ("payload", .text tx.payload)]

/-- The transaction that a JSON record denotes; the identifier is taken as it is. -/
def Transaction.ofJson? (j : Json) : Option Transaction := do
  match ← j.fields? ["txid", "payload"] with
  | [some txid, some payload] => some ⟨← txid.text?, ← payload.text?⟩
  | _ => none

/-- A block as a JSON object. -/
def Block.toJson (b : Block) : Json :=
  .record [
    ("index", .nat b.index.toNat),
    ("timestamp", .int b.timestamp.toInt),
    ("transactions", .list Transaction.toJson b.transactions),
    ("previous_hash", .text b.previousHash),
    ("hash", .text b.hash),
    ("producer", .text b.producer)]

/-- The fields of a block, in order. -/
def Block.fieldNames : List String :=
  ["index", "timestamp", "transactions", "previous_hash", "hash", "producer"]

/-- The block that a JSON record denotes; the hash is taken as it is. -/
def Block.ofJson? (j : Json) : Option Block := do
  match ← j.fields? Block.fieldNames with
  | [some index, some timestamp, some transactions, some previousHash, some hash, some producer] =>
    some {
      index := ← index.uint64?
      timestamp := ← timestamp.int64?
      transactions := ← transactions.list? Transaction.ofJson?
      previousHash := ← previousHash.text?
      hash := ← hash.text?
      producer := ← producer.text? }
  | _ => none

end StakeChain
