/-
# Blocks

A block carries transactions, names its producer and its predecessor's hash, and is sealed by
a hash over all of that.  What is hashed is `preimage`, a definition of its own: integers in
eight bytes, texts behind their length, transactions behind their count, so that two blocks
with different content are hashed from different bytes.  `digest` is the hash that the content
calls for, `hash` the one that the block carries.
-/
import StakeChain.Time
import StakeChain.Transaction

namespace StakeChain

/-- A block of transactions. -/
structure Block where
  index : UInt64
  timestamp : Time
  transactions : List Transaction
  previousHash : String
  hash : String
  producer : String
deriving DecidableEq, Repr, Inhabited

namespace Block

/-! ## What is hashed -/

/-- A text behind its length in bytes. -/
def textBytes (s : String) : List UInt8 :=
  let content := Text.bytes s
  Digest.bigEndian 8 content.length ++ content

/-- A transaction: its identifier, then its payload. -/
def transactionBytes (tx : Transaction) : List UInt8 := textBytes tx.txid ++ textBytes tx.payload

/-- The bytes that are hashed: everything but the hash. -/
def preimage (b : Block) : List UInt8 :=
  Digest.word64 b.index ++ Digest.word64 b.timestamp.toUInt64 ++ textBytes b.previousHash ++
    textBytes b.producer ++ Digest.bigEndian 8 b.transactions.length ++
    b.transactions.flatMap transactionBytes

/-- The hash that the content calls for. -/
def digest (b : Block) : String := Digest.Sha256.hex b.preimage

/-- The carried hash is the one that the content calls for. -/
def hasValidHash (b : Block) : Bool := b.hash == b.digest

/-- The first transaction whose identifier is not that of its payload. -/
def forged? (b : Block) : Option Transaction := b.transactions.find? fun tx => !tx.isConsistent

/-! ## Building blocks -/

/-- The block with the hash that its content calls for. -/
def reseal (b : Block) : Block := { b with hash := b.digest }

/-- A sealed block. -/
def sealed (index : UInt64) (timestamp : Time) (transactions : List Transaction)
    (previousHash producer : String) : Block :=
  reseal ⟨index, timestamp, transactions, previousHash, "", producer⟩

/-- The hash that the first block names as its predecessor's. -/
def genesisPreviousHash : String := "0"

/-- The producer of the first block. -/
def genesisProducer : String := "genesis"

/-- The first block of a chain. -/
def genesis (timestamp : Time) : Block :=
  sealed 0 timestamp [] genesisPreviousHash genesisProducer

/-- A sealed block on top of this one. -/
def next (parent : Block) (timestamp : Time) (transactions : List Transaction)
    (producer : String) : Block :=
  sealed (parent.index + 1) timestamp transactions parent.hash producer

/-- The hash does not depend on the hash carried. -/
@[simp] theorem digest_reseal (b : Block) : b.reseal.digest = b.digest := rfl

/-- A sealed block carries the hash that its content calls for. -/
theorem hash_sealed (index : UInt64) (timestamp : Time) (transactions : List Transaction)
    (previousHash producer : String) :
    (sealed index timestamp transactions previousHash producer).hash =
      (sealed index timestamp transactions previousHash producer).digest := by
  rw [sealed, digest_reseal]
  rfl

/-- There is no forged transaction when every identifier is that of its payload. -/
theorem forged?_eq_none_iff {b : Block} :
    b.forged? = none ↔ ∀ tx ∈ b.transactions, tx.isConsistent = true := by
  simp [forged?]

end Block

end StakeChain
