/-
# The integrity walk

What is wrong with a stored chain, block by block.  The first block has to be a first block;
every other block has to follow the one stored before it, in index and in hash; every block has
to carry the hash that its content calls for and no forged transaction.  A fault names the index
that the guilty block carries.

The walk looks at stored blocks only and knows nothing of how they came to be stored: `append`
makes the same checks in code of its own.
-/
import StakeChain.Chain.Basic

namespace StakeChain

/-- What is wrong with a block where it stands. -/
inductive FaultReason where
  /-- Not the shape of a first block. -/
  | badGenesis
  /-- The index does not follow the one before. -/
  | indexGap
  /-- The hash named as the predecessor's is another. -/
  | brokenLink
  /-- The carried hash is not the one that the content calls for. -/
  | hashMismatch
  /-- A transaction's identifier is not that of its payload. -/
  | badTransaction
deriving DecidableEq, Repr

/-- The word for a reason. -/
def FaultReason.label : FaultReason → String
  | .badGenesis => "bad_genesis"
  | .indexGap => "index_gap"
  | .brokenLink => "broken_link"
  | .hashMismatch => "hash_mismatch"
  | .badTransaction => "bad_transaction"

/-- A reason, and the index that the guilty block carries. -/
structure Fault where
  index : UInt64
  reason : FaultReason
deriving DecidableEq, Repr

namespace Fault

/-- The fault with this reason at a block, when the condition holds. -/
def when (condition : Bool) (b : Block) (reason : FaultReason) : List Fault :=
  if condition then [⟨b.index, reason⟩] else []

/-- What is wrong with a block by itself. -/
def ofContent (b : Block) : List Fault :=
  when (!b.hasValidHash) b .hashMismatch ++ when b.forged?.isSome b .badTransaction

/-- What is wrong with a first block. -/
def ofFirst (b : Block) : List Fault :=
  when (b.index != 0 || b.previousHash != Block.genesisPreviousHash) b .badGenesis ++ ofContent b

/-- What is wrong with a block behind another. -/
def ofLink (before b : Block) : List Fault :=
  when (b.index != before.index + 1) b .indexGap ++
    when (b.previousHash != before.hash) b .brokenLink ++ ofContent b

/-- What is wrong with the blocks behind a block, in order. -/
def ofTail (before : Block) : List Block → List Fault
  | [] => []
  | b :: rest => ofLink before b ++ ofTail b rest

end Fault

/-- Everything that is wrong with a list of blocks, in order. -/
def faults : List Block → List Fault
  | [] => []
  | b :: rest => Fault.ofFirst b ++ Fault.ofTail b rest

/-- Everything that is wrong with a chain, in order. -/
def Chain.faults (c : Chain) : List Fault := StakeChain.faults c.blocks

end StakeChain
