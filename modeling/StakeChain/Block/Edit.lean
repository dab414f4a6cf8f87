/-
# Edited blocks

A block derived from another by replacing some of its fields: a candidate that somebody
proposes, or a stored block that somebody tampers with.  Whether the result is sealed again, and
whether it carries a hash of its own choosing, is part of the edit.
-/
import StakeChain.Block.Basic

namespace StakeChain.Block

/-- What to change in a block, applied in the order of the fields. -/
structure Edit where
  index : Option UInt64 := none
  timestamp : Option Time := none
  /-- Other transactions in place of the block's. -/
  transactions : Option (List Transaction) := none
  /-- Transactions to add behind. -/
  push : List Transaction := []
  previousHash : Option String := none
  producer : Option String := none
  /-- Compute the hash anew from the edited content. -/
  reseal : Bool := false
  /-- The hash to carry, whatever the content. -/
  hash : Option String := none

/-- The block after an edit. -/
def Edit.apply (e : Edit) (b : Block) : Block :=
  let content : Block :=
    { b with
      index := e.index.getD b.index
      timestamp := e.timestamp.getD b.timestamp
      transactions := e.transactions.getD b.transactions ++ e.push
      previousHash := e.previousHash.getD b.previousHash
      producer := e.producer.getD b.producer }
  let hashed := if e.reseal then content.reseal else content
  { hashed with hash := e.hash.getD hashed.hash }

@[simp] theorem Edit.index_apply (e : Edit) (b : Block) :
    (e.apply b).index = e.index.getD b.index := by
  unfold Edit.apply
  split <;> rfl

end StakeChain.Block
