/-
# Proposed blocks

A block described relative to a chain: a stored block, or a fresh one without transactions on top
of a stored block, and what to change in it.  The proposer of a fresh block is called `A` unless
the changes say otherwise.
-/
import StakeChain.Chain.Basic

namespace StakeChain

/-- Where a proposed block starts from. -/
inductive Proposal.Base where
  /-- The stored block at a position. -/
  | stored (index : UInt64)
  /-- A fresh block on the stored block at a position, or on the head. -/
  | onto (parent : Option UInt64)

/-- A block described relative to a chain. -/
structure Proposal where
  base : Proposal.Base
  edit : Block.Edit

namespace Proposal

/-- The producer of a fresh block. -/
def proposer : String := "A"

/-- The block to start from. -/
def Base.block (c : Chain) (now : Time) : Base → Except LedgerError Block
  | stored index => c.block index
  | onto none => .ok (c.head.next now [] proposer)
  | onto (some index) => (c.block index).map fun parent => parent.next now [] proposer

/-- The block that a proposal describes. -/
def block (p : Proposal) (c : Chain) (now : Time) : Except LedgerError Block :=
  (p.base.block c now).map p.edit.apply

end Proposal

end StakeChain
