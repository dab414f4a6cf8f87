/-
# Chains

A chain is a list of blocks that is never empty; its last block is the head.  It grows at the
head only (`append`), by a sealed block that extends the head and holds no forged transaction,
and the checks are made in that order.  `amend` is the one way past them: it replaces a stored
block without looking, which is what the integrity walk is there to find.
-/
import StakeChain.Block.Edit
import StakeChain.Error

namespace StakeChain

/-- Blocks from the first to the head. -/
structure Chain where
  blocks : List Block
  nonempty : blocks ≠ []

namespace Chain

/-- The chain of one block. -/
def single (b : Block) : Chain := ⟨[b], List.cons_ne_nil b []⟩

/-- The chain that holds its first block only. -/
def new (timestamp : Time) : Chain := single (.genesis timestamp)

/-- The latest block. -/
def head (c : Chain) : Block := c.blocks.getLast c.nonempty

/-- The first block. -/
def first (c : Chain) : Block := c.blocks.head c.nonempty

/-- The number of blocks. -/
def length (c : Chain) : Nat := c.blocks.length

/-- The chain with one more block, unchecked. -/
def push (c : Chain) (b : Block) : Chain := ⟨c.blocks ++ [b], by simp⟩

/-- The chain with one more block, when the block extends the head, carries the hash that its
content calls for and holds no forged transaction. -/
def append (c : Chain) (b : Block) : Except LedgerError Chain :=
  let expected := c.head.index + 1
  if b.index ≠ expected then .error (.wrongIndex expected b.index)
  else if b.previousHash ≠ c.head.hash then .error (.wrongPreviousHash c.head.hash b.previousHash)
  else if b.hash ≠ b.digest then .error (.wrongBlockHash b.index b.hash b.digest)
  else match b.forged? with
    | some tx => .error (.forgedTransaction b.index tx.txid)
    | none => .ok (c.push b)

/-- The chain after an offer: with the block when it can be appended, the same otherwise. -/
def offer (c : Chain) (b : Block) : Chain :=
  match c.append b with
  | .ok c' => c'
  | .error _ => c

/-- The block at a position. -/
def block (c : Chain) (index : UInt64) : Except LedgerError Block :=
  match c.blocks[index.toNat]? with
  | some b => .ok b
  | none => .error (.noSuchBlock index c.length)

/-- The chain with the block at a position replaced, unchecked. -/
def replace (c : Chain) (position : Nat) (b : Block) : Chain :=
  ⟨c.blocks.set position b, by
    intro h
    have := congrArg List.length h
    simp [c.nonempty] at this⟩

/-- The chain with the block at a position edited, unchecked. -/
def amend (c : Chain) (index : UInt64) (edit : Block.Edit) : Except LedgerError Chain := do
  let b ← c.block index
  .ok (c.replace index.toNat (edit.apply b))

@[simp] theorem blocks_push (c : Chain) (b : Block) : (c.push b).blocks = c.blocks ++ [b] := rfl

@[simp] theorem head_push (c : Chain) (b : Block) : (c.push b).head = b := by
  simp [head, push]

/-- **A block is appended exactly when it passes every check**, and the chain then ends in it. -/
theorem append_eq_ok_iff (c c' : Chain) (b : Block) :
    c.append b = .ok c' ↔
      (b.index = c.head.index + 1 ∧ b.previousHash = c.head.hash ∧ b.hash = b.digest ∧
        b.forged? = none) ∧ c' = c.push b := by
  by_cases hi : b.index = c.head.index + 1
  · by_cases hp : b.previousHash = c.head.hash
    · by_cases hd : b.hash = b.digest
      · cases hf : b.forged? <;> simp [append, hi, hp, hd, hf, eq_comm]
      · simp [append, hi, hp, hd]
    · simp [append, hi, hp]
  · simp [append, hi]

end Chain

end StakeChain
