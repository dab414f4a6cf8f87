/-
# Where a chain without faults comes from

The walk asks of every block behind another what the chain asks before it appends one.  So a chain
without faults is its first block with blocks appended to it (`Chain.faults_eq_nil_iff_extends`),
and all that the walk knows of its origin is what it asks of a first block: the index, the hash
named as the predecessor's, the carried hash and the identifiers of the transactions.

It does not ask for the producer, and it does not ask that there are no transactions.  A first
block with another producer, or with transactions of its own, is accepted once it is sealed again,
although no chain begins with it (`Chain.walk_accepts_resealed_first_block`).

Main statement: `Chain.walk_accepts_iff_grown`.  The walk accepts exactly the chains that were
appended to a sealed block 0 of anybody's making, and such a chain is one that was begun by `new`
exactly when its first block is empty and names the producer of a first block.
-/
import StakeChain.Proofs.Chain.Integrity

namespace StakeChain

/-! ## 1. First blocks -/

/-- The walk accepts a first block when it is a sealed block 0 without a forged transaction,
whoever produced it and whatever it holds. -/
theorem Fault.ofFirst_eq_nil_iff_sealed {b : Block} :
    Fault.ofFirst b = [] ↔
      b = .sealed 0 b.timestamp b.transactions Block.genesisPreviousHash b.producer ∧
        ∀ tx ∈ b.transactions, tx.isConsistent = true := by
  rw [Fault.ofFirst_eq_nil_iff, Block.forged?_eq_none_iff]
  constructor
  · rintro ⟨⟨hindex, hprevious⟩, hhash, hforged⟩
    refine ⟨?_, hforged⟩
    obtain ⟨index, timestamp, transactions, previousHash, hash, producer⟩ := b
    cases hindex
    cases hprevious
    rw [Block.sealed, Block.reseal, Block.mk.injEq]
    exact ⟨rfl, rfl, rfl, rfl, hhash, rfl⟩
  · rintro ⟨hsealed, hforged⟩
    refine ⟨⟨?_, ?_⟩, ?_, hforged⟩
    · rw [hsealed]; rfl
    · rw [hsealed]; rfl
    · rw [hsealed]; exact Block.hash_sealed ..

namespace Chain

@[simp] theorem first_push (c : Chain) (b : Block) : (c.push b).first = c.first := by
  simp [first, push, List.head_append_of_ne_nil c.nonempty]

/-- Appends leave the first block alone. -/
theorem Extends.first {c d : Chain} (h : c.Extends d) : d.first = c.first := by
  induction h with
  | refl => rfl
  | append _ hb ih =>
    obtain ⟨-, rfl⟩ := (append_eq_ok_iff _ _ _).mp hb
    rw [first_push, ih]

/-! ## 2. Chains without faults -/

/-- **A chain has no faults exactly when its first block has none and the others were appended to
it.**  The induction is on the chain; what the walk asks of its last block is what `append` asks. -/
theorem faults_eq_nil_iff_extends (c : Chain) :
    c.faults = [] ↔ Fault.ofFirst c.first = [] ∧ (single c.first).Extends c := by
  constructor
  · intro hc
    induction c using push_induction with
    | single b =>
      rw [faults_single] at hc
      exact ⟨hc, .refl⟩
    | push c b ih =>
      rw [faults_push, List.append_eq_nil_iff] at hc
      obtain ⟨hfirst, hextends⟩ := ih hc.1
      rw [first_push]
      exact ⟨hfirst, hextends.append ((append_eq_ok_iff_ofLink _ _ _).mpr ⟨hc.2, rfl⟩)⟩
  · rintro ⟨hfirst, hextends⟩
    exact hextends.faults_eq_nil ((faults_single c.first).trans hfirst)

/-- A chain was begun at `t` exactly when it has no faults and its first block is the first block
of that time. -/
theorem extends_new_iff {t : Time} {c : Chain} :
    (Chain.new t).Extends c ↔ c.faults = [] ∧ c.first = .genesis t := by
  constructor
  · intro h
    exact ⟨h.faults_eq_nil (faults_new t), h.first⟩
  · rintro ⟨hc, hfirst⟩
    have hextends := ((faults_eq_nil_iff_extends c).mp hc).2
    rw [hfirst] at hextends
    exact hextends

/-- What the walk leaves unasked: among the chains without faults, those begun by `new` are the ones
whose first block is empty and names the producer of a first block. -/
theorem exists_extends_new_iff (c : Chain) :
    (∃ t, (Chain.new t).Extends c) ↔
      c.faults = [] ∧ c.first.transactions = [] ∧ c.first.producer = Block.genesisProducer := by
  constructor
  · rintro ⟨t, ht⟩
    obtain ⟨hc, hfirst⟩ := extends_new_iff.mp ht
    rw [hfirst]
    exact ⟨hc, rfl, rfl⟩
  · rintro ⟨hc, htransactions, hproducer⟩
    obtain ⟨hfirst, -⟩ := (faults_eq_nil_iff_extends c).mp hc
    obtain ⟨hsealed, -⟩ := Fault.ofFirst_eq_nil_iff_sealed.mp hfirst
    rw [htransactions, hproducer] at hsealed
    exact ⟨c.first.timestamp, extends_new_iff.mpr ⟨hc, hsealed⟩⟩

/-- **The walk accepts exactly the chains that grew from a sealed block 0**, by successful appends
and with no forged transaction in that block, whoever produced it and whatever it holds.  The chains
that were begun by `new` are those of them whose first block is empty and names the producer of a
first block.  So having no faults and having been begun by `new` come to the same exactly as long
as no first block that is otherwise in order holds transactions or names another producer. -/
theorem walk_accepts_iff_grown (c : Chain) :
    (c.faults = [] ↔
        c.first = .sealed 0 c.first.timestamp c.first.transactions Block.genesisPreviousHash
            c.first.producer ∧
          (∀ tx ∈ c.first.transactions, tx.isConsistent = true) ∧
          (single c.first).Extends c) ∧
      ((∃ t, (Chain.new t).Extends c) ↔
        c.faults = [] ∧ c.first.transactions = [] ∧ c.first.producer = Block.genesisProducer) ∧
      ((c.faults = [] ↔ ∃ t, (Chain.new t).Extends c) ↔
        (c.faults = [] →
          c.first.transactions = [] ∧ c.first.producer = Block.genesisProducer)) := by
  have hbegun := exists_extends_new_iff c
  refine ⟨?_, hbegun, ?_⟩
  · rw [faults_eq_nil_iff_extends, Fault.ofFirst_eq_nil_iff_sealed, and_assoc]
  · rw [hbegun]
    constructor
    · intro hsame hc
      exact (hsame.mp hc).2
    · intro hshape
      exact ⟨fun hc => ⟨hc, hshape hc⟩, fun h => h.1⟩

/-- The producer of the first block is edited and the block sealed again.  The walk finds nothing,
and no chain begins with that block. -/
theorem walk_accepts_resealed_first_block :
    let edit : Block.Edit := { producer := some "mallory", reseal := true }
    let c := (Chain.new 1700000000).replace 0 (edit.apply (.genesis 1700000000))
    ¬ (c.faults = [] ↔ ∃ t, (Chain.new t).Extends c) := by
  intro edit c
  have hfirst : c.first = .sealed 0 1700000000 [] Block.genesisPreviousHash "mallory" := by
    show edit.apply (.genesis 1700000000) = _
    simp [edit, Block.Edit.apply, Block.genesis, Block.sealed, Block.reseal, Block.digest,
      Block.preimage]
  have hc : c.faults = [] := by
    show (single c.first).faults = []
    rw [faults_single, hfirst, Fault.ofFirst_eq_nil_iff_sealed]
    exact ⟨rfl, by simp [Block.sealed, Block.reseal]⟩
  intro hsame
  obtain ⟨t, ht⟩ := hsame.mp hc
  have hproducer : c.first.producer = Block.genesisProducer := congrArg Block.producer ht.first
  rw [hfirst] at hproducer
  exact absurd hproducer (by decide)

end Chain

end StakeChain
