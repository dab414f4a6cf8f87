/-
# Appending and walking agree

A block is checked twice in its life, by code that knows nothing of each other: by the chain that is
asked to append it, which stops at the first objection, and by the walk over the stored chain,
which lists them all.  Both look at the index, the link, the hash and the transactions, in that
order.  So a candidate is refused for the first fault that the walk would find with it behind the
head (`Chain.append_cases`), and every fault that it would bring carries its own index
(`Fault.index_of_mem_ofLink`).

Main statement: `Ledger.append_agrees_with_walk`.  It asks nothing of the stored chain, which may be
full of faults or a single block of any shape, and nothing of the candidate.  The index behind the
head is counted in the same 64 bits by both, so the end of their range is no exception.
-/
import StakeChain.Ledger.Operation
import StakeChain.Proofs.Chain.Integrity

namespace StakeChain

/-- The reason that the walk gives for what a refusal objects to, where it is about a block. -/
def LedgerError.faultReason? : LedgerError → Option FaultReason
  | wrongIndex .. => some .indexGap
  | wrongPreviousHash .. => some .brokenLink
  | wrongBlockHash .. => some .hashMismatch
  | forgedTransaction .. => some .badTransaction
  | _ => none

/-! ## 1. One candidate behind a head -/

namespace Fault

theorem index_of_mem_when {condition : Bool} {b : Block} {reason : FaultReason} {f : Fault}
    (h : f ∈ Fault.when condition b reason) : f.index = b.index := by
  rw [(mem_when_iff.mp h).2]

/-- What is wrong with a block is reported under the index that it carries. -/
theorem index_of_mem_ofLink {before b : Block} {f : Fault} (h : f ∈ ofLink before b) :
    f.index = b.index := by
  simp only [ofLink, ofContent, List.mem_append] at h
  rcases h with (h | h) | h | h <;> exact index_of_mem_when h

end Fault

namespace Chain

/-- **The chain appends a block without faults behind its head, and refuses any other for its first
fault.**  The cases are the checks in their order: those before the one that fails have added
nothing to the list of faults. -/
theorem append_cases (c : Chain) (b : Block) :
    (Fault.ofLink c.head b = [] ∧ c.append b = .ok (c.push b)) ∨
      ∃ e first rest, Fault.ofLink c.head b = first :: rest ∧ c.append b = .error e ∧
        e.faultReason? = some first.reason := by
  by_cases hindex : b.index = c.head.index + 1
  · by_cases hlink : b.previousHash = c.head.hash
    · by_cases hhash : b.hash = b.digest
      · cases hforged : b.forged? with
        | none =>
          left
          exact ⟨Fault.ofLink_eq_nil_iff.mpr ⟨hindex, hlink, hhash, hforged⟩,
            (append_eq_ok_iff _ _ _).mpr ⟨⟨hindex, hlink, hhash, hforged⟩, rfl⟩⟩
        | some tx =>
          right
          refine ⟨.forgedTransaction b.index tx.txid, ⟨b.index, .badTransaction⟩, [], ?_, ?_, rfl⟩
          · simp [Fault.ofLink, Fault.ofContent, Fault.when, Block.hasValidHash, hindex, hlink,
              hhash, hforged]
          · simp [append, hindex, hlink, hhash, hforged]
      · right
        refine ⟨.wrongBlockHash b.index b.hash b.digest, ⟨b.index, .hashMismatch⟩,
          Fault.when b.forged?.isSome b .badTransaction, ?_, ?_, rfl⟩
        · simp [Fault.ofLink, Fault.ofContent, Fault.when, Block.hasValidHash, hindex, hlink, hhash]
        · simp [append, hindex, hlink, hhash]
    · right
      refine ⟨.wrongPreviousHash c.head.hash b.previousHash, ⟨b.index, .brokenLink⟩,
        Fault.ofContent b, ?_, ?_, rfl⟩
      · simp [Fault.ofLink, Fault.when, hindex, hlink]
      · simp [append, hindex, hlink]
  · right
    refine ⟨.wrongIndex (c.head.index + 1) b.index, ⟨b.index, .indexGap⟩,
      Fault.when (b.previousHash != c.head.hash) b .brokenLink ++ Fault.ofContent b, ?_, ?_, rfl⟩
    · simp [Fault.ofLink, Fault.when, hindex]
    · simp [append, hindex]

end Chain

/-! ## 2. In a ledger -/

namespace Ledger

variable {σ : Type} [DrawSource σ]

/-- **A block is appended exactly when the walk has nothing to add.**  Take any chain, with or
without faults, and any candidate.  It is appended if and only if the walk over the chain with the
candidate at its end reports what it reports without it.  When the candidate is refused, nothing
changes, and that walk would report the faults of the chain and then at least one more, all under
the candidate's index; the refusal objects to the first of these. -/
theorem append_agrees_with_walk (l : Ledger σ) (b : Block) :
    ((l.perform (.append b)).1 = .ok .done ↔ (l.chain.push b).faults = l.chain.faults) ∧
      match l.perform (.append b) with
      | (.ok _, l') => l' = { l with chain := l.chain.push b }
      | (.error e, l') =>
        l' = l ∧ ∃ first rest, (l.chain.push b).faults = l.chain.faults ++ first :: rest ∧
          (∀ f ∈ first :: rest, f.index = b.index) ∧ e.faultReason? = some first.reason := by
  have hnew : (l.chain.push b).faults = l.chain.faults ++ Fault.ofLink l.chain.head b :=
    Chain.faults_push l.chain b
  rcases l.chain.append_cases b with ⟨hnone, happend⟩ | ⟨e, first, rest, hsome, hrefuse, hreason⟩
  · rw [hnone, List.append_nil] at hnew
    simp only [perform, happend]
    exact ⟨iff_of_true trivial hnew, trivial⟩
  · have hmore : (l.chain.push b).faults ≠ l.chain.faults := by
      rw [hnew, hsome]
      simp
    simp only [perform, hrefuse]
    refine ⟨iff_of_false (by simp) hmore, trivial, first, rest, hsome ▸ hnew, ?_, hreason⟩
    intro f hf
    exact Fault.index_of_mem_ofLink (hsome ▸ hf)

end Ledger

end StakeChain
