/-
# The hash of the head commits to the whole chain

A head's hash is taken over the hash of the block before it, that one's over the hash of the
block before that, and so on down to the first block, which names a hash that no digest can be.
So two chains without faults whose heads carry the same hash are one chain, unless somewhere two
different preimages have the same digest.

Main statement: `Chain.head_hash_commits`.  It says this against a chain without faults and any
other one: as long as the hash of the head stands, every change to the stored blocks is a fault.
-/
import StakeChain.Proofs.Block.Encoding
import StakeChain.Proofs.Chain.Integrity

namespace StakeChain

/-! ## 1. One block -/

/-- **The hash of a sealed block determines the block**, where equal digests come from equal
preimages. -/
theorem Block.eq_of_hash_eq {a b : Block} (ha : a.Fits) (hb : b.Fits) (hsa : a.hash = a.digest)
    (hsb : b.hash = b.digest) (hhash : a.hash = b.hash)
    (hno : Digest.Sha256.digest a.preimage = Digest.Sha256.digest b.preimage →
      a.preimage = b.preimage) : a = b := by
  have hdigest : a.digest = b.digest := by rw [← hsa, hhash, hsb]
  rw [preimage_inj ha hb (hno (Text.toHex_inj hdigest)), hhash]

namespace Chain

/-! ## 2. Two chains -/

theorem eq_single_or_push (c : Chain) :
    (∃ b : Block, c = single b) ∨ ∃ (d : Chain) (b : Block), c = d.push b := by
  induction c using push_induction with
  | single b => exact Or.inl ⟨b, rfl⟩
  | push d b _ => exact Or.inr ⟨d, b, rfl⟩

theorem push_faults_eq_nil_iff {c : Chain} {b : Block} :
    (c.push b).faults = [] ↔ c.faults = [] ∧ b.index = c.head.index + 1 ∧
      b.previousHash = c.head.hash ∧ b.hash = b.digest ∧ b.forged? = none := by
  rw [faults_push, List.append_eq_nil_iff, Fault.ofLink_eq_nil_iff]

theorem head_mem (c : Chain) : c.head ∈ c.blocks := List.getLast_mem c.nonempty

/-- The head of a chain without faults is sealed. -/
theorem hash_head {c : Chain} (hc : c.faults = []) : c.head.hash = c.head.digest :=
  hash_eq_of_faults_eq_nil hc c.head_mem

/-- A first block names a hash that no block before another can carry. -/
theorem previousHash_push_ne {d : Chain} {b : Block} (hd : (d.push b).faults = []) :
    b.previousHash ≠ Block.genesisPreviousHash := by
  obtain ⟨hd, -, hprevious, -⟩ := push_faults_eq_nil_iff.mp hd
  rw [hprevious, hash_head hd]
  exact d.head.digest_ne_genesisPreviousHash

/-- Equal digests of blocks of the two chains come from equal preimages. -/
def NoCollision (c d : Chain) : Prop :=
  ∀ a ∈ c.blocks, ∀ b ∈ d.blocks,
    Digest.Sha256.digest a.preimage = Digest.Sha256.digest b.preimage → a.preimage = b.preimage

/-- The heads of two chains without faults are equal as soon as their hashes are. -/
theorem head_eq_of_hash_eq {c d : Chain} (hfc : ∀ b ∈ c.blocks, b.Fits)
    (hfd : ∀ b ∈ d.blocks, b.Fits) (hc : c.faults = []) (hd : d.faults = [])
    (hhash : d.head.hash = c.head.hash) (hno : NoCollision c d) : d.head = c.head :=
  (Block.eq_of_hash_eq (hfc _ c.head_mem) (hfd _ d.head_mem) (hash_head hc) (hash_head hd)
    hhash.symm (hno _ c.head_mem _ d.head_mem)).symm

/-- **Chains without faults and with the same hash at the head are equal.**  From the head down:
the hashes of the two heads agree, hence the blocks, hence the hashes before them; and neither
chain can end before the other, since what a first block names is no digest. -/
theorem eq_of_head_hash_eq {c d : Chain} (hfc : ∀ b ∈ c.blocks, b.Fits)
    (hfd : ∀ b ∈ d.blocks, b.Fits) (hc : c.faults = []) (hd : d.faults = [])
    (hhash : d.head.hash = c.head.hash) (hno : NoCollision c d) : d = c := by
  have hheads := head_eq_of_hash_eq hfc hfd hc hd hhash hno
  induction c using push_induction generalizing d with
  | single a =>
    rcases d.eq_single_or_push with ⟨b, rfl⟩ | ⟨d, b, rfl⟩
    · rw [head_single, head_single] at hheads
      rw [hheads]
    · rw [head_single, head_push] at hheads
      subst hheads
      rw [faults_single, Fault.ofFirst_eq_nil_iff] at hc
      exact absurd hc.1.2 (previousHash_push_ne hd)
  | push c a ih =>
    rcases d.eq_single_or_push with ⟨b, rfl⟩ | ⟨d, b, rfl⟩
    · rw [head_push, head_single] at hheads
      subst hheads
      rw [faults_single, Fault.ofFirst_eq_nil_iff] at hd
      exact absurd hd.1.2 (previousHash_push_ne hc)
    · rw [head_push, head_push] at hheads
      subst hheads
      obtain ⟨hc, -, hca, -⟩ := push_faults_eq_nil_iff.mp hc
      obtain ⟨hd, -, hda, -⟩ := push_faults_eq_nil_iff.mp hd
      have hfc : ∀ b ∈ c.blocks, b.Fits := fun b hb => hfc b (List.mem_append_left _ hb)
      have hfd : ∀ b ∈ d.blocks, b.Fits := fun b hb => hfd b (List.mem_append_left _ hb)
      have hhash : d.head.hash = c.head.hash := hda.symm.trans hca
      have hno : NoCollision c d :=
        fun x hx y hy => hno x (List.mem_append_left _ hx) y (List.mem_append_left _ hy)
      rw [ih hfc hfd hc hd hhash hno (head_eq_of_hash_eq hfc hfd hc hd hhash hno)]

/-- **The hash of the head commits to the chain.**  Take a chain without faults and any chain
whose head carries the same hash.  Then two of their blocks are hashed from different bytes to
the same digest; or else the second chain is without faults exactly when it is the first one,
so that whatever was edited, dropped, inserted or moved in it, sealed again or not, is
reported. -/
theorem head_hash_commits {c d : Chain} (hfc : ∀ b ∈ c.blocks, b.Fits)
    (hfd : ∀ b ∈ d.blocks, b.Fits) (hc : c.faults = []) (hhash : d.head.hash = c.head.hash) :
    (∃ a ∈ c.blocks, ∃ b ∈ d.blocks, a.preimage ≠ b.preimage ∧
        Digest.Sha256.digest a.preimage = Digest.Sha256.digest b.preimage) ∨
      (d.faults = [] ↔ d = c) := by
  refine or_iff_not_imp_left.mpr fun hcollision => ?_
  have hno : NoCollision c d := fun a ha b hb hdigest =>
    by_contra fun hne => hcollision ⟨a, ha, b, hb, hne, hdigest⟩
  constructor
  · intro hd
    exact eq_of_head_hash_eq hfc hfd hc hd hhash hno
  · rintro rfl
    exact hc

/-- The producer of the head is edited, its hash is left alone. -/
theorem head_hash_commits_to_producer :
    let c := (Chain.new 0).push ((Block.genesis 0).next 10 [.ofPayload "pay bob 5"] "A")
    let d := c.replace 1 { c.head with producer := "B" }
    (c.faults = [] ∧ d.head.hash = c.head.hash) ∧
      ((∃ a ∈ c.blocks, ∃ b ∈ d.blocks, a.preimage ≠ b.preimage ∧
          Digest.Sha256.digest a.preimage = Digest.Sha256.digest b.preimage) ∨
        (d.faults = [] ↔ d = c)) := by
  intro c d
  have hconsistent : c.head.forged? = none := by decide +kernel
  have hc : c.faults = [] := push_faults_eq_nil_iff.mpr
    ⟨faults_new 0, rfl, rfl, Block.hash_sealed _ _ _ _ _, hconsistent⟩
  have hfc : ∀ b ∈ c.blocks, b.Fits := by decide +kernel
  have hfd : ∀ b ∈ d.blocks, b.Fits := by decide +kernel
  have hhash : d.head.hash = c.head.hash := rfl
  exact ⟨⟨hc, hhash⟩, head_hash_commits hfc hfd hc hhash⟩

end Chain

end StakeChain
