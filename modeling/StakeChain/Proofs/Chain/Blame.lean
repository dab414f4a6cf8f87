/-
# Whom a fault blames

The walk finds a fault at a position, and reports it under the index that the block standing there
carries.  Blocks are looked up by position.  In a chain that grew by appends the two are the same
number, but a stored block may carry any index, and it is then not to be trusted in this of all
its fields: a wrong index is one of the things that the walk is there to find.

`Chain.Guilty` says of a position what is wrong with the block that stands there, without the walk.
Every such defect is reported and nothing else is (`Chain.mem_faults_iff`).  Looking up the index of
a fault finds a block with that defect exactly where the index that the guilty block carries is the
position of such a block.  So it is in a chain whose blocks carry their positions, which a chain
without faults is (`Chain.numbered_of_faults_eq_nil`) and which it stays under every edit but one of
an index (`Chain.Numbered.amend`).  A block that is given another index is not found: its fault
blames whoever stands at that position, or nobody (`Chain.not_finds_renumbered`).

Main statement: `Chain.faults_find_guilty_iff`.  That a sound block can be blamed in place of an
edited one is `Chain.sound_block_blamed`.
-/
import StakeChain.Proofs.Chain.Agreement

namespace StakeChain

/-! ## 1. What can be wrong with a block where it stands -/

/-- What is wrong with a block, given the block stored before it, if there is one. -/
def Block.HasDefect (before? : Option Block) (b : Block) : FaultReason → Prop
  | .badGenesis =>
    before? = none ∧ (b.index ≠ 0 ∨ b.previousHash ≠ Block.genesisPreviousHash)
  | .indexGap => ∃ before, before? = some before ∧ b.index ≠ before.index + 1
  | .brokenLink => ∃ before, before? = some before ∧ b.previousHash ≠ before.hash
  | .hashMismatch => b.hash ≠ b.digest
  | .badTransaction => ∃ tx ∈ b.transactions, tx.isConsistent = false

/-- A block that was sealed on top of another, with consistent transactions, has no defect there. -/
theorem Block.not_hasDefect_next (parent : Block) (timestamp : Time) (producer : String)
    {transactions : List Transaction} (h : ∀ tx ∈ transactions, tx.isConsistent = true)
    (reason : FaultReason) :
    ¬ (parent.next timestamp transactions producer).HasDefect (some parent) reason := by
  intro hdefect
  cases reason with
  | badGenesis => cases hdefect.1
  | indexGap =>
    obtain ⟨_, ⟨⟩, hgap⟩ := hdefect
    exact hgap rfl
  | brokenLink =>
    obtain ⟨_, ⟨⟩, hlink⟩ := hdefect
    exact hlink rfl
  | hashMismatch => exact hdefect (Block.hash_sealed _ _ _ _ _)
  | badTransaction =>
    obtain ⟨tx, htx, hinconsistent⟩ := hdefect
    exact Bool.false_ne_true (hinconsistent.symm.trans (h tx htx))

namespace Fault

/-- The checks of a first block are the defects of a block that stands behind no other. -/
theorem mem_ofFirst_iff {b : Block} {f : Fault} :
    f ∈ ofFirst b ↔ f.index = b.index ∧ b.HasDefect none f.reason := by
  obtain ⟨index, reason⟩ := f
  cases reason <;>
    simp [ofFirst, ofContent, mem_when_iff, Block.HasDefect, Block.hasValidHash, Block.forged?,
      and_comm]

/-- The checks of a later block are the defects of a block behind the one before it. -/
theorem mem_ofLink_iff {before b : Block} {f : Fault} :
    f ∈ ofLink before b ↔ f.index = b.index ∧ b.HasDefect (some before) f.reason := by
  obtain ⟨index, reason⟩ := f
  cases reason <;>
    simp [ofLink, ofContent, mem_when_iff, Block.HasDefect, Block.hasValidHash, Block.forged?,
      and_comm]

theorem mem_ofTail_iff {f : Fault} : ∀ {before : Block} {rest : List Block},
    f ∈ ofTail before rest ↔ ∃ (i : Nat) (b : Block), rest[i]? = some b ∧ f.index = b.index ∧
      b.HasDefect (before :: rest)[i]? f.reason
  | before, [] => by simp [ofTail]
  | before, d :: rest => by
    rw [ofTail, List.mem_append, mem_ofLink_iff, mem_ofTail_iff]
    constructor
    · rintro (h | ⟨i, b, hb, h⟩)
      · exact ⟨0, d, rfl, h⟩
      · exact ⟨i + 1, b, hb, h⟩
    · rintro ⟨i, b, hb, h⟩
      cases i with
      | zero =>
        cases hb
        exact Or.inl h
      | succ i => exact Or.inr ⟨i, b, hb, h⟩

end Fault

/-! ## 2. What is reported -/

namespace Chain

/-- The block stored before a position. -/
def before? (c : Chain) : Nat → Option Block
  | 0 => none
  | i + 1 => c.blocks[i]?

/-- The block `b` stands at position `i`, and this is wrong with it there. -/
structure Guilty (c : Chain) (i : Nat) (b : Block) (reason : FaultReason) : Prop where
  stored : c.blocks[i]? = some b
  defect : b.HasDefect (c.before? i) reason

/-- **The walk reports every defect and nothing else**, under the index that the guilty block
carries. -/
theorem mem_faults_iff {c : Chain} {f : Fault} :
    f ∈ c.faults ↔ ∃ i b, c.Guilty i b f.reason ∧ f.index = b.index := by
  obtain ⟨blocks, hne⟩ := c
  cases blocks with
  | nil => exact absurd rfl hne
  | cons first rest =>
    show f ∈ Fault.ofFirst first ++ Fault.ofTail first rest ↔ _
    rw [List.mem_append, Fault.mem_ofFirst_iff, Fault.mem_ofTail_iff]
    constructor
    · rintro (⟨hindex, hdefect⟩ | ⟨i, b, hb, hindex, hdefect⟩)
      · exact ⟨0, first, ⟨rfl, hdefect⟩, hindex⟩
      · exact ⟨i + 1, b, ⟨hb, hdefect⟩, hindex⟩
    · rintro ⟨i, b, ⟨hb, hdefect⟩, hindex⟩
      cases i with
      | zero =>
        cases hb
        exact Or.inl ⟨hindex, hdefect⟩
      | succ i => exact Or.inr ⟨i, b, hb, hindex, hdefect⟩

/-! ## 3. Looking up what is reported -/

theorem block_eq_ok_iff {c : Chain} {i : UInt64} {b : Block} :
    c.block i = .ok b ↔ c.blocks[i.toNat]? = some b := by
  unfold block
  cases c.blocks[i.toNat]? <;> simp

/-- Looking up the index of a fault finds a block with that defect where it stands. -/
def Finds (c : Chain) (f : Fault) : Prop :=
  ∃ b, c.block f.index = .ok b ∧ c.Guilty f.index.toNat b f.reason

theorem finds_iff {c : Chain} {f : Fault} :
    c.Finds f ↔ ∃ b, c.Guilty f.index.toNat b f.reason := by
  constructor
  · rintro ⟨b, -, hguilty⟩
    exact ⟨b, hguilty⟩
  · rintro ⟨b, hguilty⟩
    exact ⟨b, block_eq_ok_iff.mpr hguilty.stored, hguilty⟩

/-- Every block carries its position as its index. -/
def Numbered (c : Chain) : Prop :=
  ∀ (i : Nat) (b : Block), c.blocks[i]? = some b → b.index.toNat = i

/-- In a numbered chain no index is off. -/
theorem Numbered.follows {c : Chain} (hc : c.Numbered) {i : Nat} {before b : Block}
    (hbefore : c.blocks[i]? = some before) (hb : c.blocks[i + 1]? = some b) :
    b.index = before.index + 1 := by
  have hi : before.index.toNat = i := hc i before hbefore
  have hnext : b.index.toNat = i + 1 := hc (i + 1) b hb
  have hwidth : b.index.toNat < 2 ^ 64 := b.index.toNat_lt
  have hsum : (before.index + 1).toNat = i + 1 := by
    simp only [UInt64.toNat_add, hi, UInt64.toNat_one]
    omega
  exact UInt64.toNat_inj.mp (hnext.trans hsum.symm)

/-- A chain without faults is numbered, as far as an index reaches. -/
theorem numbered_of_faults_eq_nil {c : Chain} (hc : c.faults = [])
    (hsize : c.length < UInt64.size) : c.Numbered :=
  fun _ _ hb => toNat_index_of_getElem? hc hsize hb

/-- It stays numbered whatever else than an index is edited in it. -/
theorem Numbered.amend {c c' : Chain} (hc : c.Numbered) {i : UInt64} {edit : Block.Edit}
    (hedit : ∀ index, edit.index = some index → index = i) (h : c.amend i edit = .ok c') :
    c'.Numbered := by
  simp only [Chain.amend, bind_eq_ok_iff, Except.ok.injEq] at h
  obtain ⟨b, hb, rfl⟩ := h
  have hstored : c.blocks[i.toNat]? = some b := block_eq_ok_iff.mp hb
  intro k found hfound
  rcases eq_or_ne i.toNat k with rfl | hk
  · have hi : i.toNat < c.blocks.length := (List.getElem?_eq_some_iff.mp hstored).1
    rw [Chain.replace, List.getElem?_set_self hi] at hfound
    cases hfound
    rw [Block.Edit.index_apply]
    cases hindex : edit.index with
    | none => exact hc _ b hstored
    | some index => rw [hedit index hindex, Option.getD_some]
  · exact hc k found ((List.getElem?_set_ne hk).symm.trans hfound)

/-- **Every defect is reported under the index that its block carries, and found when that is a
position with the same defect.**  Take any chain, whatever was done to its blocks.  The faults are
the defects of its blocks where they stand, each under the index that the guilty block carries.
Looking up the index of every fault finds a block with that defect if and only if each guilty block
carries the position of a block with the same defect.  So it is when every block carries its own
position, whatever else is wrong with it. -/
theorem faults_find_guilty_iff (c : Chain) :
    (∀ f, f ∈ c.faults ↔ ∃ i b, c.Guilty i b f.reason ∧ f.index = b.index) ∧
      ((∀ f ∈ c.faults, c.Finds f) ↔
        ∀ i b reason, c.Guilty i b reason → ∃ found, c.Guilty b.index.toNat found reason) ∧
      (c.Numbered → ∀ f ∈ c.faults, c.Finds f) := by
  have hiff : (∀ f ∈ c.faults, c.Finds f) ↔
      ∀ i b reason, c.Guilty i b reason → ∃ found, c.Guilty b.index.toNat found reason := by
    constructor
    · intro hall i b reason hguilty
      exact finds_iff.mp (hall ⟨b.index, reason⟩ (mem_faults_iff.mpr ⟨i, b, hguilty, rfl⟩))
    · intro hall f hf
      obtain ⟨i, b, hguilty, hindex⟩ := mem_faults_iff.mp hf
      rw [finds_iff, hindex]
      exact hall i b f.reason hguilty
  refine ⟨fun _ => mem_faults_iff, hiff, fun hnumbered => hiff.mpr ?_⟩
  intro i b reason hguilty
  rw [hnumbered i b hguilty.stored]
  exact ⟨b, hguilty⟩

/-! ## 4. Whom a wrong number blames -/

/-- **A block that is given another number is not found.**  In a chain whose blocks carry their
positions, put in the place of a later block one that carries another index, and not the index of
the block behind it.  The gap is reported under the new index, and no block stands there that has
it: there is none, or a sound one. -/
theorem not_finds_renumbered {c : Chain} (hc : c.Numbered) {k : Nat} (hk : k + 1 < c.length)
    {b : Block} (hself : b.index.toNat ≠ k + 1) (hnext : b.index.toNat ≠ k + 2) :
    ⟨b.index, .indexGap⟩ ∈ (c.replace (k + 1) b).faults ∧
      ¬ (c.replace (k + 1) b).Finds ⟨b.index, .indexGap⟩ := by
  have hother : ∀ i, i ≠ k + 1 → (c.replace (k + 1) b).blocks[i]? = c.blocks[i]? :=
    fun i hi => List.getElem?_set_ne hi.symm
  constructor
  · obtain ⟨before, hbefore⟩ : ∃ before, c.blocks[k]? = some before :=
      ⟨_, List.getElem?_eq_getElem (by simp only [length] at hk; omega)⟩
    obtain ⟨replaced, hreplaced⟩ : ∃ replaced, c.blocks[k + 1]? = some replaced :=
      ⟨_, List.getElem?_eq_getElem hk⟩
    have hgap : b.index ≠ before.index + 1 := by
      intro heq
      rw [← hc.follows hbefore hreplaced] at heq
      exact hself (heq ▸ hc _ _ hreplaced)
    refine mem_faults_iff.mpr ⟨k + 1, b, ⟨List.getElem?_set_self hk, before, ?_, hgap⟩, rfl⟩
    exact (hother k (by omega)).trans hbefore
  -- the block at the position of the new index was not touched, and neither was the one before it
  · rw [finds_iff]
    rintro ⟨found, hfound, before, hbefore, hgap⟩
    have hstored := (hother _ hself).symm.trans hfound
    cases hn : b.index.toNat with
    | zero => simp [before?, hn] at hbefore
    | succ i =>
      simp only [hn, before?] at hbefore hstored
      have hstoredBefore := (hother i (by omega)).symm.trans hbefore
      exact hgap (hc.follows hstoredBefore hstored)

/-- **Nor is a first block that is given another number**, in any chain: there is no other position
at which a block stands as the first. -/
theorem not_finds_renumbered_first (c : Chain) {b : Block} (hb : b.index ≠ 0) :
    ⟨b.index, .badGenesis⟩ ∈ (c.replace 0 b).faults ∧
      ¬ (c.replace 0 b).Finds ⟨b.index, .badGenesis⟩ := by
  constructor
  · refine mem_faults_iff.mpr ⟨0, b, ⟨?_, rfl, Or.inl hb⟩, rfl⟩
    exact List.getElem?_set_self c.length_pos
  · rw [finds_iff]
    rintro ⟨found, hfound, hfirst, -⟩
    cases hn : b.index.toNat with
    | zero => exact hb (UInt64.toNat_inj.mp hn)
    | succ i =>
      simp only [hn, before?] at hfirst hfound
      have hshort := List.getElem?_eq_none_iff.mp hfirst
      have hlong := (List.getElem?_eq_some_iff.mp hfound).1
      omega

/-- The last of three blocks is given the index of the one before it and sealed again.  The gap is
reported under index 1, and there is nothing wrong with the block that stands there. -/
theorem sound_block_blamed :
    let parent := (Block.genesis 0).next 0 [] "A"
    let edit : Block.Edit := { index := some 1, reseal := true }
    let c := (((Chain.new 0).push parent).push (parent.next 0 [] "A")).replace 2
      (edit.apply (parent.next 0 [] "A"))
    (c.block 1 = .ok parent ∧ ∀ reason, ¬ c.Guilty 1 parent reason) ∧
      ¬ ∀ f ∈ c.faults, c.Finds f := by
  intro parent edit c
  have hgrown : (((Chain.new 0).push parent).push (parent.next 0 [] "A")).Numbered := by
    intro i b hb
    match i, hb with
    | 0, hb | 1, hb | 2, hb => cases hb; rfl
  have hsound : ∀ tx ∈ ([] : List Transaction), tx.isConsistent = true := by simp
  refine ⟨⟨rfl, fun reason hguilty => ?_⟩, ?_⟩
  · exact Block.not_hasDefect_next (Block.genesis 0) 0 "A" hsound reason hguilty.defect
  · have hself : (edit.apply (parent.next 0 [] "A")).index.toNat ≠ 1 + 1 := by decide
    have hnext : (edit.apply (parent.next 0 [] "A")).index.toNat ≠ 1 + 2 := by decide
    obtain ⟨hfault, hlost⟩ := not_finds_renumbered hgrown (by decide) hself hnext
    exact fun hall => hlost (hall _ hfault)

end Chain

end StakeChain
