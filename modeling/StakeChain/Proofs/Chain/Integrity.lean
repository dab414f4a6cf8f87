/-
# What the integrity walk says of a chain that grows

`Chain.append` and `Chain.faults` check blocks in code of their own.  The walk over a chain with
one more block finds what it found before and then what is wrong with that block behind the head
(`Chain.faults_push`), and a block is appended exactly when that is nothing
(`Chain.append_eq_ok_iff_ofLink`).  So a chain without faults stays without faults however it is
extended (`Chain.Extends.faults_eq_nil`).

In such a chain the block at position `i` carries the index `i` (`Chain.index_of_getElem?`), up to
the width of an index.
-/
import Mathlib.Data.List.Induction
import StakeChain.Chain.Fault
import StakeChain.Proofs.Chain.Growth

namespace StakeChain

/-! ## 1. A block without faults -/

namespace Fault

@[simp] theorem when_eq_nil_iff {condition : Bool} {b : Block} {reason : FaultReason} :
    Fault.when condition b reason = [] ↔ condition = false := by
  cases condition <;> simp [Fault.when]

theorem mem_when_iff {condition : Bool} {b : Block} {reason : FaultReason} {f : Fault} :
    f ∈ Fault.when condition b reason ↔ condition = true ∧ f = ⟨b.index, reason⟩ := by
  cases condition <;> simp [Fault.when]

theorem ofContent_eq_nil_iff {b : Block} :
    ofContent b = [] ↔ b.hash = b.digest ∧ b.forged? = none := by
  simp [ofContent, Block.hasValidHash]

theorem ofFirst_eq_nil_iff {b : Block} :
    ofFirst b = [] ↔ (b.index = 0 ∧ b.previousHash = Block.genesisPreviousHash) ∧
      b.hash = b.digest ∧ b.forged? = none := by
  simp [ofFirst, ofContent_eq_nil_iff]

theorem ofLink_eq_nil_iff {before b : Block} :
    ofLink before b = [] ↔ b.index = before.index + 1 ∧ b.previousHash = before.hash ∧
      b.hash = b.digest ∧ b.forged? = none := by
  simp [ofLink, ofContent_eq_nil_iff]

/-- The walk over a longer list goes on from the last block of the shorter one. -/
theorem ofTail_append_singleton (b : Block) : ∀ (before : Block) (rest : List Block),
    ofTail before (rest ++ [b]) =
      ofTail before rest ++ ofLink ((before :: rest).getLast (List.cons_ne_nil _ _)) b
  | _, [] => by simp [ofTail]
  | before, d :: rest => by
    simp only [List.cons_append, ofTail, ofTail_append_singleton b d rest, List.append_assoc]
    rw [List.getLast_cons (List.cons_ne_nil d rest)]

end Fault

/-! ## 2. Chains block by block -/

namespace Chain

/-- A chain is a single block or a chain with one more block. -/
@[elab_as_elim]
theorem push_induction {motive : Chain → Prop} (single : ∀ b, motive (.single b))
    (push : ∀ c b, motive c → motive (c.push b)) (c : Chain) : motive c := by
  obtain ⟨blocks, nonempty⟩ := c
  induction blocks using List.reverseRecOn with
  | nil => exact absurd rfl nonempty
  | append_singleton init b ih =>
    by_cases hinit : init = []
    · subst hinit
      exact single b
    · exact push ⟨init, hinit⟩ b (ih hinit)

@[simp] theorem head_single (b : Block) : (single b).head = b := rfl

@[simp] theorem length_single (b : Block) : (single b).length = 1 := rfl

@[simp] theorem length_push (c : Chain) (b : Block) : (c.push b).length = c.length + 1 := by
  simp [length]

theorem length_pos (c : Chain) : 0 < c.length := List.length_pos_iff.mpr c.nonempty

/-- The head stands at the last position. -/
theorem getElem?_head (c : Chain) : c.blocks[c.length - 1]? = some c.head := by
  rw [length, ← List.getLast?_eq_getElem?, List.getLast?_eq_some_getLast c.nonempty, head]

@[simp] theorem faults_single (b : Block) : (single b).faults = Fault.ofFirst b := by
  simp [faults, single, StakeChain.faults, Fault.ofTail]

/-- **One more block brings its own faults**, behind those that were there. -/
@[simp] theorem faults_push (c : Chain) (b : Block) :
    (c.push b).faults = c.faults ++ Fault.ofLink c.head b := by
  obtain ⟨blocks, nonempty⟩ := c
  cases blocks with
  | nil => exact absurd rfl nonempty
  | cons first rest =>
    simp [faults, push, StakeChain.faults, head, Fault.ofTail_append_singleton]

/-- **A block is appended exactly when the walk finds nothing wrong with it** behind the head. -/
theorem append_eq_ok_iff_ofLink (c c' : Chain) (b : Block) :
    c.append b = .ok c' ↔ Fault.ofLink c.head b = [] ∧ c' = c.push b := by
  rw [append_eq_ok_iff, Fault.ofLink_eq_nil_iff]

/-! ## 3. Chains without faults -/

@[simp] theorem faults_new (timestamp : Time) : (Chain.new timestamp).faults = [] := by
  rw [Chain.new, faults_single, Fault.ofFirst_eq_nil_iff]
  exact ⟨⟨rfl, rfl⟩, Block.hash_sealed _ _ _ _ _, rfl⟩

/-- **Appends keep a chain without faults.** -/
theorem Extends.faults_eq_nil {c d : Chain} (h : c.Extends d) (hc : c.faults = []) :
    d.faults = [] := by
  induction h with
  | refl => exact hc
  | append _ hb ih =>
    obtain ⟨hlink, rfl⟩ := (append_eq_ok_iff_ofLink _ _ _).mp hb
    rw [faults_push, ih, hlink, List.append_nil]

/-- Every block of a chain without faults is sealed. -/
theorem hash_eq_of_faults_eq_nil {c : Chain} (hc : c.faults = []) {b : Block}
    (hb : b ∈ c.blocks) : b.hash = b.digest := by
  induction c using push_induction with
  | single first =>
    obtain rfl := List.mem_singleton.mp hb
    exact (Fault.ofFirst_eq_nil_iff.mp ((faults_single b) ▸ hc)).2.1
  | push c last ih =>
    obtain ⟨hc, hlink⟩ := List.append_eq_nil_iff.mp ((faults_push c last) ▸ hc)
    rcases List.mem_append.mp hb with hb | hb
    · exact ih hc hb
    · obtain rfl := List.mem_singleton.mp hb
      exact (Fault.ofLink_eq_nil_iff.mp hlink).2.2.1

/-- **Position is index.**  In a chain without faults the block at position `i` carries `i` as
its index, reduced to the width of an index. -/
theorem index_of_getElem? {c : Chain} (hc : c.faults = []) {i : Nat} {b : Block}
    (hb : c.blocks[i]? = some b) : b.index = UInt64.ofNat i := by
  induction c using push_induction generalizing i b with
  | single first =>
    obtain ⟨⟨hindex, -⟩, -⟩ := Fault.ofFirst_eq_nil_iff.mp (by simpa using hc)
    cases i with
    | zero =>
      cases hb
      exact hindex
    | succ i => simp [single] at hb
  | push c last ih =>
    obtain ⟨hc, hlink⟩ := List.append_eq_nil_iff.mp ((faults_push c last) ▸ hc)
    rw [blocks_push, List.getElem?_append] at hb
    split at hb
    · exact ih hc hb
    · rename_i hi
      obtain ⟨hzero, rfl⟩ : i - c.blocks.length = 0 ∧ last = b := by
        simpa [List.getElem?_singleton] using hb
      have hlast : i = c.length - 1 + 1 := by
        have := c.length_pos
        simp only [length] at *
        omega
      rw [(Fault.ofLink_eq_nil_iff.mp hlink).1, ih hc c.getElem?_head, hlast, UInt64.ofNat_add]
      rfl

/-- In a chain without faults that is not too long, positions are indices. -/
theorem toNat_index_of_getElem? {c : Chain} (hc : c.faults = []) (hsize : c.length < UInt64.size)
    {i : Nat} {b : Block} (hb : c.blocks[i]? = some b) : b.index.toNat = i := by
  have hi : i < c.length := (List.getElem?_eq_some_iff.mp hb).1
  rw [index_of_getElem? hc hb]
  exact UInt64.toNat_ofNat_of_lt' (by omega)

end Chain

end StakeChain
