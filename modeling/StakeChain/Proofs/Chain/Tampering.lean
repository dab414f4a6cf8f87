/-
# Where tampering shows

An edit that leaves index and stored hash of a block alone makes the stored hash wrong, and it
makes no other hash wrong: a block is hashed from its own fields.  So the mismatches that the walk
reports are the blocks whose content changed (`Chain.mismatches_of_sameSeal`).

An edit that seals the block again repairs the mismatch and breaks the link of the next block
instead, if there is one.  Nothing else is noticed, because no block looks further back than at the
one before it (`Chain.faults_replace_resealed`).

Main statement: `Chain.tampering_localised`.
-/
import Mathlib.Data.List.Forall2
import StakeChain.Proofs.Chain.Commitment

namespace StakeChain

/-! ## 1. Content -/

namespace Block

/-- What a block is hashed from: all of it but the hash that it carries. -/
def content (b : Block) : Block := { b with hash := "" }

/-- Two blocks are hashed from different bytes to the same digest. -/
def Collides (a b : Block) : Prop :=
  a.preimage ≠ b.preimage ∧ Digest.Sha256.digest a.preimage = Digest.Sha256.digest b.preimage

/-- The second block is the first one after an edit that left index and stored hash alone. -/
def SameSeal (b b' : Block) : Prop := b'.index = b.index ∧ b'.hash = b.hash

theorem preimage_eq_iff_content_eq {a b : Block} (ha : a.Fits) (hb : b.Fits) :
    a.preimage = b.preimage ↔ a.content = b.content := by
  constructor
  · intro h
    rw [preimage_inj ha hb h]
    rfl
  · exact congrArg preimage

/-- **The hash that a block calls for stands for its content**, short of a collision. -/
theorem digest_eq_iff_content_eq {a b : Block} (ha : a.Fits) (hb : b.Fits) (h : ¬ a.Collides b) :
    a.digest = b.digest ↔ a.content = b.content := by
  rw [← preimage_eq_iff_content_eq ha hb]
  constructor
  · intro hdigest
    by_contra hne
    exact h ⟨hne, Text.toHex_inj hdigest⟩
  · exact congrArg fun bytes => Text.toHex (Digest.Sha256.digest bytes)

end Block

/-! ## 2. Mismatches -/

namespace Fault

theorem filter_when (reason' : FaultReason) (condition : Bool) (b : Block) (reason : FaultReason) :
    (Fault.when condition b reason).filter (·.reason = reason') =
      if reason = reason' then Fault.when condition b reason else [] := by
  by_cases hreason : reason = reason' <;> cases condition <;> simp [Fault.when, hreason]

/-- A mismatch is reported once, and wherever the block stands. -/
theorem mismatch_ofContent (b : Block) :
    (ofContent b).filter (·.reason = .hashMismatch) =
      Fault.when (!b.hasValidHash) b .hashMismatch := by
  rw [ofContent, List.filter_append, filter_when, filter_when]
  simp

theorem mismatch_ofFirst (b : Block) :
    (ofFirst b).filter (·.reason = .hashMismatch) =
      Fault.when (!b.hasValidHash) b .hashMismatch := by
  rw [ofFirst, List.filter_append, filter_when, mismatch_ofContent]
  simp

theorem mismatch_ofLink (before b : Block) :
    (ofLink before b).filter (·.reason = .hashMismatch) =
      Fault.when (!b.hasValidHash) b .hashMismatch := by
  rw [ofLink, List.filter_append, List.filter_append, filter_when, filter_when, mismatch_ofContent]
  simp

/-- A block that names another hash than its predecessor carries has that fault alone, if the rest
is in order. -/
theorem ofLink_of_broken {before b : Block} (hindex : b.index = before.index + 1)
    (hprevious : b.previousHash ≠ before.hash) (hhash : b.hash = b.digest)
    (hconsistent : b.forged? = none) : ofLink before b = [⟨b.index, .brokenLink⟩] := by
  rw [ofLink, ofContent_eq_nil_iff.mpr ⟨hhash, hconsistent⟩]
  simp [Fault.when, hindex, hprevious]

end Fault

namespace Chain

/-- The hash mismatches that the walk reports. -/
def mismatches (c : Chain) : List Fault := c.faults.filter (·.reason = .hashMismatch)

/-- **The blocks that do not carry the hash they call for are reported, one by one**, in any
chain. -/
theorem mismatches_eq (c : Chain) :
    c.mismatches = (c.blocks.filter fun b => !b.hasValidHash).map (⟨·.index, .hashMismatch⟩) := by
  induction c using push_induction with
  | single b =>
    rw [mismatches, faults_single, Fault.mismatch_ofFirst]
    cases h : b.hasValidHash <;> simp [single, Fault.when, h]
  | push c b ih =>
    rw [mismatches, faults_push, List.filter_append, Fault.mismatch_ofLink, blocks_push,
      List.filter_append, List.map_append, ← ih]
    cases h : b.hasValidHash <;> simp [mismatches, Fault.when, h]

/-! ## 3. Edits that leave the seal alone -/

/-- What is picked from a list is picked by positions as well. -/
theorem map_filter_eq_map_range {α β : Type} {p : α → Bool} {q : Nat → Bool} {f : α → β}
    {g : Nat → β} (l : List α) (h : ∀ i x, l[i]? = some x → p x = q i ∧ f x = g i) :
    (l.filter p).map f = ((List.range l.length).filter q).map g := by
  induction l using List.reverseRecOn with
  | nil => rfl
  | append_singleton l x ih =>
    have hinit : ∀ i y, l[i]? = some y → p y = q i ∧ f y = g i := by
      intro i y hy
      have hi := (List.getElem?_eq_some_iff.mp hy).1
      exact h i y ((List.getElem?_append_left hi).trans hy)
    obtain ⟨hp, hf⟩ := h l.length x List.getElem?_concat_length
    rw [List.length_append, List.length_singleton, List.range_succ]
    simp only [List.filter_append, List.map_append, ih hinit]
    cases hq : q l.length <;> simp [hp, hq, hf]

/-- The positions at which two chains of one length hold different content. -/
def changed (c d : Chain) : List Nat :=
  (List.range c.length).filter fun i => c.blocks[i]?.map (·.content) ≠ d.blocks[i]?.map (·.content)

theorem exists_sameSeal {c d : Chain} (hsame : List.Forall₂ Block.SameSeal c.blocks d.blocks)
    {i : Nat} {b : Block} (hb : d.blocks[i]? = some b) :
    ∃ a, c.blocks[i]? = some a ∧ a.SameSeal b := by
  obtain ⟨hlength, hsame⟩ := List.forall₂_iff_get.mp hsame
  obtain ⟨hi, rfl⟩ := List.getElem?_eq_some_iff.mp hb
  exact ⟨_, List.getElem?_eq_getElem (hlength ▸ hi), hsame i (hlength ▸ hi) hi⟩

/-- **Where index and hash are left alone, the mismatches are the edits.** -/
theorem mismatches_of_sameSeal {c d : Chain} (hc : c.faults = []) (hfc : ∀ b ∈ c.blocks, b.Fits)
    (hfd : ∀ b ∈ d.blocks, b.Fits) (hsame : List.Forall₂ Block.SameSeal c.blocks d.blocks)
    (hno : ∀ (i : Nat) (a b : Block), c.blocks[i]? = some a → d.blocks[i]? = some b →
      ¬ a.Collides b) :
    d.mismatches = (c.changed d).map fun i => ⟨UInt64.ofNat i, .hashMismatch⟩ := by
  rw [mismatches_eq, changed, length, hsame.length_eq]
  refine map_filter_eq_map_range d.blocks fun i b hb => ?_
  obtain ⟨a, ha, hindex, hhash⟩ := exists_sameSeal hsame hb
  have hac : a ∈ c.blocks := List.mem_of_getElem? ha
  have hsealed : a.hash = a.digest := hash_eq_of_faults_eq_nil hc hac
  have hiff := Block.digest_eq_iff_content_eq (hfc a hac) (hfd b (List.mem_of_getElem? hb))
    (hno i a b ha hb)
  constructor
  · have hvalid : b.hasValidHash = decide (a.content = b.content) := by
      rw [Block.hasValidHash, hhash, hsealed, Bool.beq_eq_decide_eq]
      exact decide_eq_decide.mpr hiff
    simp [hvalid, ha, hb]
  · rw [hindex, index_of_getElem? hc ha]

/-! ## 4. A block that is sealed again -/

theorem replace_push_of_lt {c : Chain} {k : Nat} (hk : k < c.length) (a b : Block) :
    (c.push a).replace k b = (c.replace k b).push a :=
  eq_of_blocks_eq (List.set_append_left k b hk)

theorem replace_push_length (c : Chain) (a b : Block) :
    (c.push a).replace c.length b = c.push b := by
  refine eq_of_blocks_eq ?_
  show (c.blocks ++ [a]).set c.blocks.length b = c.blocks ++ [b]
  rw [List.set_append_right _ _ (Nat.le_refl _), Nat.sub_self]
  rfl

/-- Replacing a block moves the head exactly when it was the head. -/
theorem head_replace {c : Chain} {k : Nat} (hk : k < c.length) (b : Block) :
    (c.replace k b).head = if k + 1 < c.length then c.head else b := by
  rcases c.eq_single_or_push with ⟨a, rfl⟩ | ⟨c, a, rfl⟩
  · rw [length_single] at hk
    obtain rfl : k = 0 := by omega
    rfl
  · rw [length_push] at hk ⊢
    by_cases hlast : k = c.length
    · subst hlast
      rw [replace_push_length, head_push, if_neg (Nat.lt_irrefl _)]
    · rw [replace_push_of_lt (by omega), head_push, head_push, if_pos (by omega)]

/-- **A block that is sealed again breaks the link of the next one**, and nothing else, where there
is a next one.  The induction is from the first block to the head: the new block may be the last
one, the one before it, which is where the link breaks, or an earlier one. -/
theorem faults_replace_resealed {c : Chain} (hc : c.faults = []) {k : Nat} {b b' : Block}
    (hb : c.blocks[k]? = some b) (hindex : b'.index = b.index)
    (hprevious : b'.previousHash = b.previousHash) (hsealed : b'.hash = b'.digest)
    (hconsistent : b'.forged? = none) (hhash : b'.hash ≠ b.hash) :
    (c.replace k b').faults =
      if k + 1 < c.length then [⟨UInt64.ofNat (k + 1), .brokenLink⟩] else [] := by
  induction c using push_induction with
  | single a =>
    rw [faults_single, Fault.ofFirst_eq_nil_iff] at hc
    obtain ⟨rfl, rfl⟩ : k = 0 ∧ a = b := by
      simpa [single, List.getElem?_singleton] using hb
    have hfirst : Fault.ofFirst b' = [] := Fault.ofFirst_eq_nil_iff.mpr
      ⟨⟨hindex.trans hc.1.1, hprevious.trans hc.1.2⟩, hsealed, hconsistent⟩
    exact (faults_single b').trans hfirst
  | push c a ih =>
    have hposition : ∀ i x, (c.push a).blocks[i]? = some x → x.index = UInt64.ofNat i :=
      fun _ _ => index_of_getElem? hc
    obtain ⟨hc, haindex, haprevious, hasealed, haconsistent⟩ := push_faults_eq_nil_iff.mp hc
    rw [length_push]
    rcases Nat.lt_or_ge k c.length with hk | hk
    · rw [blocks_push, List.getElem?_append_left hk] at hb
      rw [if_pos (Nat.succ_lt_succ hk), replace_push_of_lt hk, faults_push, ih hc hb,
        head_replace hk]
      by_cases hearlier : k + 1 < c.length
      · rw [if_pos hearlier, if_pos hearlier, Fault.ofLink_eq_nil_iff.mpr
          ⟨haindex, haprevious, hasealed, haconsistent⟩, List.append_nil]
      · have hlast : k + 1 = c.length := by omega
        have hhead : c.head = b := by
          have hstored := c.getElem?_head
          rw [← hlast, Nat.add_sub_cancel, hb] at hstored
          exact (Option.some.inj hstored).symm
        rw [hhead] at haindex haprevious
        have hbroken := Fault.ofLink_of_broken (haindex.trans (by rw [hindex]))
          (fun h => hhash (h.symm.trans haprevious)) hasealed haconsistent
        rw [if_neg hearlier, if_neg hearlier, List.nil_append, hbroken,
          hposition (k + 1) a (hlast ▸ List.getElem?_concat_length)]
    · obtain ⟨rfl, rfl⟩ : k = c.length ∧ a = b := by
        rw [blocks_push, List.getElem?_append_right hk] at hb
        obtain ⟨hzero, hab⟩ : k - c.blocks.length = 0 ∧ a = b := by
          simpa [List.getElem?_singleton] using hb
        simp only [length] at hk ⊢
        exact ⟨by omega, hab⟩
      rw [replace_push_length, if_neg (Nat.lt_irrefl _), push_faults_eq_nil_iff]
      exact ⟨hc, hindex.trans haindex, hprevious.trans haprevious, hsealed, hconsistent⟩

/-! ## 5. Both edits -/

/-- **Tampering shows where it was done.**  Take a chain without faults.

Edit any of its blocks, in anything but index and stored hash.  Then somewhere the old block and the
new one are hashed from different bytes to the same digest; or else a hash mismatch is reported at
every position whose content is another one now, and at no other.

Or give a single block other content, leave its index and its link alone, keep its transactions
consistent and seal it again.  Then the two blocks collide; or else the broken link behind it is all
that is reported, and nothing is where the head was edited. -/
theorem tampering_localised {c : Chain} (hc : c.faults = []) (hfits : ∀ b ∈ c.blocks, b.Fits) :
    (∀ d : Chain, (∀ b ∈ d.blocks, b.Fits) → List.Forall₂ Block.SameSeal c.blocks d.blocks →
        (∃ (i : Nat) (a b : Block), c.blocks[i]? = some a ∧ d.blocks[i]? = some b ∧
            a.Collides b) ∨
          d.mismatches = (c.changed d).map fun i => ⟨UInt64.ofNat i, .hashMismatch⟩) ∧
      ∀ (k : Nat) (b b' : Block), c.blocks[k]? = some b → b'.Fits → b'.content ≠ b.content →
        b'.index = b.index → b'.previousHash = b.previousHash →
        (∀ tx ∈ b'.transactions, tx.isConsistent = true) → b'.hash = b'.digest →
          b.Collides b' ∨ (c.replace k b').faults =
            if k + 1 < c.length then [⟨UInt64.ofNat (k + 1), .brokenLink⟩] else [] := by
  constructor
  · intro d hfd hsame
    refine or_iff_not_imp_left.mpr fun hcollision => ?_
    exact mismatches_of_sameSeal hc hfits hfd hsame fun i a b ha hb hcollides =>
      hcollision ⟨i, a, b, ha, hb, hcollides⟩
  · intro k b b' hb hfits' hcontent hindex hprevious hconsistent hsealed
    refine or_iff_not_imp_left.mpr fun hcollision => ?_
    have hbc : b ∈ c.blocks := List.mem_of_getElem? hb
    have hhash : b'.hash ≠ b.hash := by
      rw [hsealed, hash_eq_of_faults_eq_nil hc hbc]
      intro hdigest
      exact hcontent
        ((Block.digest_eq_iff_content_eq (hfits b hbc) hfits' hcollision).mp hdigest.symm).symm
    exact faults_replace_resealed hc hb hindex hprevious hsealed
      (Block.forged?_eq_none_iff.mpr hconsistent) hhash

/-- Another producer is put into the second of three blocks, which is sealed again or is not. -/
theorem tampering_localised_to_second_block :
    let b := (Block.genesis 0).next 10 [.ofPayload "pay bob 5"] "A"
    let c := ((Chain.new 0).push b).push (b.next 20 [] "A")
    let left := ({ producer := some "B" } : Block.Edit).apply b
    let sealed := ({ producer := some "B", reseal := true } : Block.Edit).apply b
    (c.faults = [] ∧ ∀ b ∈ c.blocks, b.Fits) ∧
      ((∃ (i : Nat) (a b : Block), c.blocks[i]? = some a ∧ (c.replace 1 left).blocks[i]? = some b ∧
          a.Collides b) ∨
        (c.replace 1 left).mismatches = [⟨1, .hashMismatch⟩]) ∧
      (b.Collides sealed ∨ (c.replace 1 sealed).faults = [⟨2, .brokenLink⟩]) := by
  intro b c left sealed
  have hconsistent : ∀ tx ∈ b.transactions, tx.isConsistent = true := by decide +kernel
  have hc : c.faults = [] := push_faults_eq_nil_iff.mpr
    ⟨push_faults_eq_nil_iff.mpr ⟨faults_new 0, rfl, rfl, Block.hash_sealed _ _ _ _ _,
      Block.forged?_eq_none_iff.mpr hconsistent⟩, rfl, rfl, Block.hash_sealed _ _ _ _ _, rfl⟩
  obtain ⟨hfits, hleft, hsealed, hchanged⟩ : (∀ b ∈ c.blocks, b.Fits) ∧
      (∀ b ∈ (c.replace 1 left).blocks, b.Fits) ∧ sealed.Fits ∧
        c.changed (c.replace 1 left) = [1] := by
    decide +kernel
  have hsame : List.Forall₂ Block.SameSeal c.blocks (c.replace 1 left).blocks :=
    .cons ⟨rfl, rfl⟩ (.cons ⟨rfl, rfl⟩ (.cons ⟨rfl, rfl⟩ .nil))
  have hother : sealed.content ≠ b.content := by
    intro h
    have hproducer : "B" = "A" := congrArg Block.producer h
    exact absurd hproducer (by decide)
  obtain ⟨hmismatches, hlink⟩ := tampering_localised hc hfits
  refine ⟨⟨hc, hfits⟩, ?_, ?_⟩
  · have hleft := hmismatches _ hleft hsame
    rw [hchanged] at hleft
    exact hleft
  · have hhash : sealed.hash = sealed.digest :=
      (Block.digest_reseal { b with producer := "B" }).symm
    exact hlink 1 b sealed rfl hsealed hother rfl rfl hconsistent hhash

end Chain

end StakeChain
