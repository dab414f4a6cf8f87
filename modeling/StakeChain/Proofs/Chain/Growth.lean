/-
# How a chain grows

A chain grows by appends and by nothing else.  `Chain.Extends` says that one chain comes from
another by appends that all succeed; the blocks of the first are then the first blocks of the
second (`Chain.Extends.isPrefix`), so nothing that is stored is ever changed.

Others extend the chain while a draw is made.  Of the blocks that a source offers, the chain
takes those that pass its checks at their turn (`Chain.accepted`); `Urn.Drawn` follows any
number of draws and keeps the list of the blocks that came in that way, in order.  A source that
never offers any (`DrawSource.Quiet`) leaves the chain to whoever draws.
-/
import StakeChain.Election.Basic

namespace StakeChain

/-! ## 1. Appends, one after another -/

namespace Chain

/-- `c.Extends d`: appends that all succeed, one after another, lead from `c` to `d`. -/
inductive Extends (c : Chain) : Chain → Prop where
  | refl : Extends c c
  | append {d d' : Chain} {b : Block} : Extends c d → d.append b = .ok d' → Extends c d'

/-- A chain is given by its blocks. -/
theorem eq_of_blocks_eq {c d : Chain} (h : c.blocks = d.blocks) : c = d := by
  obtain ⟨_, _⟩ := c
  obtain ⟨_, _⟩ := d
  cases h
  rfl

/-- A successful append pushes the block. -/
theorem blocks_append {c c' : Chain} {b : Block} (h : c.append b = .ok c') :
    c'.blocks = c.blocks ++ [b] := by
  rw [((append_eq_ok_iff c c' b).mp h).2, blocks_push]

theorem Extends.trans {c d e : Chain} (h : c.Extends d) (h' : d.Extends e) : c.Extends e := by
  induction h' with
  | refl => exact h
  | append _ hb ih => exact ih.append hb

/-- **What is stored stays as it is**: a chain starts with the blocks of the chain it extends. -/
theorem Extends.isPrefix {c d : Chain} (h : c.Extends d) : c.blocks <+: d.blocks := by
  induction h with
  | refl => exact List.prefix_rfl
  | append _ hb ih =>
    rw [blocks_append hb]
    exact ih.trans (List.prefix_append _ _)

theorem Extends.length_le {c d : Chain} (h : c.Extends d) : c.length ≤ d.length :=
  h.isPrefix.length_le

/-- An extension by no block is the chain itself. -/
theorem Extends.eq_of_length_eq {c d : Chain} (h : c.Extends d) (hlength : d.length = c.length) :
    d = c :=
  (eq_of_blocks_eq (h.isPrefix.eq_of_length hlength.symm)).symm

/-! ## 2. Offers -/

/-- The blocks among the offers that the chain takes, each at its turn. -/
def accepted : Chain → List Block → List Block
  | _, [] => []
  | c, b :: rest =>
    match c.append b with
    | .ok c' => b :: accepted c' rest
    | .error _ => accepted c rest

theorem extends_offer (c : Chain) (b : Block) : c.Extends (c.offer b) := by
  unfold offer
  split
  · rename_i hb
    exact Extends.refl.append hb
  · exact .refl

theorem extends_foldl_offer : ∀ (offers : List Block) (c : Chain),
    c.Extends (offers.foldl offer c)
  | [], _ => .refl
  | b :: rest, c => (extends_offer c b).trans (extends_foldl_offer rest (c.offer b))

/-- **After a series of offers the chain has the accepted ones at its end**, and no others. -/
theorem blocks_foldl_offer : ∀ (offers : List Block) (c : Chain),
    (offers.foldl offer c).blocks = c.blocks ++ c.accepted offers
  | [], c => (List.append_nil c.blocks).symm
  | b :: rest, c => by
    rw [List.foldl_cons, blocks_foldl_offer rest]
    cases hb : c.append b with
    | ok c' =>
      have hblocks : c'.blocks = c.blocks ++ [b] := blocks_append hb
      simp [offer, accepted, hb, hblocks]
    | error e => simp [offer, accepted, hb]

end Chain

/-! ## 3. Draws -/

namespace Urn

variable {σ : Type} [DrawSource σ]

/-- The blocks of others that a draw brings onto the chain. -/
def foreign (u : Urn σ) (upper : Nat) : List Block :=
  u.chain.accepted (DrawSource.draw u.source upper u.chain).offers

/-- `u.Drawn upper foreign v`: draws below `upper`, one after another, lead from `u` to `v`, and
`foreign` are the blocks that they brought onto the chain. -/
inductive Drawn (upper : Nat) (u : Urn σ) : List Block → Urn σ → Prop where
  | start : Drawn upper u [] u
  | draw {blocks : List Block} {v : Urn σ} : Drawn upper u blocks v →
      Drawn upper u (blocks ++ v.foreign upper) (v.draw upper).2

/-- One draw. -/
theorem Drawn.once (upper : Nat) (u : Urn σ) :
    u.Drawn upper (u.foreign upper) (u.draw upper).2 := Drawn.start.draw

theorem Drawn.trans {upper : Nat} {u v w : Urn σ} {early late : List Block}
    (h : u.Drawn upper early v) (h' : v.Drawn upper late w) : u.Drawn upper (early ++ late) w := by
  induction h' with
  | start => rwa [List.append_nil]
  | draw _ ih => rw [← List.append_assoc]; exact ih.draw

/-- **Draws add the blocks of others to the chain and do nothing else to it.** -/
theorem Drawn.blocks {upper : Nat} {u v : Urn σ} {foreign : List Block}
    (h : u.Drawn upper foreign v) : v.chain.blocks = u.chain.blocks ++ foreign := by
  induction h with
  | start => rw [List.append_nil]
  | draw _ ih => rw [← List.append_assoc, ← ih]; exact Chain.blocks_foldl_offer _ _

theorem Drawn.extends {upper : Nat} {u v : Urn σ} {foreign : List Block}
    (h : u.Drawn upper foreign v) : u.chain.Extends v.chain := by
  induction h with
  | start => exact .refl
  | draw _ ih => exact ih.trans (Chain.extends_foldl_offer _ _)

end Urn

/-! ## 4. Quiet sources -/

namespace DrawSource

variable {σ : Type} [DrawSource σ]

/-- The states that a source can come to by draws, whatever the bounds and the chains. -/
inductive Reaches (s : σ) : σ → Prop where
  | start : Reaches s s
  | draw {t : σ} (upper : Nat) (c : Chain) :
      Reaches s t → Reaches s (DrawSource.draw t upper c).next

/-- A source that offers no blocks, in its next draw or in any later one. -/
def Quiet (s : σ) : Prop :=
  ∀ t, Reaches s t → ∀ (upper : Nat) (c : Chain), (DrawSource.draw t upper c).offers = []

end DrawSource

namespace Urn

variable {σ : Type} [DrawSource σ]

theorem Drawn.reaches {upper : Nat} {u v : Urn σ} {foreign : List Block}
    (h : u.Drawn upper foreign v) : DrawSource.Reaches u.source v.source := by
  induction h with
  | start => exact .start
  | @draw _ v _ ih => exact ih.draw upper v.chain

/-- **Draws from a quiet source leave the chain alone.** -/
theorem Drawn.chain_of_quiet {upper : Nat} {u v : Urn σ} {foreign : List Block}
    (h : u.Drawn upper foreign v) (hquiet : DrawSource.Quiet u.source) : v.chain = u.chain := by
  induction h with
  | start => rfl
  | @draw _ v hdrawn ih =>
    have hnone := hquiet v.source hdrawn.reaches upper v.chain
    show (DrawSource.draw v.source upper v.chain).offers.foldl Chain.offer v.chain = u.chain
    rw [hnone, List.foldl_nil, ih]

/-! ## 5. Elections -/

theorem mem_of_winner? {number : Nat} {v : Validator} :
    ∀ {before : Nat} {candidates : List Validator},
      winner? number before candidates = some v → v ∈ candidates
  | _, [], h => by simp [winner?] at h
  | before, w :: rest, h => by
    simp only [winner?] at h
    split at h
    · cases h
      exact List.mem_cons_self
    · exact List.mem_cons_of_mem _ (mem_of_winner? h)

/-- **An election fails without candidates only, and otherwise elects one of them**, after one
draw at most. -/
theorem elect_cases (u : Urn σ) (candidates : List Validator) :
    (candidates = [] ∧ u.elect candidates = (.error .noLiveValidator, u)) ∨
      ∃ leader ∈ candidates, ∃ foreign v, u.Drawn (totalStake candidates) foreign v ∧
        u.elect candidates = (.ok leader, v) := by
  unfold elect
  cases hlast : candidates.getLast? with
  | none => exact Or.inl ⟨List.getLast?_eq_none_iff.mp hlast, rfl⟩
  | some last =>
    have hmem : last ∈ candidates := List.mem_of_getLast? hlast
    refine Or.inr ?_
    by_cases htotal : totalStake candidates = 0
    · exact ⟨last, hmem, [], u, .start, by simp [htotal]⟩
    · refine ⟨(winner? (u.draw (totalStake candidates)).1 0 candidates).getD last, ?_, _, _,
        .once _ u, by simp [htotal]⟩
      cases hw : winner? (u.draw (totalStake candidates)).1 0 candidates with
      | none => exact hmem
      | some v => exact mem_of_winner? hw

end Urn

end StakeChain
