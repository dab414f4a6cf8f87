/-
# The chain through a ledger's history

Whatever a ledger is asked to do, its chain is only appended to (`Ledger.perform_extends`,
`Ledger.run_extends`): stakes, validators and the mempool are kept apart from it, a refused block
is not stored, and a production adds the blocks of others and then its own.

Main statement: `Ledger.chain_sound_at_every_point`.  At every point of a history the walk finds
no fault, each block stands at the position that its index names, and the blocks stored so far
are the first ones of every later chain.  An index has 64 bits, so the chain has to stay below
`2 ^ 64` blocks.
-/
import StakeChain.Election.Sources
import StakeChain.Ledger.Operation
import StakeChain.Proofs.Chain.Integrity
import StakeChain.Proofs.Mint.Production

namespace StakeChain

/-! ## 1. Looking up blocks in a chain without faults -/

namespace Chain

/-- The number of blocks is the index behind the head, and it fits. -/
theorem toNat_index_head {c : Chain} (hc : c.faults = []) (hsize : c.length < UInt64.size) :
    c.head.index.toNat + 1 = c.length := by
  have := toNat_index_of_getElem? hc hsize c.getElem?_head
  have := c.length_pos
  omega

theorem block_of_lt {c : Chain} (hc : c.faults = []) {i : UInt64} (hi : i.toNat < c.length) :
    ∃ b, c.block i = .ok b ∧ b.index = i := by
  obtain ⟨b, hb⟩ : ∃ b, c.blocks[i.toNat]? = some b := ⟨_, List.getElem?_eq_getElem hi⟩
  refine ⟨b, ?_, ?_⟩
  · simp only [block, hb]
  · rw [index_of_getElem? hc hb, UInt64.ofNat_toNat]

theorem block_of_le {c : Chain} {i : UInt64} (hi : c.length ≤ i.toNat) :
    c.block i = .error (.noSuchBlock i c.length) := by
  simp only [block, List.getElem?_eq_none hi]

end Chain

/-! ## 2. Histories -/

namespace Ledger

variable {σ : Type} [DrawSource σ]

/-- **An operation appends blocks to the chain and does nothing else to it.** -/
theorem perform_extends (l : Ledger σ) (op : Operation) :
    l.chain.Extends (l.perform op).2.chain := by
  cases op with
  | stake _ => exact .refl
  | validator _ => exact .refl
  | append b =>
    cases hb : l.chain.append b with
    | ok c =>
      simp only [perform, hb]
      exact Chain.Extends.refl.append hb
    | error e =>
      simp only [perform, hb]
      exact .refl
  | block _ => exact .refl
  | submit _ => exact .refl
  | produce transactions now => exact (l.toMint.produce_produced transactions now).extends
  | producePending now => exact (l.toMint.produce_produced l.mempool.pending now).extends

theorem run_extends : ∀ (ops : List Operation) (l : Ledger σ),
    l.chain.Extends (l.run ops).2.chain
  | [], _ => .refl
  | op :: rest, l => (l.perform_extends op).trans (run_extends rest (l.perform op).2)

/-- A history in two parts. -/
theorem run_append : ∀ (earlier later : List Operation) (l : Ledger σ),
    (l.run (earlier ++ later)).2 = ((l.run earlier).2.run later).2
  | [], _, _ => rfl
  | op :: rest, later, l => run_append rest later (l.perform op).2

theorem faults_run_new (config : Config) (clock : Time) (source : σ) (ops : List Operation) :
    ((Ledger.new config clock source).run ops).2.chain.faults = [] :=
  (run_extends ops _).faults_eq_nil (Chain.faults_new clock)

/-- **The chain is sound at every point of a history, and only ever grows.**  After any part of a
history of fewer than `2 ^ 64` blocks there is no fault; the block at a position carries that
position as its index, so that looking up an index finds its block or says that there is none,
no index is filled twice and the index behind the head fits; and the blocks stored so far stay,
unchanged and in place, at the start of every later chain. -/
theorem chain_sound_at_every_point (config : Config) (clock : Time) (source : σ)
    (earlier later : List Operation)
    (hsize : ((Ledger.new config clock source).run (earlier ++ later)).2.chain.length
      < UInt64.size) :
    let c := ((Ledger.new config clock source).run earlier).2.chain
    let d := ((Ledger.new config clock source).run (earlier ++ later)).2.chain
    c.faults = [] ∧
      (∀ (i : Nat) (b : Block), c.blocks[i]? = some b → b.index.toNat = i) ∧
      (∀ i : UInt64, i.toNat < c.length → ∃ b, c.block i = .ok b ∧ b.index = i) ∧
      (∀ i : UInt64, c.length ≤ i.toNat → c.block i = .error (.noSuchBlock i c.length)) ∧
      (∀ (i j : Nat) (a b : Block), c.blocks[i]? = some a → c.blocks[j]? = some b →
        a.index = b.index → i = j) ∧
      c.head.index.toNat + 1 < UInt64.size ∧
      c.blocks <+: d.blocks := by
  intro c d
  have hsound : c.faults = [] := faults_run_new config clock source earlier
  have hprefix : c.blocks <+: d.blocks := by
    have hrun := run_append earlier later (Ledger.new config clock source)
    have := (run_extends later ((Ledger.new config clock source).run earlier).2).isPrefix
    rwa [← hrun] at this
  have hlength : c.length < UInt64.size := Nat.lt_of_le_of_lt hprefix.length_le hsize
  have hposition : ∀ (i : Nat) (b : Block), c.blocks[i]? = some b → b.index.toNat = i :=
    fun _ _ hb => Chain.toNat_index_of_getElem? hsound hlength hb
  refine ⟨hsound, hposition, fun _ hi => Chain.block_of_lt hsound hi,
    fun _ hi => Chain.block_of_le hi, ?_, ?_, hprefix⟩
  · intro i j a b ha hb hab
    rw [← hposition i a ha, ← hposition j b hb, hab]
  · rw [Chain.toNat_index_head hsound hlength]
    exact hlength

/-- A block of pending transactions is sealed, and the first block offered a second time. -/
theorem chain_sound_around_first_sealed_block :
    ((Ledger.new default 0 (Source.script [0])).run
        ([.validator (.register "A" ⟨100000000000⟩ 0), .submit "pay bob 5"] ++
          [.producePending 1, .append (.genesis 0)])).2.chain.length = 2 ∧
      ((Ledger.new default 0 (Source.script [0])).run
          [.validator (.register "A" ⟨100000000000⟩ 0), .submit "pay bob 5"]).2.chain.blocks <+:
        ((Ledger.new default 0 (Source.script [0])).run
          ([.validator (.register "A" ⟨100000000000⟩ 0), .submit "pay bob 5"] ++
            [.producePending 1, .append (.genesis 0)])).2.chain.blocks := by
  have hlength : ((Ledger.new default 0 (Source.script [0])).run
      ([.validator (.register "A" ⟨100000000000⟩ 0), .submit "pay bob 5"] ++
        [.producePending 1, .append (.genesis 0)])).2.chain.length = 2 := by decide +kernel
  obtain ⟨-, -, -, -, -, -, hprefix⟩ := chain_sound_at_every_point default 0 (Source.script [0])
    [.validator (.register "A" ⟨100000000000⟩ 0), .submit "pay bob 5"]
    [.producePending 1, .append (.genesis 0)] (by rw [hlength]; decide)
  exact ⟨hlength, hprefix⟩

end Ledger

end StakeChain
