/-
# Pending transactions reach the chain once and in order

The mempool empties when, and only when, a block of all that waits has been produced from it.  Such
a production may fail on the way, after other blocks have come in or after several attempts; it
then leaves the mempool as it was.  Blocks of other transactions, whether produced here or offered
from elsewhere, do not touch the mempool at all.

`Ledger.Delivered` says what this comes to between two states of a ledger and the transcript that
leads from one to the other: what waited and what was submitted is, as one sequence, what was
delivered and what waits now.  A production from the mempool takes all that waits or nothing
(`Ledger.producePending_cases`), so one operation delivers (`Ledger.perform_delivered`); deliveries
compose (`Delivered.trans`), and so a history delivers (`Ledger.run_delivered`).

Main statement: `Ledger.pending_delivered_once_in_order`.
-/
import StakeChain.Proofs.Ledger.History

namespace StakeChain

/-! ## 1. What a transcript says -/

/-- The payload that an operation submits. -/
def Operation.payload? : Operation → Option String
  | .submit payload => some payload
  | _ => none

namespace Transcript

/-- The transactions that submissions returned, in the order of submission. -/
def submitted (t : Transcript) : List Transaction :=
  t.filterMap fun
    | (.submit _, .ok (.transaction tx)) => some tx
    | _ => none

/-- The blocks that productions from the mempool returned, in the order of production. -/
def deliveries (t : Transcript) : List Block :=
  t.filterMap fun
    | (.producePending _, .ok (.block b)) => some b
    | _ => none

theorem submitted_append (t u : Transcript) :
    (t ++ u : Transcript).submitted = t.submitted ++ u.submitted := List.filterMap_append

theorem deliveries_append (t u : Transcript) :
    (t ++ u : Transcript).deliveries = t.deliveries ++ u.deliveries := List.filterMap_append

end Transcript

namespace Ledger

variable {σ : Type}

/-! ## 2. Delivery between two states -/

/-- **The invariant**: between `l` and `l'` lies the transcript `t`.  What was delivered and what
waits now is what waited and what was submitted; and the blocks that delivered stand, in their
order, among those that came onto the chain. -/
structure Delivered (l : Ledger σ) (t : Transcript) (l' : Ledger σ) : Prop where
  inOrder : t.deliveries.flatMap (·.transactions) ++ l'.mempool.pending =
    l.mempool.pending ++ t.submitted
  onChain : ∃ added, l'.chain.blocks = l.chain.blocks ++ added ∧ t.deliveries.Sublist added

namespace Delivered

variable {l l' l'' : Ledger σ} {t u : Transcript}

/-- Whatever neither submits nor delivers leaves the mempool alone. -/
theorem idle (hsubmitted : t.submitted = []) (hdeliveries : t.deliveries = [])
    (hmempool : l'.mempool = l.mempool) (hchain : l.chain.Extends l'.chain) : Delivered l t l' where
  inOrder := by
    rw [hsubmitted, hdeliveries, hmempool, List.flatMap_nil, List.nil_append, List.append_nil]
  onChain := by
    obtain ⟨added, hadded⟩ := hchain.isPrefix
    rw [hdeliveries]
    exact ⟨added, hadded.symm, List.nil_sublist added⟩

theorem trans (h : Delivered l t l') (h' : Delivered l' u l'') : Delivered l (t ++ u) l'' where
  inOrder := by
    rw [Transcript.deliveries_append, Transcript.submitted_append, List.flatMap_append]
    calc t.deliveries.flatMap (·.transactions) ++ u.deliveries.flatMap (·.transactions) ++
          l''.mempool.pending
        = t.deliveries.flatMap (·.transactions) ++ (l'.mempool.pending ++ u.submitted) := by
          rw [List.append_assoc, h'.inOrder]
      _ = l.mempool.pending ++ (t.submitted ++ u.submitted) := by
          rw [← List.append_assoc, h.inOrder, List.append_assoc]
  onChain := by
    obtain ⟨early, hearly, hsub⟩ := h.onChain
    obtain ⟨late, hlate, hsub'⟩ := h'.onChain
    refine ⟨early ++ late, ?_, ?_⟩
    · rw [hlate, hearly, List.append_assoc]
    · rw [Transcript.deliveries_append]
      exact hsub.append hsub'

end Delivered

variable [DrawSource σ]

/-! ## 3. Operations and histories -/

/-- **Sealing the mempool takes all that waits, or nothing.**  A failure leaves the registry and the
mempool alone; a success puts what waited into one block, behind the blocks of others that came
in meanwhile. -/
theorem producePending_cases (l : Ledger σ) (now : Time) :
    (∃ e l', l.producePending now = (.error e, l') ∧ l'.registry = l.registry ∧
        l'.mempool = l.mempool) ∨
      ∃ b l', l.producePending now = (.ok b, l') ∧ b.transactions = l.mempool.pending ∧
        l'.mempool = .empty ∧ ∃ foreign, l'.chain.blocks = l.chain.blocks ++ foreign ++ [b] := by
  have hproduced := l.toMint.produce_produced l.mempool.pending now
  cases hresult : (l.toMint.produce l.mempool.pending now).1 with
  | error e =>
    rw [hresult] at hproduced
    obtain ⟨_, u, -, hmint⟩ := hproduced.of_error
    refine Or.inl ⟨e, _, producePending_of_error hresult, ?_, rfl⟩
    show (l.toMint.produce l.mempool.pending now).2.registry = l.registry
    rw [hmint]
  | ok b =>
    rw [hresult] at hproduced
    obtain ⟨htransactions, hblocks⟩ := hproduced.of_ok
    exact Or.inr ⟨b, _, producePending_of_ok hresult, htransactions, rfl, hblocks⟩

/-- So a production from the mempool delivers all that waits, or nothing. -/
theorem producePending_delivered (l : Ledger σ) (now : Time) :
    Delivered l [(.producePending now, (l.perform (.producePending now)).1)]
      (l.perform (.producePending now)).2 := by
  have hextends := l.perform_extends (.producePending now)
  rcases l.producePending_cases now with
    ⟨e, l', hproduce, -, hmempool⟩ | ⟨b, l', hproduce, htransactions, hmempool, foreign, hblocks⟩
  · simp only [perform, hproduce] at hextends ⊢
    exact .idle rfl rfl hmempool hextends
  · simp only [perform, hproduce]
    constructor
    · show [b].flatMap (·.transactions) ++ l'.mempool.pending = l.mempool.pending ++ []
      rw [List.flatMap_singleton, htransactions, hmempool]
      rfl
    · refine ⟨foreign ++ [b], ?_, List.sublist_append_right foreign [b]⟩
      rw [← List.append_assoc]
      exact hblocks

theorem perform_delivered (l : Ledger σ) (op : Operation) :
    Delivered l [(op, (l.perform op).1)] (l.perform op).2 := by
  have hextends := l.perform_extends op
  cases op with
  | stake _ => exact .idle rfl rfl rfl hextends
  | validator _ => exact .idle rfl rfl rfl hextends
  | append b =>
    refine .idle rfl rfl ?_ hextends
    cases h : l.chain.append b <;> simp [perform, h]
  | block _ => exact .idle rfl rfl rfl hextends
  | submit payload => exact ⟨rfl, [], (List.append_nil _).symm, List.nil_sublist []⟩
  | produce _ _ => exact .idle rfl rfl rfl hextends
  | producePending now => exact l.producePending_delivered now

/-- **A history delivers.** -/
theorem run_delivered : ∀ (ops : List Operation) (l : Ledger σ),
    Delivered l (l.transcript ops) (l.run ops).2
  | [], _ => .idle rfl rfl rfl .refl
  | op :: rest, l => (l.perform_delivered op).trans (run_delivered rest (l.perform op).2)

/-- A submission always succeeds, and returns the transaction with its payload. -/
theorem submitted_transcript : ∀ (ops : List Operation) (l : Ledger σ),
    (l.transcript ops).submitted = (ops.filterMap Operation.payload?).map .ofPayload
  | [], _ => rfl
  | op :: rest, l => by
    have hrest := submitted_transcript rest (l.perform op).2
    rw [transcript_cons, ← List.singleton_append, Transcript.submitted_append, hrest]
    cases op with
    | submit payload => rfl
    | _ => rfl

/-- **Each submitted transaction is delivered once and in order, or still waits.**  In any history,
take the blocks that were produced from the mempool.  They stand on the chain in the order of
their production; the transactions in them, followed by those that wait, are the transactions that
submissions returned, one for each submission and in the order of submission.  Producing a block
of other transactions leaves the mempool as it is. -/
theorem pending_delivered_once_in_order (config : Config) (clock : Time) (source : σ)
    (ops : List Operation) :
    let l := Ledger.new config clock source
    let l' := (l.run ops).2
    let t := l.transcript ops
    t.deliveries.flatMap (·.transactions) ++ l'.mempool.pending = t.submitted ∧
      t.submitted = (ops.filterMap Operation.payload?).map .ofPayload ∧
      t.deliveries.Sublist l'.chain.blocks ∧
      ∀ transactions now, (l'.perform (.produce transactions now)).2.mempool = l'.mempool := by
  intro l l' t
  have hdelivered : Delivered l t l' := run_delivered ops l
  refine ⟨hdelivered.inOrder, submitted_transcript ops l, ?_, fun _ _ => rfl⟩
  obtain ⟨added, hadded, hsub⟩ := hdelivered.onChain
  rw [hadded]
  exact hsub.trans (List.sublist_append_right l.chain.blocks added)

end Ledger

end StakeChain
