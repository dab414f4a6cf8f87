/-
# Operations

What can be asked of a ledger, as data, so that a history is a list of operations.  `perform`
carries out one of them and gives its answer and the ledger after it; `run` carries out a
history.  Operations on stakes touch the staking pool only, operations on validators the registry
only, and one that is refused leaves its part of the ledger as it was.

What an outsider can write down of a history is its transcript, the operations with their answers;
`run_invariant` is the induction behind every statement that compares the two.
-/
import StakeChain.Ledger.Basic

namespace StakeChain

/-- An operation on stakes. -/
inductive StakeOperation where
  | openStake (owner : String) (amount : Amount) (now : Time)
  | accrue (owner : String) (now : Time)
  | claim (owner : String) (now : Time)
  | increase (owner : String) (delta : Amount) (now : Time)
  | close (owner : String) (now : Time)
  | find (owner : String)
deriving DecidableEq, Repr

/-- An operation on validators. -/
inductive ValidatorOperation where
  | register (identifier : String) (stake : Amount) (now : Time)
  | heartbeat (identifier : String) (now : Time)
  | setActive (identifier : String) (active : Bool)
  | credit (identifier : String) (amount : Amount)
  | remove (identifier : String)
  | find (identifier : String)
deriving DecidableEq, Repr

/-- An operation on a ledger. -/
inductive Operation where
  | stake (op : StakeOperation)
  | validator (op : ValidatorOperation)
  | append (block : Block)
  | block (index : UInt64)
  | submit (payload : String)
  | produce (transactions : List Transaction) (now : Time)
  | producePending (now : Time)
deriving DecidableEq, Repr

/-- What a successful operation answers. -/
inductive Answer where
  | done
  | stake (record : Stake)
  | amount (value : Amount)
  | withdrawal (released : Withdrawal)
  | validator (record : Validator)
  | block (block : Block)
  | transaction (tx : Transaction)
deriving DecidableEq, Repr

/-- The answer and the state after a change: a refused change leaves the state as it was. -/
def settle {ε α β τ : Type} (before : τ) (wrap : α → β) : Except ε (α × τ) → Except ε β × τ
  | .ok (a, after) => (.ok (wrap a), after)
  | .error e => (.error e, before)

/-- **A change is refused and leaves the state, or it succeeds** and leaves its own. -/
theorem settle_cases {ε α β τ : Type} {motive : Except ε β → τ → Prop} {before : τ} {wrap : α → β}
    {change : Except ε (α × τ)} (refused : ∀ e, motive (.error e) before)
    (succeeded : ∀ a after, change = .ok (a, after) → motive (.ok (wrap a)) after) :
    motive (settle before wrap change).1 (settle before wrap change).2 := by
  cases change with
  | error e => exact refused e
  | ok x => exact succeeded x.1 x.2 rfl

/-- A question is refused, or it succeeds. -/
theorem answer_cases {ε α β : Type} {motive : Except ε β → Prop} {wrap : α → β}
    {answer : Except ε α}
    (refused : ∀ e, motive (.error e)) (succeeded : ∀ a, answer = .ok a → motive (.ok (wrap a))) :
    motive (answer.map wrap) := by
  cases answer with
  | error e => exact refused e
  | ok a => exact succeeded a rfl

/-- Carry out an operation on stakes. -/
def StakePool.perform (p : StakePool) : StakeOperation → Except LedgerError Answer × StakePool
  | .openStake owner amount now => settle p .stake (p.openStake owner amount now)
  | .accrue owner now => ((p.accrued owner now).map .amount, p)
  | .claim owner now => settle p .amount (p.claim owner now)
  | .increase owner delta now => settle p .stake (p.increase owner delta now)
  | .close owner now => settle p .withdrawal (p.close owner now)
  | .find owner => ((p.find owner).map .stake, p)

/-- Carry out an operation on validators. -/
def Registry.perform (r : Registry) : ValidatorOperation → Except LedgerError Answer × Registry
  | .register identifier stake now => settle r .validator (r.register identifier stake now)
  | .heartbeat identifier now => settle r (fun _ => .done) (r.heartbeat identifier now)
  | .setActive identifier active => settle r .validator (r.setActive identifier active)
  | .credit identifier amount => settle r (fun v => .amount v.stake) (r.credit identifier amount)
  | .remove identifier => settle r .validator (r.remove identifier)
  | .find identifier => ((r.find identifier).map .validator, r)

namespace Ledger

variable {σ : Type} [DrawSource σ]

/-- Carry out an operation. -/
def perform (l : Ledger σ) : Operation → Except LedgerError Answer × Ledger σ
  | .stake op =>
    let (answer, stakes) := l.stakes.perform op
    (answer, { l with stakes })
  | .validator op =>
    let (answer, registry) := l.registry.perform op
    (answer, { l with registry })
  | .append b =>
    match l.chain.append b with
    | .ok chain => (.ok .done, { l with chain })
    | .error e => (.error e, l)
  | .block index => ((l.chain.block index).map .block, l)
  | .submit payload =>
    let (tx, mempool) := l.mempool.submit payload
    (.ok (.transaction tx), { l with mempool })
  | .produce transactions now =>
    let (result, l) := l.produce transactions now
    (result.map .block, l)
  | .producePending now =>
    let (result, l) := l.producePending now
    (result.map .block, l)

/-- Carry out a history: the answers in order, and the ledger at its end. -/
def run (l : Ledger σ) : List Operation → List (Except LedgerError Answer) × Ledger σ
  | [] => ([], l)
  | op :: rest =>
    let (answer, l) := l.perform op
    let (answers, l) := l.run rest
    (answer :: answers, l)

end Ledger

/-! ## Transcripts -/

/-- What was asked of a ledger, in order, each operation with its answer. -/
abbrev Transcript := List (Operation × Except LedgerError Answer)

namespace Ledger

variable {σ : Type} [DrawSource σ]

/-- The transcript of a history. -/
def transcript (l : Ledger σ) (ops : List Operation) : Transcript := ops.zip (l.run ops).1

theorem transcript_cons (l : Ledger σ) (op : Operation) (rest : List Operation) :
    l.transcript (op :: rest) = (op, (l.perform op).1) :: (l.perform op).2.transcript rest := rfl

/-- An entry of a transcript was made by the ledger that the entries before it had led to. -/
theorem exists_of_transcript_eq_append {entry : Operation × Except LedgerError Answer}
    {after : Transcript} :
    ∀ {before : Transcript} {ops : List Operation} {l : Ledger σ},
      l.transcript ops = before ++ entry :: after →
      ∃ earlier op, l.transcript earlier = before ∧
        entry = (op, ((l.run earlier).2.perform op).1)
  | [], op :: rest, l, h => by
    rw [transcript_cons, List.nil_append, List.cons.injEq] at h
    exact ⟨[], op, rfl, h.1.symm⟩
  | first :: before, op :: rest, l, h => by
    rw [transcript_cons, List.cons_append, List.cons.injEq] at h
    obtain ⟨hfirst, hrest⟩ := h
    obtain ⟨earlier, later, hearlier, hentry⟩ := exists_of_transcript_eq_append hrest
    exact ⟨op :: earlier, later, by rw [transcript_cons, hfirst, hearlier], hentry⟩

/-- **What every operation keeps, a history keeps**, between a ledger and anything that is noted
down from the transcript alone. -/
theorem run_invariant {α : Type} {motive : Ledger σ → α → Prop}
    {note : α → Operation × Except LedgerError Answer → α}
    (hstep : ∀ {l : Ledger σ} {a : α} (op : Operation), motive l a →
      motive (l.perform op).2 (note a (op, (l.perform op).1))) :
    ∀ (ops : List Operation) {l : Ledger σ} {a : α}, motive l a →
      motive (l.run ops).2 ((l.transcript ops).foldl note a)
  | [], _, _, h => h
  | op :: rest, _, _, h => run_invariant hstep rest (hstep op h)

/-- The same of a ledger alone. -/
theorem run_keeps {motive : Ledger σ → Prop}
    (hstep : ∀ {l : Ledger σ} (op : Operation), motive l → motive (l.perform op).2) :
    ∀ (ops : List Operation) {l : Ledger σ}, motive l → motive (l.run ops).2
  | [], _, h => h
  | op :: rest, _, h => run_keeps hstep rest (hstep op h)

end Ledger

end StakeChain
