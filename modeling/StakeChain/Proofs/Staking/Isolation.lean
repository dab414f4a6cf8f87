/-
# Stakes do not interfere

An operation on stakes reads the terms of the pool and one record, that of the owner it names, and
writes that record if it writes at all.  So two pools with the same terms and the same record for
an owner (`StakePool.AgreeOn`) give that owner the same answers and stay as they are to it, however
much else is in them.  For each change of the pool this is one lemma that follows its code
(`StakePool.AgreeOn.claim` and its neighbours), through outcomes that look the same to the owner
(`StakePool.Alike`).

Operations of other owners keep the record (`StakePool.Performed.get?_of_ne`), and everything that
is not about stakes keeps the whole pool (`Ledger.stakes_perform`).  A history can therefore be
stripped of all of it.

Main statement: `Ledger.owner_unaffected_by_others`.
-/
import StakeChain.Proofs.Staking.Conservation

namespace StakeChain

/-- The operation is one on the stakes of this owner. -/
def Operation.isOfOwner (owner : String) : Operation → Bool
  | .stake op => op.owner = owner
  | _ => false

theorem Transcript.ofOwner_cons (op : Operation) (answer : Except LedgerError Answer)
    (t : Transcript) (owner : String) :
    ofOwner ((op, answer) :: t) owner =
      if op.isOfOwner owner then (op, answer) :: t.ofOwner owner else t.ofOwner owner := by
  cases op <;> simp [ofOwner, Operation.isOfOwner, List.filter_cons]

namespace StakePool

/-! ## 1. Outcomes that look the same to an owner -/

/-- The pools look the same to an owner. -/
structure AgreeOn (owner : String) (p q : StakePool) : Prop where
  terms : p.terms = q.terms
  record : p.stakes.get? owner = q.stakes.get? owner

/-- The outcomes of a change look the same to an owner: they are the same refusal, or the same
answer with pools that look the same. -/
inductive Alike (owner : String) {α : Type} :
    Except LedgerError (α × StakePool) → Except LedgerError (α × StakePool) → Prop where
  | refused {e : LedgerError} : Alike owner (.error e) (.error e)
  | accepted {a : α} {p q : StakePool} : AgreeOn owner p q → Alike owner (.ok (a, p)) (.ok (a, q))

variable {owner : String} {p q : StakePool} {α β : Type}

namespace Alike

variable {x x' y y' : Except LedgerError (α × StakePool)}

/-- What is checked first is the same for both. -/
theorem bind (step : Except LedgerError β) {f g : β → Except LedgerError (α × StakePool)}
    (h : ∀ b, Alike owner (f b) (g b)) : Alike owner (step >>= f) (step >>= g) := by
  cases step with
  | error e => exact .refused
  | ok b => exact h b

theorem ite {c : Prop} [Decidable c] (h : Alike owner x x') (h' : Alike owner y y') :
    Alike owner (if c then x else y) (if c then x' else y') := by
  split
  · exact h
  · exact h'

theorem settle {wrap : α → Answer} (hchange : Alike owner x x') (h : AgreeOn owner p q) :
    (StakeChain.settle p wrap x).1 = (StakeChain.settle q wrap x').1 ∧
      AgreeOn owner (StakeChain.settle p wrap x).2 (StakeChain.settle q wrap x').2 := by
  cases hchange with
  | refused => exact ⟨rfl, h⟩
  | accepted hafter => exact ⟨rfl, hafter⟩

end Alike

/-! ## 2. One operation -/

namespace AgreeOn

theorem put (h : AgreeOn owner p q) (s : Stake) :
    AgreeOn owner (p.put owner s) (q.put owner s) where
  terms := h.terms
  record := by rw [get?_put_self, get?_put_self]

theorem find (h : AgreeOn owner p q) : p.find owner = q.find owner := by
  rw [StakePool.find, StakePool.find, h.record]

theorem active (h : AgreeOn owner p q) : p.active owner = q.active owner := by
  rw [StakePool.active, StakePool.active, h.find]

theorem accrued (h : AgreeOn owner p q) (now : Time) :
    p.accrued owner now = q.accrued owner now := by
  rw [StakePool.accrued, StakePool.accrued, h.active, h.terms]

theorem openStake (h : AgreeOn owner p q) (amount : Amount) (now : Time) :
    Alike owner (p.openStake owner amount now) (q.openStake owner amount now) := by
  rw [StakePool.openStake, StakePool.openStake, h.terms, h.record]
  exact .ite .refused (.ite .refused (.ite .refused (.ite .refused (.accepted (h.put _)))))

theorem claim (h : AgreeOn owner p q) (now : Time) :
    Alike owner (p.claim owner now) (q.claim owner now) := by
  rw [StakePool.claim, StakePool.claim, h.active, h.terms]
  exact .bind _ fun _ => .bind _ fun _ => .accepted (h.put _)

theorem increase (h : AgreeOn owner p q) (delta : Amount) (now : Time) :
    Alike owner (p.increase owner delta now) (q.increase owner delta now) := by
  rw [StakePool.increase, StakePool.increase, h.active, h.terms]
  exact .ite .refused (.bind _ fun _ => .bind _ fun _ => .accepted (h.put _))

theorem close (h : AgreeOn owner p q) (now : Time) :
    Alike owner (p.close owner now) (q.close owner now) := by
  rw [StakePool.close, StakePool.close, h.active, h.terms]
  exact .bind _ fun _ => .ite (.bind _ fun _ => .accepted (h.put _)) .refused

/-- **Pools that look the same to an owner give it the same answer**, and still look the same
afterwards. -/
theorem perform {op : StakeOperation} (h : AgreeOn op.owner p q) :
    (p.perform op).1 = (q.perform op).1 ∧ AgreeOn op.owner (p.perform op).2 (q.perform op).2 := by
  cases op with
  | openStake owner amount now => exact (h.openStake amount now).settle h
  | accrue owner now => exact ⟨congrArg (Except.map Answer.amount) (h.accrued now), h⟩
  | claim owner now => exact (h.claim now).settle h
  | increase owner delta now => exact (h.increase delta now).settle h
  | close owner now => exact (h.close now).settle h
  | find owner => exact ⟨congrArg (Except.map Answer.stake) h.find, h⟩

/-- An operation that names somebody else changes nothing that the owner sees. -/
theorem performed_of_ne {p' : StakePool} {op : StakeOperation} {answer : Except LedgerError Answer}
    (h : AgreeOn owner p q) (hperformed : p.Performed op answer p') (hne : op.owner ≠ owner) :
    AgreeOn owner p' q where
  terms := hperformed.terms.trans h.terms
  record := (hperformed.get?_of_ne hne).trans h.record

end AgreeOn

end StakePool

/-! ## 3. Histories -/

namespace Ledger

variable {σ τ : Type} [DrawSource σ] [DrawSource τ] {owner : String}

/-- Whatever is not about the stakes of an owner changes nothing that the owner sees. -/
theorem agreeOn_perform_of_not_isOfOwner {l : Ledger σ} {q : StakePool} {op : Operation}
    (h : StakePool.AgreeOn owner l.stakes q) (hop : op.isOfOwner owner = false) :
    StakePool.AgreeOn owner (l.perform op).2.stakes q := by
  rw [stakes_perform]
  cases op with
  | stake op => exact h.performed_of_ne (l.stakes.perform_performed op) (of_decide_eq_false hop)
  | _ => exact h

/-- **A history and what an owner has done in it** are the same to that owner, on any two ledgers
whose pools look the same to it, whatever else they hold. -/
theorem run_agreeOn (ops : List Operation) {l : Ledger σ} {m : Ledger τ}
    (h : StakePool.AgreeOn owner l.stakes m.stakes) :
    (l.transcript ops).ofOwner owner = m.transcript (ops.filter (·.isOfOwner owner)) ∧
      StakePool.AgreeOn owner (l.run ops).2.stakes
        (m.run (ops.filter (·.isOfOwner owner))).2.stakes := by
  induction ops generalizing l m with
  | nil => exact ⟨rfl, h⟩
  | cons op rest ih =>
    rw [transcript_cons, Transcript.ofOwner_cons]
    cases hop : op.isOfOwner owner with
    | false =>
      rw [List.filter_cons_of_neg (by simp [hop])]
      exact ih (agreeOn_perform_of_not_isOfOwner h hop)
    | true =>
      rw [List.filter_cons_of_pos hop]
      cases op with
      | stake op =>
        obtain rfl : op.owner = owner := of_decide_eq_true hop
        obtain ⟨hanswer, hafter⟩ := h.perform
        obtain ⟨hanswers, hend⟩ :=
          ih (l := (l.perform (.stake op)).2) (m := (m.perform (.stake op)).2) hafter
        refine ⟨?_, hend⟩
        rw [transcript_cons]
        show (Operation.stake op, (l.stakes.perform op).1) :: _ = (_, (m.stakes.perform op).1) :: _
        rw [hanswer, hanswers]
      | _ => cases hop

/-- **What others do does not touch an owner's stake.**  Take any ledger, any history of it and any
owner, and strike out of the history everything but the operations on that owner's stakes: those
of other owners, and all that is done with validators, blocks, productions and the mempool.  The
operations that are left give the answers that they gave, and leave the record that they left. -/
theorem owner_unaffected_by_others (l : Ledger σ) (owner : String) (ops : List Operation) :
    let own := ops.filter (·.isOfOwner owner)
    (l.transcript ops).ofOwner owner = l.transcript own ∧
      (l.run ops).2.stakes.find owner = (l.run own).2.stakes.find owner := by
  intro own
  have hsame : StakePool.AgreeOn owner l.stakes l.stakes := ⟨rfl, rfl⟩
  obtain ⟨hanswers, hend⟩ := run_agreeOn ops hsame
  exact ⟨hanswers, hend.find⟩

end Ledger

end StakeChain
