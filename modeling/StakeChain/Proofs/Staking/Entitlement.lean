/-
# Rewards against the exact entitlement

A history of a ledger is read for one owner, from the operations and their answers only: each
opening that succeeds starts a new passbook, a claim or an increase that succeeds is entered into
it, and a closing ends it (`Account.ofHistory`).  The record that the pool keeps for that owner
is what the account says (`Account.Describes`), whatever else the ledger is asked for in between
and whatever the times are.

Main statement: `Ledger.rewards_within_entitlement`.  At every point of every history, what a
stake has paid and could pay is at most the exact interest, and short of it by less than one unit
for each entry and one more.
-/
import StakeChain.Election.Sources
import StakeChain.Proofs.Staking.Operations
import StakeChain.Proofs.Staking.Passbook

namespace StakeChain

/-! ## 1. Reading a history for one owner -/

/-- What becomes of a stake: it is held, or it was closed with a last reward. -/
inductive Account where
  | held (book : Passbook)
  | closed (book : Passbook) (time : Time) (reward : Amount)
deriving DecidableEq, Repr

/-- What an operation that succeeded means for the account of the owner it names. -/
inductive AccountEvent where
  | opened (time : Time) (deposit : Amount)
  | entered (time : Time) (entry : Entry)
  | closed (time : Time) (reward : Amount)
deriving DecidableEq, Repr

/-- The event behind an operation and its answer; questions are none. -/
def StakeOperation.event? : StakeOperation → Answer → Option AccountEvent
  | .openStake _ amount now, _ => some (.opened now amount)
  | .claim _ now, .amount reward => some (.entered now (.claimed reward))
  | .increase _ delta now, _ => some (.entered now (.increased delta))
  | .close _ now, .withdrawal released => some (.closed now released.rewards)
  | _, _ => none

namespace Account

/-- All rewards paid out since the opening. -/
def paid : Account → Nat
  | held book => book.paid
  | closed book _ reward => book.paid + reward.toNat

/-- The event for an owner behind an operation and its answer: a refusal is none, and neither is
what other owners do. -/
def eventOf (owner : String) : Operation × Except LedgerError Answer → Option AccountEvent
  | (.stake op, .ok answer) => if op.owner = owner then op.event? answer else none
  | _ => none

/-- The account after an event.  An opening starts anew, and without an opening there is no
account. -/
def after : Option Account → AccountEvent → Option Account
  | _, .opened time deposit => some (.held (.opened time deposit))
  | some (.held book), .entered time entry => some (.held (.entered book time entry))
  | some (.held book), .closed time reward => some (.closed book time reward)
  | account?, _ => account?

/-- The account after an operation and its answer. -/
def note (owner : String) (account? : Option Account)
    (x : Operation × Except LedgerError Answer) : Option Account :=
  match eventOf owner x with
  | some event => after account? event
  | none => account?

theorem note_of_event?_eq_some {account? : Option Account} {op : StakeOperation} {answer : Answer}
    {event : AccountEvent} (h : op.event? answer = some event) :
    note op.owner account? (.stake op, .ok answer) = after account? event := by
  simp only [note, eventOf, h, if_true]

theorem note_of_event?_eq_none {account? : Option Account} {op : StakeOperation} {answer : Answer}
    (h : op.event? answer = none) :
    note op.owner account? (.stake op, .ok answer) = account? := by
  simp only [note, eventOf, h, if_true]

/-- What is asked about other owners does not show in an account. -/
theorem note_of_owner_ne {owner : String} {account? : Option Account} {op : StakeOperation}
    {answer : Except LedgerError Answer} (h : op.owner ≠ owner) :
    note owner account? (.stake op, answer) = account? := by
  cases answer with
  | ok answer => simp only [note, eventOf, if_neg h]
  | error e => rfl

/-- **The account of an owner at the end of a history**, which begins without one. -/
def ofHistory (owner : String) (history : List (Operation × Except LedgerError Answer)) :
    Option Account :=
  history.foldl (note owner) none

/-! ## 2. One operation -/

/-- **The invariant**: the record `s` is what the account says. -/
def Describes (rate : UInt32) (s : Stake) : Account → Prop
  | held book => book.Describes rate s
  | closed book time reward =>
    s.isActive = false ∧ s.rewardsClaimed.toNat = book.paid + reward.toNat ∧
      book.AccountsFor rate time s.rewardsClaimed.toNat

/-- An active record is that of a stake that is held. -/
theorem Describes.held_of_active {rate : UInt32} {s : Stake} {a : Account} (h : a.Describes rate s)
    (hactive : s.isActive = true) : ∃ book, a = .held book ∧ book.Describes rate s := by
  cases a with
  | held book => exact ⟨book, rfl, h⟩
  | closed book time reward =>
    rw [h.1] at hactive
    cases hactive

end Account

/-- If the owner has an account, the pool's record is what it says. -/
def StakePool.Keeps (p : StakePool) (owner : String) (account? : Option Account) : Prop :=
  ∀ a, account? = some a → ∃ s, p.stakes.get? owner = some s ∧ a.Describes p.terms.annualRate s

namespace StakePool

variable {p p' : StakePool} {owner : String} {account? : Option Account} {now : Time}

theorem Keeps.put {s : Stake} {a : Account} (h : a.Describes p.terms.annualRate s) :
    (p.put owner s).Keeps owner (some a) := by
  rintro _ ⟨⟩
  exact ⟨s, p.get?_put_self owner s, h⟩

/-- Where the owner holds an active record, an account is that of a stake that is held. -/
theorem Keeps.held {s : Stake} {a : Account} (h : p.Keeps owner (some a))
    (hs : p.active owner = .ok s) :
    ∃ book, a = .held book ∧ book.Describes p.terms.annualRate s := by
  obtain ⟨hget, hactive⟩ := active_eq_ok_iff.mp hs
  obtain ⟨t, ht, hdescribes⟩ := h a rfl
  rw [hget] at ht
  cases ht
  exact hdescribes.held_of_active hactive

theorem Keeps.openStake {amount : Amount} {s : Stake}
    (ho : p.openStake owner amount now = .ok (s, p')) :
    p'.Keeps owner (Account.after account? (.opened now amount)) := by
  obtain ⟨-, rfl, rfl⟩ := openStake_eq_ok_iff.mp ho
  have hdescribes : (Account.held (.opened now amount)).Describes p.terms.annualRate
      (p.opening owner amount now) := Passbook.Describes.opened rfl rfl rfl rfl rfl
  cases account? <;> exact Keeps.put hdescribes

theorem Keeps.claim {reward : Amount} (h : p.Keeps owner account?)
    (hc : p.claim owner now = .ok (reward, p')) :
    p'.Keeps owner (Account.after account? (.entered now (.claimed reward))) := by
  obtain ⟨s, claimed, hs, rfl, hclaimed, rfl⟩ := claim_eq_ok_iff.mp hc
  cases account? with
  | none => rintro _ ⟨⟩
  | some a =>
    obtain ⟨book, rfl, hbook⟩ := h.held hs
    exact Keeps.put (hbook.entered ⟨rfl, hclaimed⟩ hbook.active rfl hclaimed)

theorem Keeps.increase {delta : Amount} {s : Stake} (h : p.Keeps owner account?)
    (hi : p.increase owner delta now = .ok (s, p')) :
    p'.Keeps owner (Account.after account? (.entered now (.increased delta))) := by
  obtain ⟨-, t, amount, ht, hamount, rfl, rfl⟩ := increase_eq_ok_iff.mp hi
  cases account? with
  | none => rintro _ ⟨⟩
  | some a =>
    obtain ⟨book, rfl, hbook⟩ := h.held ht
    exact Keeps.put (hbook.entered ⟨rfl, rfl⟩ hbook.active hamount rfl)

theorem Keeps.close {released : Withdrawal} (h : p.Keeps owner account?)
    (hc : p.close owner now = .ok (released, p')) :
    p'.Keeps owner (Account.after account? (.closed now released.rewards)) := by
  obtain ⟨s, claimed, hs, -, rfl, hclaimed, rfl⟩ := close_eq_ok_iff.mp hc
  cases account? with
  | none => rintro _ ⟨⟩
  | some a =>
    obtain ⟨book, rfl, hbook⟩ := h.held hs
    refine Keeps.put ⟨rfl, ?_, ?_⟩
    · rw [← hbook.paid]
      exact hclaimed
    · have haccounts := hbook.accountsFor now
      rw [← hclaimed] at haccounts
      exact haccounts

/-- **An operation and its answer keep the account in step with the pool.** -/
theorem Keeps.performed {op : StakeOperation} {answer : Except LedgerError Answer}
    (h : p.Keeps owner account?) (hp : p.Performed op answer p') :
    p'.Keeps owner (Account.note owner account? (.stake op, answer)) := by
  by_cases hop : op.owner = owner
  · subst hop
    cases hp with
    | refused => exact h
    | accrued _ => rwa [Account.note_of_event?_eq_none rfl]
    | found _ => rwa [Account.note_of_event?_eq_none rfl]
    | opened ho =>
      rw [Account.note_of_event?_eq_some rfl]
      exact Keeps.openStake ho
    | claimed hc =>
      rw [Account.note_of_event?_eq_some rfl]
      exact h.claim hc
    | increased hi =>
      rw [Account.note_of_event?_eq_some rfl]
      exact h.increase hi
    | closed hc =>
      rw [Account.note_of_event?_eq_some rfl]
      exact h.close hc
  · rw [Account.note_of_owner_ne hop]
    intro a ha
    rw [hp.get?_of_ne hop, hp.terms]
    exact h a ha

end StakePool

/-! ## 3. Histories -/

namespace Ledger

variable {σ : Type} [DrawSource σ]

theorem keeps_perform {l : Ledger σ} {owner : String} {account? : Option Account}
    (h : l.stakes.Keeps owner account?) (op : Operation) :
    (l.perform op).2.stakes.Keeps owner (Account.note owner account? (op, (l.perform op).1)) := by
  rw [stakes_perform]
  cases op with
  | stake op => exact h.performed (l.stakes.perform_performed op)
  | _ => exact h

theorem keeps_run {owner : String} (ops : List Operation) {l : Ledger σ}
    {account? : Option Account} (h : l.stakes.Keeps owner account?) :
    (l.run ops).2.stakes.Keeps owner
      ((ops.zip (l.run ops).1).foldl (Account.note owner) account?) :=
  run_invariant (motive := fun (m : Ledger σ) => m.stakes.Keeps owner)
    (fun op h => keeps_perform h op) ops h

/-- **Rewards never exceed the exact entitlement, and fall short of it by less than a unit for
each entry and one more.**  At every point of any history, take the account of an owner since
the latest opening that succeeded.  The pool has a record for that owner, which has paid out
what the answers to claims and the closing add up to.  While the stake is held, what was paid
and what could be claimed at `now` is accounted for by the passbook, whatever `now` is; once it
is closed, what was paid is accounted for at the time of the closing. -/
theorem rewards_within_entitlement (l : Ledger σ) (ops : List Operation) (owner : String)
    {a : Account} (h : Account.ofHistory owner (ops.zip (l.run ops).1) = some a) :
    ∃ s, (l.run ops).2.stakes.find owner = .ok s ∧ s.rewardsClaimed.toNat = a.paid ∧
      match a with
      | .held book =>
        s.isActive = true ∧ s.amount.toNat = book.balance ∧
          ∀ now, book.AccountsFor l.stakes.terms.annualRate now
            (s.rewardsClaimed.toNat + (s.unclaimed now l.stakes.terms.annualRate).toNat)
      | .closed book time _ =>
        s.isActive = false ∧
          book.AccountsFor l.stakes.terms.annualRate time s.rewardsClaimed.toNat := by
  have hnone : l.stakes.Keeps owner none := by rintro _ ⟨⟩
  obtain ⟨s, hs, hdescribes⟩ := keeps_run ops hnone a h
  rw [stakes_terms_run] at hdescribes
  refine ⟨s, StakePool.find_eq_ok_iff.mpr hs, ?_⟩
  cases a with
  | held book =>
    have hbook : book.Describes l.stakes.terms.annualRate s := hdescribes
    exact ⟨hbook.paid, hbook.active, hbook.amount, hbook.accountsFor⟩
  | closed book time reward =>
    obtain ⟨hclosed, hpaid, haccounts⟩ := hdescribes
    exact ⟨hpaid, hclosed, haccounts⟩

/-- A claim, and an increase on a clock that has gone back since. -/
theorem rewards_within_entitlement_after_clock_went_back :
    let l := Ledger.new default 0 (Source.script [])
    let ops : List Operation := [.stake (.openStake "bob" ⟨10000000000⟩ 0),
      .stake (.claim "bob" 1000), .stake (.increase "bob" ⟨5⟩ 500)]
    let book : Passbook :=
      .entered (.entered (.opened 0 ⟨10000000000⟩) 1000 (.claimed ⟨15844⟩)) 500 (.increased ⟨5⟩)
    Account.ofHistory "bob" (ops.zip (l.run ops).1) = some (.held book) ∧
      ∃ s, (l.run ops).2.stakes.find "bob" = .ok s ∧ s.rewardsClaimed.toNat = 15844 ∧
        ∀ now, book.AccountsFor l.stakes.terms.annualRate now
          (s.rewardsClaimed.toNat + (s.unclaimed now l.stakes.terms.annualRate).toNat) := by
  intro l ops book
  have haccount : Account.ofHistory "bob" (ops.zip (l.run ops).1) = some (.held book) := by
    decide +kernel
  obtain ⟨s, hs, hpaid, -, -, haccounts⟩ := rewards_within_entitlement l ops "bob" haccount
  exact ⟨haccount, s, hs, hpaid, haccounts⟩

end Ledger

end StakeChain
