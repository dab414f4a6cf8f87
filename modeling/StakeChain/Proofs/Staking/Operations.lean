/-
# What an operation on stakes can do

One statement for each change of the pool: it succeeds exactly under these conditions, on this
record, and leaves that one (`openStake_eq_ok_iff`, `claim_eq_ok_iff`, `increase_eq_ok_iff`,
`close_eq_ok_iff`).  `StakePool.Performed` lists the ways in which an operation can end.  Seen
from outside, it leaves the pool as it was or puts one record under the owner that it names
(`Performed.same_or_put`), so the terms and the records of all other owners stay.
-/
import StakeChain.Ledger.Operation

namespace StakeChain

/-- The owner that an operation names. -/
def StakeOperation.owner : StakeOperation → String
  | .openStake owner .. | .accrue owner _ | .claim owner _ | .increase owner .. | .close owner _
  | .find owner => owner

namespace StakePool

variable {p p' : StakePool} {owner : String} {s : Stake} {now : Time}

/-! ## 1. Records -/

theorem find_eq_ok_iff : p.find owner = .ok s ↔ p.stakes.get? owner = some s := by
  unfold find
  cases p.stakes.get? owner <;> simp

theorem active_eq_ok_iff :
    p.active owner = .ok s ↔ p.stakes.get? owner = some s ∧ s.isActive = true := by
  unfold active
  rw [bind_eq_ok_iff]
  constructor
  · rintro ⟨t, ht, hactive⟩
    split at hactive
    · cases hactive
      exact ⟨find_eq_ok_iff.mp ht, ‹_›⟩
    · cases hactive
  · rintro ⟨hs, hactive⟩
    exact ⟨s, find_eq_ok_iff.mpr hs, if_pos hactive⟩

@[simp] theorem terms_put (p : StakePool) (owner : String) (s : Stake) :
    (p.put owner s).terms = p.terms := rfl

theorem get?_put (p : StakePool) (owner key : String) (s : Stake) :
    (p.put owner s).stakes.get? key = if key = owner then some s else p.stakes.get? key :=
  Table.get?_insert _ _ _ _

theorem get?_put_self (p : StakePool) (owner : String) (s : Stake) :
    (p.put owner s).stakes.get? owner = some s := by
  rw [get?_put, if_pos rfl]

/-! ## 2. One change of the pool -/

/-- The record that an opening leaves. -/
def opening (p : StakePool) (owner : String) (amount : Amount) (now : Time) : Stake where
  owner := owner
  amount := amount
  startedAt := now
  unlockAt := Time.after now p.terms.lockPeriod
  rewardsClaimed := .zero
  isActive := true
  lastClaimAt := now
  settledRewards := .zero

theorem openStake_eq_ok_iff {amount : Amount} :
    p.openStake owner amount now = .ok (s, p') ↔
      (Text.allBlank owner = false ∧ p.terms.minimumStake ≤ amount ∧ amount ≠ .zero ∧
        ∀ t, p.stakes.get? owner = some t → t.isActive = false) ∧
      s = p.opening owner amount now ∧ p' = p.put owner s := by
  have hminimum : ¬ amount < p.terms.minimumStake ↔ p.terms.minimumStake ≤ amount := by
    rw [Amount.lt_iff_toNat, Amount.le_iff_toNat, Nat.not_lt]
  have hactive : ¬ (p.stakes.get? owner).any (·.isActive) = true ↔
      ∀ t, p.stakes.get? owner = some t → t.isActive = false := by
    cases p.stakes.get? owner <;> simp
  rw [← hminimum, ← hactive, ← Bool.not_eq_true]
  constructor
  · intro h
    unfold openStake at h
    iterate 4
      split at h
      · cases h
    cases h
    exact ⟨⟨‹_›, ‹_›, ‹_›, ‹_›⟩, rfl, rfl⟩
  · rintro ⟨⟨hblank, hm, hzero, ha⟩, rfl, rfl⟩
    rw [openStake, if_neg hblank, if_neg hm, if_neg hzero, if_neg ha]
    rfl

theorem claim_eq_ok_iff {reward : Amount} :
    p.claim owner now = .ok (reward, p') ↔
      ∃ (s : Stake) (claimed : Amount), p.active owner = .ok s ∧
        reward = s.unclaimed now p.terms.annualRate ∧
        claimed.toNat = s.rewardsClaimed.toNat + reward.toNat ∧
        p' = p.put owner
          { s with
            rewardsClaimed := claimed
            settledRewards := .zero
            lastClaimAt := max s.lastClaimAt now } := by
  unfold claim
  simp only [bind_eq_ok_iff, Amount.add_eq_ok_iff, Except.ok.injEq, Prod.mk.injEq]
  constructor
  · rintro ⟨s, hs, claimed, hclaimed, rfl, rfl⟩
    exact ⟨s, claimed, hs, rfl, hclaimed, rfl⟩
  · rintro ⟨s, claimed, hs, rfl, hclaimed, rfl⟩
    exact ⟨s, hs, claimed, hclaimed, rfl, rfl⟩

theorem increase_eq_ok_iff {delta : Amount} :
    p.increase owner delta now = .ok (s, p') ↔
      delta ≠ .zero ∧ ∃ (t : Stake) (amount : Amount), p.active owner = .ok t ∧
        amount.toNat = t.amount.toNat + delta.toNat ∧
        s = { t with
          amount
          settledRewards := t.unclaimed now p.terms.annualRate
          lastClaimAt := max t.lastClaimAt now } ∧
        p' = p.put owner s := by
  unfold increase
  split
  · simp_all
  · rename_i hdelta
    simp only [bind_eq_ok_iff, Amount.add_eq_ok_iff, Except.ok.injEq, Prod.mk.injEq]
    constructor
    · rintro ⟨t, ht, amount, hamount, rfl, rfl⟩
      exact ⟨hdelta, t, amount, ht, hamount, rfl, rfl⟩
    · rintro ⟨-, t, amount, ht, hamount, rfl, rfl⟩
      exact ⟨t, ht, amount, hamount, rfl, rfl⟩

theorem close_eq_ok_iff {released : Withdrawal} :
    p.close owner now = .ok (released, p') ↔
      ∃ (s : Stake) (claimed : Amount), p.active owner = .ok s ∧ s.isUnlocked now = true ∧
        released = ⟨owner, s.amount, s.unclaimed now p.terms.annualRate⟩ ∧
        claimed.toNat = s.rewardsClaimed.toNat + released.rewards.toNat ∧
        p' = p.put owner
          { s with
            rewardsClaimed := claimed
            settledRewards := .zero
            lastClaimAt := max s.lastClaimAt now
            isActive := false } := by
  unfold close
  rw [bind_eq_ok_iff]
  constructor
  · rintro ⟨s, hs, h⟩
    split at h
    · rename_i hunlocked
      simp only [bind_eq_ok_iff, Amount.add_eq_ok_iff, Except.ok.injEq, Prod.mk.injEq] at h
      obtain ⟨claimed, hclaimed, rfl, rfl⟩ := h
      exact ⟨s, claimed, hs, hunlocked, rfl, hclaimed, rfl⟩
    · cases h
  · rintro ⟨s, claimed, hs, hunlocked, rfl, hclaimed, rfl⟩
    refine ⟨s, hs, ?_⟩
    rw [if_pos hunlocked]
    exact bind_eq_ok_iff.mpr ⟨claimed, Amount.add_eq_ok_iff.mpr hclaimed, rfl⟩

/-! ## 3. Any operation -/

/-- **What an operation can do**, one case for each way it can end. -/
inductive Performed (p : StakePool) :
    StakeOperation → Except LedgerError Answer → StakePool → Prop where
  | refused {op : StakeOperation} {e : LedgerError} : Performed p op (.error e) p
  | accrued {owner : String} {now : Time} {reward : Amount} :
      p.accrued owner now = .ok reward → Performed p (.accrue owner now) (.ok (.amount reward)) p
  | found {owner : String} {s : Stake} :
      p.find owner = .ok s → Performed p (.find owner) (.ok (.stake s)) p
  | opened {owner : String} {amount : Amount} {now : Time} {s : Stake} {p' : StakePool} :
      p.openStake owner amount now = .ok (s, p') →
      Performed p (.openStake owner amount now) (.ok (.stake s)) p'
  | claimed {owner : String} {now : Time} {reward : Amount} {p' : StakePool} :
      p.claim owner now = .ok (reward, p') →
      Performed p (.claim owner now) (.ok (.amount reward)) p'
  | increased {owner : String} {delta : Amount} {now : Time} {s : Stake} {p' : StakePool} :
      p.increase owner delta now = .ok (s, p') →
      Performed p (.increase owner delta now) (.ok (.stake s)) p'
  | closed {owner : String} {now : Time} {released : Withdrawal} {p' : StakePool} :
      p.close owner now = .ok (released, p') →
      Performed p (.close owner now) (.ok (.withdrawal released)) p'

theorem perform_performed (p : StakePool) (op : StakeOperation) :
    p.Performed op (p.perform op).1 (p.perform op).2 := by
  cases op with
  | openStake owner amount now =>
    exact settle_cases (motive := p.Performed _) (fun _ => .refused) fun _ _ h => .opened h
  | accrue owner now =>
    exact answer_cases (motive := (p.Performed _ · p)) (fun _ => .refused) fun _ h => .accrued h
  | claim owner now =>
    exact settle_cases (motive := p.Performed _) (fun _ => .refused) fun _ _ h => .claimed h
  | increase owner delta now =>
    exact settle_cases (motive := p.Performed _) (fun _ => .refused) fun _ _ h => .increased h
  | close owner now =>
    exact settle_cases (motive := p.Performed _) (fun _ => .refused) fun _ _ h => .closed h
  | find owner =>
    exact answer_cases (motive := (p.Performed _ · p)) (fun _ => .refused) fun _ h => .found h

/-- A refusal changes nothing. -/
theorem Performed.of_error {op : StakeOperation} {e : LedgerError}
    (h : p.Performed op (.error e) p') : p' = p := by
  cases h with
  | refused => rfl

/-- **An operation puts one record under the owner that it names, or changes nothing.** -/
theorem Performed.same_or_put {op : StakeOperation} {answer : Except LedgerError Answer}
    (h : p.Performed op answer p') : p' = p ∨ ∃ s, p' = p.put op.owner s := by
  cases h with
  | refused => exact Or.inl rfl
  | accrued _ => exact Or.inl rfl
  | found _ => exact Or.inl rfl
  | opened ho => exact Or.inr ⟨_, (openStake_eq_ok_iff.mp ho).2.2⟩
  | claimed hc =>
    obtain ⟨s, claimed, -, -, -, hput⟩ := claim_eq_ok_iff.mp hc
    exact Or.inr ⟨_, hput⟩
  | increased hi =>
    obtain ⟨-, t, amount, -, -, -, hput⟩ := increase_eq_ok_iff.mp hi
    exact Or.inr ⟨_, hput⟩
  | closed hc =>
    obtain ⟨s, claimed, -, -, -, -, hput⟩ := close_eq_ok_iff.mp hc
    exact Or.inr ⟨_, hput⟩

theorem Performed.terms {op : StakeOperation} {answer : Except LedgerError Answer}
    (h : p.Performed op answer p') : p'.terms = p.terms := by
  rcases h.same_or_put with rfl | ⟨s, rfl⟩
  · rfl
  · exact terms_put _ _ _

/-- An operation leaves the records of all other owners alone. -/
theorem Performed.get?_of_ne {op : StakeOperation} {answer : Except LedgerError Answer}
    {key : String} (h : p.Performed op answer p') (hne : op.owner ≠ key) :
    p'.stakes.get? key = p.stakes.get? key := by
  rcases h.same_or_put with rfl | ⟨s, rfl⟩
  · rfl
  · rw [get?_put, if_neg hne.symm]

end StakePool

/-! ## 4. In a ledger -/

namespace Ledger

variable {σ : Type} [DrawSource σ]

/-- Everything but an operation on stakes leaves the pool alone. -/
theorem stakes_perform (l : Ledger σ) (op : Operation) :
    (l.perform op).2.stakes =
      match op with
      | .stake op => (l.stakes.perform op).2
      | _ => l.stakes := by
  cases op with
  | append b => cases h : l.chain.append b <;> simp [perform, h]
  | _ => rfl

theorem stakes_terms_perform (l : Ledger σ) (op : Operation) :
    (l.perform op).2.stakes.terms = l.stakes.terms := by
  rw [stakes_perform]
  cases op with
  | stake op => exact (l.stakes.perform_performed op).terms
  | _ => rfl

/-- The terms of the pool never change. -/
theorem stakes_terms_run : ∀ (ops : List Operation) (l : Ledger σ),
    (l.run ops).2.stakes.terms = l.stakes.terms
  | [], _ => rfl
  | op :: rest, l => by
    rw [← l.stakes_terms_perform op]
    exact stakes_terms_run rest (l.perform op).2

end Ledger

end StakeChain
