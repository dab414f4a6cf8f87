/-
# The lock

A record that the pool keeps is sound on its own (`Stake.WellFormed`): it names its owner, holds
enough, runs forwards, and is locked for the period of the terms.  As far as this is concerned,
claims, increases and closings do the same to a record (`Stake.Continues`): the balance grows and
the anchor moves forwards, and none of them touches the start or the end of the lock.  Those stay
as the latest opening answered them (`Transcript.opened?`), whatever else the ledger is asked for
and whatever the times are.

Main statement: `Ledger.stakes_locked_as_opened`.  A closing that succeeds does so at or after the
end of the lock that the opening promised.
-/
import StakeChain.Election.Sources
import StakeChain.Proofs.Staking.Operations

namespace StakeChain

/-! ## 1. Records -/

/-- **A sound record** under the name `owner`. -/
structure Stake.WellFormed (terms : StakingTerms) (owner : String) (s : Stake) : Prop where
  owner : s.owner = owner
  named : Text.allBlank s.owner = false
  enough : terms.minimumStake ≤ s.amount
  positive : Amount.zero < s.amount
  anchored : s.startedAt ≤ s.lastClaimAt
  lock : s.unlockAt.toInt =
    min (s.startedAt.toInt + terms.lockPeriod.toInt) Int64.maxValue.toInt
  ordered : s.startedAt ≤ s.unlockAt
  settled : s.isActive = false → s.settledRewards = .zero

/-- The start and the end of the lock. -/
def Stake.term (s : Stake) : Time × Time := (s.startedAt, s.unlockAt)

/-- **What a claim, an increase or a closing at `now` makes of a record**: the lock is left alone,
the balance does not shrink and the anchor moves forwards; nothing stays settled on a closed
record. -/
structure Stake.Continues (s : Stake) (now : Time) (s' : Stake) : Prop where
  owner : s'.owner = s.owner
  term : s'.term = s.term
  amount : s.amount ≤ s'.amount
  anchor : s'.lastClaimAt = max s.lastClaimAt now
  settled : s'.isActive = false → s'.settledRewards = .zero

/-- A record that is continued stays sound. -/
theorem Stake.WellFormed.continued {terms : StakingTerms} {owner : String} {s s' : Stake}
    {now : Time} (h : s.WellFormed terms owner) (hs : s.Continues now s') :
    s'.WellFormed terms owner := by
  obtain ⟨hstart, hunlock⟩ : s'.startedAt = s.startedAt ∧ s'.unlockAt = s.unlockAt :=
    Prod.mk.inj hs.term
  have henough := Amount.le_iff_toNat.mp h.enough
  have hpositive := Amount.lt_iff_toNat.mp h.positive
  have hgrown := Amount.le_iff_toNat.mp hs.amount
  have hanchored := Int64.le_iff_toInt_le.mp h.anchored
  exact {
    owner := hs.owner.trans h.owner
    named := hs.owner ▸ h.named
    enough := Amount.le_iff_toNat.mpr (by omega)
    positive := Amount.lt_iff_toNat.mpr (by omega)
    anchored := by
      rw [Int64.le_iff_toInt_le, hstart, hs.anchor, Time.toInt_max]
      omega
    lock := by rw [hunlock, hstart, h.lock]
    ordered := by rw [hunlock, hstart]; exact h.ordered
    settled := hs.settled }

/-! ## 2. The latest opening -/

/-- The record that the latest opening for an owner was answered with, after one more entry. -/
def noteOpening (owner : String) (opened? : Option Stake) :
    Operation × Except LedgerError Answer → Option Stake
  | (.stake (.openStake opener _ _), .ok (.stake s)) => if opener = owner then some s else opened?
  | _ => opened?

/-- **The record that the latest successful opening for an owner was answered with.** -/
def Transcript.opened? (t : Transcript) (owner : String) : Option Stake :=
  t.foldl (noteOpening owner) none

/-- What is asked about other owners opens no stake of this one. -/
theorem noteOpening_of_owner_ne {owner : String} {opened? : Option Stake} {op : StakeOperation}
    {answer : Except LedgerError Answer} (h : op.owner ≠ owner) :
    noteOpening owner opened? (.stake op, answer) = opened? := by
  cases op with
  | openStake opener amount now =>
    rcases answer with e | a
    · rfl
    · cases a with
      | stake s => exact if_neg h
      | _ => rfl
  | _ => rfl

namespace StakePool

variable {p p' : StakePool} {owner : String} {opened? : Option Stake}

/-- **The invariant**: the record of the owner is sound, and its lock is that of the latest
opening. -/
structure LockedAs (p : StakePool) (owner : String) (opened? : Option Stake) : Prop where
  wellFormed : ∀ s, p.stakes.get? owner = some s → s.WellFormed p.terms owner
  term : (p.stakes.get? owner).map Stake.term = opened?.map Stake.term

theorem wellFormed_opening {amount : Amount} {now : Time} (hlock : 0 ≤ p.terms.lockPeriod)
    (hnamed : Text.allBlank owner = false) (henough : p.terms.minimumStake ≤ amount)
    (hpositive : amount ≠ .zero) : (p.opening owner amount now).WellFormed p.terms owner := by
  have hperiod : 0 ≤ p.terms.lockPeriod.toInt := Int64.le_iff_toInt_le.mp hlock
  have hnow := Int64.minValue_le_toInt now
  have hnow' := Int64.toInt_le now
  have hunlock : (Time.after now p.terms.lockPeriod).toInt =
      min (now.toInt + p.terms.lockPeriod.toInt) Int64.maxValue.toInt := by
    rw [Time.toInt_after]
    omega
  exact {
    owner := rfl
    named := hnamed
    enough := henough
    positive :=
      Amount.lt_iff_toNat.mpr (Nat.pos_of_ne_zero fun h => hpositive (Amount.toNat_inj.mp h))
    anchored := Int64.le_refl now
    lock := hunlock
    ordered := by
      simp only [opening, Int64.le_iff_toInt_le, hunlock]
      omega
    settled := fun h => nomatch h }

/-- A record is continued under the same opening. -/
theorem LockedAs.continued {s s' : Stake} {now : Time} (h : p.LockedAs owner opened?)
    (hactive : p.active owner = .ok s) (hs : s.Continues now s') :
    (p.put owner s').LockedAs owner opened? := by
  have hget := (active_eq_ok_iff.mp hactive).1
  constructor
  · intro t ht
    cases (get?_put_self p owner s').symm.trans ht
    exact (h.wellFormed s hget).continued hs
  · rw [get?_put_self, ← h.term, hget]
    exact congrArg some hs.term

/-- A record is opened, and its answer noted. -/
theorem LockedAs.opened {s : Stake} (hs : s.WellFormed p.terms owner) :
    (p.put owner s).LockedAs owner (some s) := by
  constructor
  · intro t ht
    cases (get?_put_self p owner s).symm.trans ht
    exact hs
  · rw [get?_put_self]

/-- **An operation keeps the invariant.** -/
theorem LockedAs.performed {op : StakeOperation} {answer : Except LedgerError Answer}
    (h : p.LockedAs owner opened?) (hlock : 0 ≤ p.terms.lockPeriod)
    (hp : p.Performed op answer p') :
    p'.LockedAs owner (noteOpening owner opened? (.stake op, answer)) := by
  by_cases hop : op.owner = owner
  · subst hop
    cases hp with
    | refused => cases op <;> exact h
    | accrued _ => exact h
    | found _ => exact h
    | @opened owner amount now s p' ho =>
      obtain ⟨⟨hnamed, henough, hpositive, -⟩, rfl, rfl⟩ := openStake_eq_ok_iff.mp ho
      have hnoted : noteOpening owner opened?
          (.stake (.openStake owner amount now), .ok (.stake (p.opening owner amount now))) =
          some (p.opening owner amount now) := if_pos rfl
      exact hnoted ▸ LockedAs.opened (wellFormed_opening hlock hnamed henough hpositive)
    | claimed hc =>
      obtain ⟨s, claimed, hs, -, -, rfl⟩ := claim_eq_ok_iff.mp hc
      exact h.continued hs ⟨rfl, rfl, UInt64.le_refl _, rfl, fun _ => rfl⟩
    | increased hi =>
      obtain ⟨-, s, amount, hs, hamount, rfl, rfl⟩ := increase_eq_ok_iff.mp hi
      have hgrown : s.amount ≤ amount := Amount.le_iff_toNat.mpr (by omega)
      refine h.continued hs ⟨rfl, rfl, hgrown, rfl, fun hclosed => ?_⟩
      cases (active_eq_ok_iff.mp hs).2.symm.trans hclosed
    | closed hc =>
      obtain ⟨s, claimed, hs, -, -, -, rfl⟩ := close_eq_ok_iff.mp hc
      exact h.continued hs ⟨rfl, rfl, UInt64.le_refl _, rfl, fun _ => rfl⟩
  · rw [noteOpening_of_owner_ne hop]
    have hsame := hp.get?_of_ne hop
    exact ⟨fun s hs => hp.terms ▸ h.wellFormed s (hsame ▸ hs), hsame ▸ h.term⟩

/-- A closing that succeeds finds a record whose lock has run out. -/
theorem exists_unlocked_of_close {released : Withdrawal} {now : Time}
    (h : p.close owner now = .ok (released, p')) :
    ∃ s, p.stakes.get? owner = some s ∧ s.unlockAt ≤ now := by
  obtain ⟨s, claimed, hs, hunlocked, -⟩ := close_eq_ok_iff.mp h
  exact ⟨s, (active_eq_ok_iff.mp hs).1, of_decide_eq_true hunlocked⟩

/-- The lock of a record is that of the latest opening. -/
theorem LockedAs.exists_opened {s : Stake} (h : p.LockedAs owner opened?)
    (hs : p.stakes.get? owner = some s) :
    ∃ opened, opened? = some opened ∧ s.startedAt = opened.startedAt ∧
      s.unlockAt = opened.unlockAt := by
  have hterm := h.term
  rw [hs] at hterm
  obtain ⟨opened, hopened, heq⟩ := Option.map_eq_some_iff.mp hterm.symm
  obtain ⟨hstart, hunlock⟩ := Prod.mk.inj heq
  exact ⟨opened, hopened, hstart.symm, hunlock.symm⟩

end StakePool

/-! ## 3. Histories -/

namespace Ledger

variable {σ : Type} [DrawSource σ]

theorem lockedAs_run {owner : String} (ops : List Operation) {l : Ledger σ}
    {opened? : Option Stake} (hlock : 0 ≤ l.stakes.terms.lockPeriod)
    (h : l.stakes.LockedAs owner opened?) :
    (l.run ops).2.stakes.LockedAs owner
      ((l.transcript ops).foldl (noteOpening owner) opened?) := by
  refine (run_invariant (motive := fun (m : Ledger σ) opened? =>
    0 ≤ m.stakes.terms.lockPeriod ∧ m.stakes.LockedAs owner opened?) ?_ ops ⟨hlock, h⟩).2
  intro l opened? op ⟨hlock, h⟩
  rw [stakes_terms_perform, stakes_perform]
  refine ⟨hlock, ?_⟩
  cases op with
  | stake op => exact h.performed hlock (l.stakes.perform_performed op)
  | _ => exact h

/-- **Records stay sound and the lock cannot be bypassed.**  After any history of a ledger whose
lock period is not negative, with whatever times: each record is sound under the owner that it is
kept for, and locked as the latest opening of that owner was answered; the listing is in strict
order of the owners; an opening succeeds only for an owner without an active record; and a
closing that succeeds at `now` ends an opening whose answer had `unlockAt ≤ now`. -/
theorem stakes_locked_as_opened (config : Config) (clock : Time) (source : σ)
    (ops : List Operation) (hlock : 0 ≤ config.staking.lockPeriod) :
    let t := (Ledger.new config clock source).transcript ops
    let l := ((Ledger.new config clock source).run ops).2
    (∀ owner s, l.stakes.stakes.get? owner = some s →
        s.WellFormed config.staking owner ∧
        ∃ opened, t.opened? owner = some opened ∧ s.startedAt = opened.startedAt ∧
          s.unlockAt = opened.unlockAt) ∧
      l.stakes.list.Pairwise (fun s s' => s.owner < s'.owner) ∧
      (∀ owner amount now s p, l.stakes.openStake owner amount now = .ok (s, p) →
        ∀ earlier, l.stakes.stakes.get? owner = some earlier → earlier.isActive = false) ∧
      ∀ owner now released p, l.stakes.close owner now = .ok (released, p) →
        ∃ opened, t.opened? owner = some opened ∧ opened.unlockAt ≤ now := by
  intro t l
  have hterms : l.stakes.terms = config.staking := stakes_terms_run ops _
  have hlocked : ∀ owner, l.stakes.LockedAs owner (t.opened? owner) := fun owner =>
    lockedAs_run ops hlock ⟨fun _ h => (nomatch h), rfl⟩
  have hsound : ∀ {owner s}, l.stakes.stakes.get? owner = some s →
      s.WellFormed config.staking owner := fun h => hterms ▸ (hlocked _).wellFormed _ h
  refine ⟨fun owner s hs => ⟨hsound hs, (hlocked owner).exists_opened hs⟩,
    Table.pairwise_values fun h => (hsound h).owner, fun owner amount now s p hopen => ?_,
    fun owner now released p hclose => ?_⟩
  · exact (StakePool.openStake_eq_ok_iff.mp hopen).1.2.2.2
  · obtain ⟨s, hs, hunlocked⟩ := StakePool.exists_unlocked_of_close hclose
    obtain ⟨opened, hopened, -, hend⟩ := (hlocked owner).exists_opened hs
    exact ⟨opened, hopened, hend ▸ hunlocked⟩

/-- A stake that was claimed from, increased at an earlier time and asked for too early, then
closed and opened again: its lock is that of the second opening. -/
theorem stakes_locked_as_reopened :
    let ops : List Operation := [.stake (.openStake "bob" ⟨10000000000⟩ 0),
      .stake (.claim "bob" 1000), .stake (.increase "bob" ⟨5⟩ 500),
      .stake (.close "bob" 2591999), .stake (.close "bob" 2592000),
      .stake (.openStake "bob" ⟨10000000000⟩ 7)]
    let t := (Ledger.new default 0 (Source.script [])).transcript ops
    0 ≤ Config.default.staking.lockPeriod ∧
      ∃ opened, t.opened? "bob" = some opened ∧ opened.startedAt = 7 ∧
        opened.unlockAt = 2592007 ∧
        ∀ now released p, ((Ledger.new default 0 (Source.script [])).run ops).2.stakes.close
          "bob" now = .ok (released, p) → 2592007 ≤ now := by
  intro ops t
  have hlock : 0 ≤ Config.default.staking.lockPeriod := by decide
  obtain ⟨hrecords, -, -, hclose⟩ :=
    stakes_locked_as_opened Config.default 0 (Source.script []) ops hlock
  let s : Stake := ⟨"bob", ⟨10000000000⟩, 7, 2592007, .zero, true, 7, .zero⟩
  have hs : ((Ledger.new Config.default 0 (Source.script [])).run ops).2.stakes.stakes.get? "bob" =
      some s := by decide +kernel
  obtain ⟨-, opened, hopened, hstart, hend⟩ := hrecords "bob" s hs
  refine ⟨hlock, opened, hopened, hstart.symm, hend.symm, fun now released p h => ?_⟩
  obtain ⟨promised, hpromised, hle⟩ := hclose "bob" now released p h
  cases hopened.symm.trans hpromised
  have hunlocked : s.unlockAt ≤ now := hend ▸ hle
  exact hunlocked

end Ledger

end StakeChain
