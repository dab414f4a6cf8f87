/-
# When a stake can be closed

An active stake whose lock has run out is closed, and its principal released, unless the rewards
of its whole life, those already paid and the last one, do not fit an amount
(`StakePool.close_cases`).  Then the closing is refused, and so is every later one, because what
can be claimed from a record never falls: the principal stays where it is.

How close a stake is to that point can be told from its passbook.  As long as the exact interest
fits an amount, so do the rewards, and the stake can be closed.

Main statement: `Ledger.unlocked_principal_released_iff`.  That rewards can outgrow an amount under
the default terms is `Ledger.unlocked_principal_withheld`.
-/
import StakeChain.Proofs.Staking.Entitlement

namespace StakeChain

/-! ## 1. One closing -/

/-- The rewards of a record's whole life, were it closed at `now`: those paid and the unclaimed. -/
def Stake.lifetimeRewards (s : Stake) (now : Time) (rate : UInt32) : Nat :=
  s.rewardsClaimed.toNat + (s.unclaimed now rate).toNat

theorem Stake.lifetimeRewards_mono (s : Stake) (rate : UInt32) {now later : Time}
    (h : now ≤ later) : s.lifetimeRewards now rate ≤ s.lifetimeRewards later rate :=
  Nat.add_le_add_left (s.unclaimed_mono rate h) _

namespace StakePool

variable {p p' : StakePool} {owner : String} {s : Stake} {now : Time}

/-- **Closing an active stake whose lock has run out** releases its principal where the rewards of
its life fit an amount, and is refused where they do not. -/
theorem close_cases (hs : p.active owner = .ok s) (hunlocked : s.unlockAt ≤ now) :
    (s.lifetimeRewards now p.terms.annualRate < UInt64.size ∧
        ∃ p', p.close owner now =
          .ok (⟨owner, s.amount, s.unclaimed now p.terms.annualRate⟩, p')) ∨
      (UInt64.size ≤ s.lifetimeRewards now p.terms.annualRate ∧
        p.close owner now = .error .amountOverflow) := by
  have hopen : s.isUnlocked now = true := decide_eq_true hunlocked
  cases hsum : s.rewardsClaimed.add (s.unclaimed now p.terms.annualRate) with
  | ok claimed =>
    left
    have hclaimed := Amount.add_eq_ok_iff.mp hsum
    have hfits := claimed.toNat_lt
    rw [hclaimed] at hfits
    exact ⟨hfits, _, close_eq_ok_iff.mpr ⟨s, claimed, hs, hopen, rfl, hclaimed, rfl⟩⟩
  | error e =>
    right
    obtain ⟨hlarge, rfl⟩ := Amount.add_eq_error_iff.mp hsum
    refine ⟨hlarge, ?_⟩
    simp [close, hs, hopen, hsum, bind, Except.bind]

/-- The answer to a closing is the principal exactly where the rewards of the record's life fit an
amount. -/
theorem perform_close_eq_ok_iff (hs : p.active owner = .ok s) (hunlocked : s.unlockAt ≤ now) :
    (p.perform (.close owner now)).1 =
        .ok (.withdrawal ⟨owner, s.amount, s.unclaimed now p.terms.annualRate⟩) ↔
      s.lifetimeRewards now p.terms.annualRate < UInt64.size := by
  rcases close_cases hs hunlocked with ⟨hfits, p', hclose⟩ | ⟨hlarge, hclose⟩
  · simp [perform, settle, hclose, hfits]
  · simp [perform, settle, hclose, Nat.not_lt.mpr hlarge]

/-- Once the rewards have outgrown an amount, a closing is refused then and ever after. -/
theorem perform_close_of_large (hs : p.active owner = .ok s) (hunlocked : s.unlockAt ≤ now)
    (hlarge : UInt64.size ≤ s.lifetimeRewards now p.terms.annualRate) {later : Time}
    (hlater : now ≤ later) : p.perform (.close owner later) = (.error .amountOverflow, p) := by
  have hmore := s.lifetimeRewards_mono p.terms.annualRate hlater
  rcases close_cases hs (Int64.le_trans hunlocked hlater) with ⟨hfits, -⟩ | ⟨-, hclose⟩
  · omega
  · simp [perform, settle, hclose]

/-! ## 2. Every active stake has a passbook -/

/-- **The invariant**: an active record belongs to an account that is held. -/
def HeldBy (p : StakePool) (owner : String) (account? : Option Account) : Prop :=
  ∀ s, p.active owner = .ok s → ∃ book, account? = some (.held book)

theorem HeldBy.performed {op : StakeOperation} {answer : Except LedgerError Answer}
    {account? : Option Account} (h : p.HeldBy owner account?) (hp : p.Performed op answer p') :
    p'.HeldBy owner (Account.note owner account? (.stake op, answer)) := by
  by_cases hop : op.owner = owner
  · subst hop
    cases hp with
    | refused => exact h
    | accrued _ => rwa [Account.note_of_event?_eq_none rfl]
    | found _ => rwa [Account.note_of_event?_eq_none rfl]
    | opened _ =>
      rw [Account.note_of_event?_eq_some rfl]
      cases account? <;> exact fun _ _ => ⟨_, rfl⟩
    | claimed hc =>
      rw [Account.note_of_event?_eq_some rfl]
      obtain ⟨s, -, hs, -⟩ := claim_eq_ok_iff.mp hc
      obtain ⟨book, rfl⟩ := h s hs
      exact fun _ _ => ⟨_, rfl⟩
    | increased hi =>
      rw [Account.note_of_event?_eq_some rfl]
      obtain ⟨-, s, -, hs, -⟩ := increase_eq_ok_iff.mp hi
      obtain ⟨book, rfl⟩ := h s hs
      exact fun _ _ => ⟨_, rfl⟩
    | closed hc =>
      -- the record that a closing leaves is not active
      obtain ⟨s, claimed, -, -, -, -, rfl⟩ := close_eq_ok_iff.mp hc
      intro t ht
      obtain ⟨hget, hactive⟩ := active_eq_ok_iff.mp ht
      cases (get?_put_self ..).symm.trans hget
      cases hactive
  · rw [Account.note_of_owner_ne hop]
    intro s hs
    obtain ⟨hget, hactive⟩ := active_eq_ok_iff.mp hs
    rw [hp.get?_of_ne hop] at hget
    exact h s (active_eq_ok_iff.mpr ⟨hget, hactive⟩)

end StakePool

/-! ## 3. Histories -/

namespace Ledger

variable {σ : Type} [DrawSource σ]

theorem heldBy_run {owner : String} (ops : List Operation) {l : Ledger σ}
    {account? : Option Account} (h : l.stakes.HeldBy owner account?) :
    (l.run ops).2.stakes.HeldBy owner
      ((l.transcript ops).foldl (Account.note owner) account?) := by
  refine run_invariant (motive := fun (m : Ledger σ) => m.stakes.HeldBy owner) ?_ ops h
  intro l account? op h
  rw [stakes_perform]
  cases op with
  | stake op => exact h.performed (l.stakes.perform_performed op)
  | _ => exact h

/-- **An active stake has a passbook, and the pool's record is what it says.** -/
theorem describes_of_active (config : Config) (clock : Time) (source : σ) (ops : List Operation)
    {owner : String} {s : Stake}
    (hs : ((Ledger.new config clock source).run ops).2.stakes.active owner = .ok s) :
    ∃ book,
      Account.ofHistory owner ((Ledger.new config clock source).transcript ops) =
          some (.held book) ∧
        book.Describes config.staking.annualRate s := by
  have hempty : (Ledger.new config clock source).stakes.HeldBy owner none := by
    intro s hs
    have hget := (StakePool.active_eq_ok_iff.mp hs).1
    cases hget
  obtain ⟨book, hbook⟩ := heldBy_run ops hempty s hs
  have hnone : (Ledger.new config clock source).stakes.Keeps owner none := by rintro _ ⟨⟩
  obtain ⟨t, ht, hdescribes⟩ := keeps_run ops hnone _ hbook
  rw [stakes_terms_run] at hdescribes
  rw [(StakePool.active_eq_ok_iff.mp hs).1] at ht
  cases ht
  exact ⟨book, hbook, hdescribes⟩

/-- **An unlocked stake releases its principal exactly as long as the rewards of its life fit an
amount.**  At any point of any history, under any terms, take the active stake of an owner and
any time from the end of its lock on.  Closing it then answers with its present amount as
principal if and only if the rewards paid so far and the unclaimed one together are below
`2 ^ 64`; otherwise this closing and every later one is refused as an overflow and changes
nothing.  The rewards fit at least as long as the exact interest of the stake's passbook does. -/
theorem unlocked_principal_released_iff (config : Config) (clock : Time) (source : σ)
    (ops : List Operation) {owner : String} {s : Stake}
    (hs : ((Ledger.new config clock source).run ops).2.stakes.active owner = .ok s) :
    let l := Ledger.new config clock source
    let l' := (l.run ops).2
    let rate := config.staking.annualRate
    (∀ now, s.unlockAt ≤ now →
        ((l'.perform (.stake (.close owner now))).1 =
            .ok (.withdrawal ⟨owner, s.amount, s.unclaimed now rate⟩) ↔
          s.lifetimeRewards now rate < UInt64.size) ∧
        (UInt64.size ≤ s.lifetimeRewards now rate → ∀ later, now ≤ later →
          l'.perform (.stake (.close owner later)) = (.error .amountOverflow, l'))) ∧
      ∃ book, Account.ofHistory owner (l.transcript ops) = some (.held book) ∧
        s.amount.toNat = book.balance ∧
        ∀ now, book.interest rate now < UInt64.size →
          s.lifetimeRewards now rate < UInt64.size := by
  intro l l' rate
  have hrate : l'.stakes.terms.annualRate = rate := by
    rw [stakes_terms_run]
    rfl
  obtain ⟨book, haccount, hbook⟩ := describes_of_active config clock source ops hs
  refine ⟨fun now hunlocked => ⟨?_, fun hlarge later hlater => ?_⟩,
    book, haccount, hbook.amount, fun now hinterest => ?_⟩
  · rw [← hrate]
    exact StakePool.perform_close_eq_ok_iff hs hunlocked
  · rw [← hrate] at hlarge
    have hrefused : l'.stakes.perform (.close owner later) = (.error .amountOverflow, l'.stakes) :=
      StakePool.perform_close_of_large hs hunlocked hlarge hlater
    simp only [perform, hrefused]
  · have hpaid := (hbook.accountsFor now).notMore
    exact_mod_cast lt_of_le_of_lt hpaid hinterest

/-- A stake that was claimed from and increased, closed at the end of its lock. -/
theorem unlocked_principal_released_after_increase :
    let ops : List Operation := [.stake (.openStake "bob" ⟨10000000000⟩ 0),
      .stake (.claim "bob" 1000), .stake (.increase "bob" ⟨5⟩ 500)]
    let s : Stake := ⟨"bob", ⟨10000000005⟩, 0, 2592000, ⟨15844⟩, true, 1000, .zero⟩
    ((Ledger.new default 0 (Source.script [])).run ops).2.stakes.active "bob" = .ok s ∧
      (((Ledger.new default 0 (Source.script [])).run ops).2.perform
          (.stake (.close "bob" 2592000))).1 =
        .ok (.withdrawal ⟨"bob", ⟨10000000005⟩, s.unclaimed 2592000 500⟩) := by
  intro ops s
  have hs : ((Ledger.new default 0 (Source.script [])).run ops).2.stakes.active "bob" =
      .ok s := by decide +kernel
  have hfits : s.lifetimeRewards 2592000 500 < UInt64.size := by decide +kernel
  obtain ⟨hclose, -⟩ := unlocked_principal_released_iff default 0 (Source.script []) ops hs
  exact ⟨hs, (hclose 2592000 (by decide +kernel)).1.mpr hfits⟩

/-- **Principal can be withheld.**  A hundred thousand million coins at the default terms have
earned as much again after twenty years, which is paid.  Twenty years later the lock has long run
out, and the stake cannot be closed. -/
theorem unlocked_principal_withheld :
    let l := Ledger.new default 0 (Source.script [])
    let l' := (l.run [.stake (.openStake "bob" ⟨10000000000000000000⟩ 0),
      .stake (.claim "bob" 631152000)]).2
    ¬ ∀ s, l'.stakes.active "bob" = .ok s → s.unlockAt ≤ 1262304000 → ∃ rewards,
      (l'.perform (.stake (.close "bob" 1262304000))).1 =
        .ok (.withdrawal ⟨"bob", s.amount, rewards⟩) := by
  intro l l' hreleased
  let s : Stake :=
    { l.stakes.opening "bob" ⟨10000000000000000000⟩ 0 with
      rewardsClaimed := ⟨10000000000000000000⟩
      lastClaimAt := 631152000 }
  have hs : l'.stakes.active "bob" = .ok s := by decide +kernel
  have hrefused : (l'.perform (.stake (.close "bob" 1262304000))).1 = .error .amountOverflow := by
    decide +kernel
  obtain ⟨rewards, hclose⟩ := hreleased s hs (by decide)
  rw [hrefused] at hclose
  cases hclose

end Ledger

end StakeChain
