/-
# Operations move rewards and make none

What a record has paid out and what could be claimed from it together are its lifetime rewards
(`Stake.lifetimeRewards`).  A claim, an increase and a closing take what could be claimed at their
time, pay it out or put it aside, and let the record earn anew from its anchor on
(`Stake.Settles`).  A record earns nothing before its anchor (`Stake.unclaimed_of_le_anchor`), so at
the time of the operation the lifetime rewards are what they were, whether that time lies before the
anchor or after it, and also where a sum has reached the largest amount.

Between operations lifetime rewards only grow.  So they never fall along a history whose times do
not go back, as long as the owner opens no new stake.

Main statement: `Ledger.rewards_carried_over`.
-/
import StakeChain.Proofs.Staking.Release

namespace StakeChain

/-! ## 1. One record -/

namespace Stake

variable {s s' : Stake} {rate : UInt32} {now : Time}

/-- At its own time this neither makes a reward nor loses one. -/
theorem Settles.lifetimeRewards (h : s.Settles rate now s') :
    s'.lifetimeRewards now rate = s.lifetimeRewards now rate := by
  have hanchor : now ≤ s'.lastClaimAt := by
    rw [h.anchor]
    exact Time.le_max_right _ _
  rw [Stake.lifetimeRewards, unclaimed_of_le_anchor s' rate hanchor, h.moved, Stake.lifetimeRewards]

end Stake

/-! ## 2. One operation -/

/-- The time that an operation on stakes is given. -/
def StakeOperation.time? : StakeOperation → Option Time
  | .openStake _ _ now | .accrue _ now | .claim _ now | .increase _ _ now | .close _ now => some now
  | .find _ => none

/-- The time that an operation on the stake of this owner is given. -/
def Operation.timeFor? (owner : String) : Operation → Option Time
  | .stake op => if op.owner = owner then op.time? else none
  | _ => none

namespace StakePool

variable {p p' : StakePool} {owner : String} {s : Stake} {now : Time}

theorem find_of_active (h : p.active owner = .ok s) : p.find owner = .ok s :=
  find_eq_ok_iff.mpr (active_eq_ok_iff.mp h).1

theorem claim_settles {reward : Amount} (hs : p.find owner = .ok s)
    (h : p.claim owner now = .ok (reward, p')) :
    ∃ s', p'.find owner = .ok s' ∧ s.Settles p.terms.annualRate now s' ∧
      s'.settledRewards = .zero := by
  obtain ⟨t, claimed, ht, rfl, hclaimed, rfl⟩ := claim_eq_ok_iff.mp h
  cases hs.symm.trans (find_of_active ht)
  exact ⟨_, find_eq_ok_iff.mpr (get?_put_self ..), ⟨rfl, hclaimed⟩, rfl⟩

theorem close_settles {released : Withdrawal} (hs : p.find owner = .ok s)
    (h : p.close owner now = .ok (released, p')) :
    ∃ s', p'.find owner = .ok s' ∧ s.Settles p.terms.annualRate now s' ∧
      s'.settledRewards = .zero := by
  obtain ⟨t, claimed, ht, -, rfl, hclaimed, rfl⟩ := close_eq_ok_iff.mp h
  cases hs.symm.trans (find_of_active ht)
  exact ⟨_, find_eq_ok_iff.mpr (get?_put_self ..), ⟨rfl, hclaimed⟩, rfl⟩

theorem increase_settles {delta : Amount} {s' : Stake} (hs : p.find owner = .ok s)
    (h : p.increase owner delta now = .ok (s', p')) :
    p'.find owner = .ok s' ∧ s.Settles p.terms.annualRate now s' ∧
      s'.rewardsClaimed = s.rewardsClaimed := by
  obtain ⟨-, t, amount, ht, -, rfl, rfl⟩ := increase_eq_ok_iff.mp h
  cases hs.symm.trans (find_of_active ht)
  exact ⟨find_eq_ok_iff.mpr (get?_put_self ..), ⟨rfl, rfl⟩, rfl⟩

theorem Performed.find_opened {amount : Amount}
    (h : p.Performed (.openStake owner amount now) (.ok (.stake s)) p') :
    p'.find owner = .ok s := by
  cases h with
  | opened ho =>
    obtain ⟨-, -, rfl⟩ := openStake_eq_ok_iff.mp ho
    exact find_eq_ok_iff.mpr (get?_put_self ..)

/-- **Any operation but a new opening keeps the record of an owner or settles it** at the time that
it was given. -/
theorem Performed.keeps_or_settles {op : StakeOperation} {answer : Except LedgerError Answer}
    (h : p.Performed op answer p') (hs : p.find owner = .ok s)
    (hnot : ∀ amount t opened,
      (op, answer) ≠ (.openStake owner amount t, .ok (.stake opened))) :
    ∃ s', p'.find owner = .ok s' ∧
      (s' = s ∨ ∃ t, (Operation.stake op).timeFor? owner = some t ∧
        s.Settles p.terms.annualRate t s') := by
  by_cases hop : op.owner = owner
  · subst hop
    cases h with
    | refused => exact ⟨s, hs, Or.inl rfl⟩
    | accrued _ => exact ⟨s, hs, Or.inl rfl⟩
    | found _ => exact ⟨s, hs, Or.inl rfl⟩
    | opened _ => exact absurd rfl (hnot _ _ _)
    | claimed hc =>
      obtain ⟨s', hs', hsettles, -⟩ := claim_settles hs hc
      exact ⟨s', hs', Or.inr ⟨_, if_pos rfl, hsettles⟩⟩
    | increased hi =>
      obtain ⟨hs', hsettles, -⟩ := increase_settles hs hi
      exact ⟨_, hs', Or.inr ⟨_, if_pos rfl, hsettles⟩⟩
    | closed hc =>
      obtain ⟨s', hs', hsettles, -⟩ := close_settles hs hc
      exact ⟨s', hs', Or.inr ⟨_, if_pos rfl, hsettles⟩⟩
  · refine ⟨s, ?_, Or.inl rfl⟩
    rw [find_eq_ok_iff, h.get?_of_ne hop]
    exact find_eq_ok_iff.mp hs

end StakePool

/-! ## 3. Histories -/

namespace Ledger

variable {σ : Type} [DrawSource σ]

theorem perform_keeps_or_settles {l : Ledger σ} {owner : String} {s : Stake} (op : Operation)
    (hs : l.stakes.find owner = .ok s)
    (hnot : ∀ amount t opened, (op, (l.perform op).1) ≠
      (.stake (.openStake owner amount t), .ok (.stake opened))) :
    ∃ s', (l.perform op).2.stakes.find owner = .ok s' ∧
      (s' = s ∨ ∃ t, op.timeFor? owner = some t ∧
        s.Settles l.stakes.terms.annualRate t s') := by
  rw [stakes_perform]
  cases op with
  | stake op =>
    refine (l.stakes.perform_performed op).keeps_or_settles hs fun amount t opened heq => ?_
    obtain ⟨rfl, hanswer⟩ := Prod.mk.inj heq
    exact hnot amount t opened (by rw [← hanswer]; rfl)
  | _ => exact ⟨s, hs, Or.inl rfl⟩

/-- The times of the operations on the owner's stakes in a history, each with the record after
it. -/
def timeline (owner : String) : List Operation → Ledger σ → List (Time × Stake)
  | [], _ => []
  | op :: rest, l =>
    let l' := (l.perform op).2
    match op.timeFor? owner, l'.stakes.find owner with
    | some t, .ok s => (t, s) :: timeline owner rest l'
    | _, _ => timeline owner rest l'

/-- The lifetime rewards that a timeline shows. -/
def lifetimeRewards (rate : UInt32) (timeline : List (Time × Stake)) : List Nat :=
  timeline.map fun (t, s) => s.lifetimeRewards t rate

/-- **From a record on, lifetime rewards never fall**, as long as times do not go back and nothing
is opened.  The induction is on the history; what comes before it counts with the record that it
finds and the time from which that was left alone. -/
theorem isChain_lifetimeRewards {owner : String} : ∀ (ops : List Operation) {l : Ledger σ}
    {s : Stake} {start : Time}, l.stakes.find owner = .ok s →
    (∀ amount t opened,
      (.stake (.openStake owner amount t), .ok (.stake opened)) ∉ l.transcript ops) →
    (start :: ops.filterMap (·.timeFor? owner)).IsChain (· ≤ ·) →
      (l.timeline owner ops).map Prod.fst = ops.filterMap (·.timeFor? owner) ∧
      (s.lifetimeRewards start l.stakes.terms.annualRate ::
        lifetimeRewards l.stakes.terms.annualRate (l.timeline owner ops)).IsChain (· ≤ ·)
  | [], _, _, _, _, _, _ => ⟨rfl, List.IsChain.singleton _⟩
  | op :: rest, l, s, start, hs, hnot, htimes => by
    rw [transcript_cons] at hnot
    obtain ⟨s', hs', hstep⟩ := perform_keeps_or_settles op hs fun amount t opened heq =>
      hnot amount t opened (heq ▸ List.mem_cons_self)
    have hrest : ∀ amount t opened, (.stake (.openStake owner amount t), .ok (.stake opened)) ∉
        (l.perform op).2.transcript rest :=
      fun amount t opened hmem => hnot amount t opened (List.mem_cons_of_mem _ hmem)
    rw [← l.stakes_terms_perform op] at hstep ⊢
    cases htime : op.timeFor? owner with
    | none =>
      obtain rfl : s' = s := by
        rcases hstep with h | ⟨t, ht, -⟩
        · exact h
        · rw [htime] at ht
          cases ht
      rw [List.filterMap_cons_none htime] at htimes ⊢
      simp only [timeline, htime]
      exact isChain_lifetimeRewards rest hs' hrest htimes
    | some t =>
      have hkept : s'.lifetimeRewards t (l.perform op).2.stakes.terms.annualRate =
          s.lifetimeRewards t (l.perform op).2.stakes.terms.annualRate := by
        rcases hstep with rfl | ⟨t', ht', hsettles⟩
        · rfl
        · cases htime.symm.trans ht'
          exact hsettles.lifetimeRewards
      rw [List.filterMap_cons_some htime, List.isChain_cons_cons] at htimes
      rw [List.filterMap_cons_some htime]
      simp only [timeline, htime, hs', lifetimeRewards, List.map_cons]
      obtain ⟨hfst, hchain⟩ := isChain_lifetimeRewards rest hs' hrest htimes.2
      refine ⟨congrArg (t :: ·) hfst, List.isChain_cons_cons.mpr ⟨?_, hchain⟩⟩
      rw [hkept]
      exact s.lifetimeRewards_mono _ htimes.1

/-- **Operations make no rewards and lose none.**  Take any record, rate and time, be it before the
anchor.  A claim, an increase or a closing that succeeds at that time leaves the rewards that were
paid and those that could be claimed then, taken together, as they were.  After a claim or a closing
nothing can be claimed up to the new anchor; an increase pays nothing.  And as time goes on, what
can be claimed from a record never falls.

So take any history from the opening of a stake on, in which the owner opens no other.  If the times
that the operations on it are given never go back, then neither do its lifetime rewards, from each
of these operations to the next one; and none of the operations is left out here. -/
theorem rewards_carried_over (l : Ledger σ) (owner : String) :
    (∀ (p : StakePool) (s : Stake) (now : Time), p.find owner = .ok s →
        let rate := p.terms.annualRate
        (∀ reward p', p.claim owner now = .ok (reward, p') → ∃ s', p'.find owner = .ok s' ∧
          s'.lifetimeRewards now rate = s.lifetimeRewards now rate ∧
          s'.lastClaimAt = max s.lastClaimAt now ∧
          ∀ t ≤ s'.lastClaimAt, s'.unclaimed t rate = .zero) ∧
        (∀ delta s' p', p.increase owner delta now = .ok (s', p') → p'.find owner = .ok s' ∧
          s'.lifetimeRewards now rate = s.lifetimeRewards now rate ∧
          s'.rewardsClaimed = s.rewardsClaimed) ∧
        (∀ released p', p.close owner now = .ok (released, p') → ∃ s', p'.find owner = .ok s' ∧
          s'.lifetimeRewards now rate = s.lifetimeRewards now rate ∧
          s'.lastClaimAt = max s.lastClaimAt now ∧
          ∀ t ≤ s'.lastClaimAt, s'.unclaimed t rate = .zero)) ∧
      (∀ (s : Stake) (rate : UInt32) (now later : Time), now ≤ later →
        s.unclaimed now rate ≤ s.unclaimed later rate) ∧
      ∀ (amount : Amount) (start : Time) (opened : Stake) (ops : List Operation),
        let opening : Operation := .stake (.openStake owner amount start)
        let timeline := l.timeline owner (opening :: ops)
        (l.perform opening).1 = .ok (.stake opened) →
        (∀ amount t other, (.stake (.openStake owner amount t), .ok (.stake other)) ∉
          (l.perform opening).2.transcript ops) →
        (start :: ops.filterMap (·.timeFor? owner)).IsChain (· ≤ ·) →
          timeline.map Prod.fst = start :: ops.filterMap (·.timeFor? owner) ∧
          (lifetimeRewards l.stakes.terms.annualRate timeline).IsChain (· ≤ ·) := by
  refine ⟨?_, fun s rate now later h => Amount.le_iff_toNat.mpr (s.unclaimed_mono rate h), ?_⟩
  · intro p s now hs rate
    refine ⟨fun reward p' h => ?_, fun delta s' p' h => ?_, fun released p' h => ?_⟩
    · obtain ⟨s', hs', hsettles, hzero⟩ := StakePool.claim_settles hs h
      exact ⟨s', hs', hsettles.lifetimeRewards, hsettles.anchor, fun t ht =>
        Stake.unclaimed_eq_zero_of_le_anchor hzero rate ht⟩
    · obtain ⟨hs', hsettles, hclaimed⟩ := StakePool.increase_settles hs h
      exact ⟨hs', hsettles.lifetimeRewards, hclaimed⟩
    · obtain ⟨s', hs', hsettles, hzero⟩ := StakePool.close_settles hs h
      exact ⟨s', hs', hsettles.lifetimeRewards, hsettles.anchor, fun t ht =>
        Stake.unclaimed_eq_zero_of_le_anchor hzero rate ht⟩
  · intro amount start opened ops opening timeline hopened hnot htimes
    have hperformed := l.stakes.perform_performed (.openStake owner amount start)
    have hanswer : (l.stakes.perform (.openStake owner amount start)).1 = .ok (.stake opened) :=
      hopened
    rw [hanswer] at hperformed
    have hfind : (l.perform opening).2.stakes.find owner = .ok opened := hperformed.find_opened
    have htime : opening.timeFor? owner = some start := if_pos rfl
    have htimeline : timeline = (start, opened) :: (l.perform opening).2.timeline owner ops := by
      simp only [timeline, Ledger.timeline, htime, hfind]
    obtain ⟨hfst, hchain⟩ := isChain_lifetimeRewards ops hfind hnot htimes
    rw [stakes_terms_perform] at hchain
    rw [htimeline]
    exact ⟨congrArg (start :: ·) hfst, hchain⟩

/-- From the opening of a stake to its closing, with a claim and an increase at one time and another
owner's stake in between. -/
theorem rewards_carried_over_to_closing :
    let l := Ledger.new default 0 (Source.script [])
    let timeline := l.timeline "bob" [.stake (.openStake "bob" ⟨10000000000⟩ 0),
      .stake (.claim "bob" 1000), .stake (.increase "bob" ⟨5⟩ 1000),
      .stake (.openStake "alice" ⟨10000000000⟩ 500), .stake (.find "bob"),
      .stake (.close "bob" 2592000)]
    timeline.map Prod.fst = [0, 1000, 1000, 2592000] ∧
      (lifetimeRewards 500 timeline).IsChain (· ≤ ·) := by
  intro l timeline
  obtain ⟨-, -, hrun⟩ := rewards_carried_over l "bob"
  refine hrun ⟨10000000000⟩ 0 (l.stakes.opening "bob" ⟨10000000000⟩ 0)
    [.stake (.claim "bob" 1000), .stake (.increase "bob" ⟨5⟩ 1000),
      .stake (.openStake "alice" ⟨10000000000⟩ 500), .stake (.find "bob"),
      .stake (.close "bob" 2592000)] (by decide +kernel) (fun amount t other hmem => ?_)
    (by decide +kernel)
  have hop := (List.of_mem_zip hmem).1
  simp at hop

end Ledger

end StakeChain
