/-
# The summary against the owners' own answers

The summary of the pool is one pass over the records, with totals that stop at the largest amount.
Each owner can also ask alone what could be claimed, and is refused where there is no active stake.
The two agree: the pass counts the owners who get an answer, and its total is the exact sum of their
answers, held within an amount once (`StakePool.summary_eq`).

So whatever leaves all answers as they are leaves the summary, and this is what an increase does at
its own time: what the old balance has earned is put aside, not lost
(`StakePool.accrued_of_increase`).  A claim leaves all answers but one, and that one drops to nothing
(`StakePool.accrued_of_claim`).

Main statement: `StakePool.summary_agrees_with_answers`.
-/
import Mathlib.Algebra.BigOperators.Group.Finset.Basic
import StakeChain.Proofs.Staking.Conservation
import StakeChain.Proofs.Staking.Continuity

namespace StakeChain

/-! ## 1. Keys and totals -/

namespace Table

variable {α : Type}

theorem nodup_keys (t : Table α) : (t.entries.map (·.1)).Nodup := by
  rw [List.nodup_iff_pairwise_ne, List.pairwise_map]
  refine t.sorted.imp ?_
  intro d e hlt heq
  exact String.lt_irrefl _ (heq ▸ hlt)

/-- Tables with the same keys are of one size. -/
theorem length_values_eq {t u : Table α}
    (h : ∀ key, (∃ value, t.get? key = some value) ↔ ∃ value, u.get? key = some value) :
    t.values.length = u.values.length := by
  have hkeys : (t.entries.map (·.1)).Perm (u.entries.map (·.1)) := by
    refine (List.perm_ext_iff_of_nodup t.nodup_keys u.nodup_keys).mpr fun key => ?_
    simpa [get?_eq_some_iff] using h key
  simpa [values] using hkeys.length_eq

end Table

theorem Amount.total_eq_sum : ∀ amounts : List Amount, total amounts = (amounts.map toNat).sum
  | [] => rfl
  | a :: rest => by rw [total, total_eq_sum rest, List.map_cons, List.sum_cons]

namespace StakePool

variable {p p' : StakePool} {owner : String} {s : Stake} {now : Time}

/-! ## 2. What owners are answered -/

theorem accrued_eq_ok_iff {reward : Amount} :
    p.accrued owner now = .ok reward ↔
      ∃ s, p.active owner = .ok s ∧ reward = s.unclaimed now p.terms.annualRate := by
  rw [accrued, bind_eq_ok_iff]
  simp only [Except.ok.injEq, eq_comm]

/-- The owners who are answered: those of the active stakes. -/
def earners (p : StakePool) : Finset String :=
  ((p.stakes.entries.filter fun e => e.2.isActive).map (·.1)).toFinset

theorem mem_earners_iff (now : Time) :
    owner ∈ p.earners ↔ ∃ reward, p.accrued owner now = .ok reward := by
  simp only [earners, List.mem_toFinset, List.mem_map, List.mem_filter, Prod.exists,
    accrued_eq_ok_iff, active_eq_ok_iff, Table.get?_eq_some_iff]
  constructor
  · rintro ⟨_, s, ⟨hs, hactive⟩, rfl⟩
    exact ⟨_, s, ⟨hs, hactive⟩, rfl⟩
  · rintro ⟨_, s, ⟨hs, hactive⟩, -⟩
    exact ⟨owner, s, ⟨hs, hactive⟩, rfl⟩

/-- The units of an answer, if there is one. -/
def accruedUnits (p : StakePool) (now : Time) (owner : String) : Nat :=
  match p.accrued owner now with
  | .ok reward => reward.toNat
  | .error _ => 0

theorem accruedUnits_of_accrued {reward : Amount} (h : p.accrued owner now = .ok reward) :
    p.accruedUnits now owner = reward.toNat := by
  rw [accruedUnits, h]

/-- The exact sum of all answers. -/
def unclaimedTotal (p : StakePool) (now : Time) : Nat :=
  ∑ owner ∈ p.earners, p.accruedUnits now owner

theorem nodup_activeKeys (p : StakePool) :
    ((p.stakes.entries.filter fun e => e.2.isActive).map (·.1)).Nodup :=
  (List.filter_sublist.map _).nodup p.stakes.nodup_keys

theorem filter_list (p : StakePool) :
    p.list.filter (·.isActive) = (p.stakes.entries.filter fun e => e.2.isActive).map (·.2) :=
  List.filter_map

theorem card_earners (p : StakePool) : p.earners.card = (p.list.filter (·.isActive)).length := by
  rw [earners, List.toFinset_card_of_nodup p.nodup_activeKeys, filter_list, List.length_map,
    List.length_map]

/-- The sum over the records is the sum over the answers. -/
theorem total_unclaimed (p : StakePool) (now : Time) :
    Amount.total ((p.list.filter (·.isActive)).map (·.unclaimed now p.terms.annualRate)) =
      p.unclaimedTotal now := by
  rw [unclaimedTotal, earners, List.sum_toFinset _ p.nodup_activeKeys, Amount.total_eq_sum,
    filter_list, List.map_map, List.map_map, List.map_map]
  refine congrArg List.sum (List.map_congr_left ?_)
  rintro ⟨owner, s⟩ he
  obtain ⟨hstored, hactive⟩ := List.mem_filter.mp he
  have hs : p.active owner = .ok s :=
    active_eq_ok_iff.mpr ⟨Table.get?_eq_some_iff.mpr hstored, hactive⟩
  exact (accruedUnits_of_accrued (accrued_eq_ok_iff.mpr ⟨s, hs, rfl⟩)).symm

/-- **The summary in terms of records and answers.** -/
theorem summary_eq (p : StakePool) (now : Time) :
    p.summary now =
      { totalStaked := .clamp p.locked
        unclaimedRewards := .clamp (p.unclaimedTotal now)
        activeStakes := p.earners.card
        totalStakers := p.list.length
        terms := p.terms } := by
  have hlocked : Amount.total ((p.list.filter (·.isActive)).map (·.amount)) = p.locked :=
    (total_locked p.list).symm
  rw [summary, PoolSummary.foldl_add]
  simp only [PoolSummary.blank, Amount.foldl_addClamped_zero, hlocked, total_unclaimed,
    card_earners, Nat.zero_add]

/-! ## 3. What an increase and a claim leave of the answers -/

/-- A record that earns only from now on is answered with what was put aside. -/
theorem accrued_put (hactive : s.isActive = true) (hanchor : now ≤ s.lastClaimAt) (key : String) :
    (p.put owner s).accrued key now =
      if key = owner then .ok s.settledRewards else p.accrued key now := by
  split
  · rename_i hkey
    subst hkey
    rw [accrued_eq_ok_iff]
    exact ⟨s, active_eq_ok_iff.mpr ⟨get?_put_self .., hactive⟩,
      (s.unclaimed_of_le_anchor _ hanchor).symm⟩
  · rename_i hkey
    rw [accrued, active, find, get?_put, if_neg hkey]
    rfl

/-- **An increase leaves all answers of its own time as they are.** -/
theorem accrued_of_increase {delta : Amount} (h : p.increase owner delta now = .ok (s, p'))
    (key : String) : p'.accrued key now = p.accrued key now := by
  obtain ⟨-, t, amount, ht, -, hs, rfl⟩ := increase_eq_ok_iff.mp h
  have hactive : s.isActive = true := by
    rw [hs]
    exact (active_eq_ok_iff.mp ht).2
  have hanchor : now ≤ s.lastClaimAt := by
    rw [hs]
    exact Time.le_max_right _ _
  rw [accrued_put hactive hanchor]
  split
  · rename_i hkey
    rw [hkey, accrued_eq_ok_iff.mpr ⟨t, ht, rfl⟩, hs]
  · rfl

/-- **A claim leaves nothing to claim at its own time, and all other answers as they are.** -/
theorem accrued_of_claim {reward : Amount} (h : p.claim owner now = .ok (reward, p'))
    (key : String) :
    p'.accrued key now = if key = owner then .ok .zero else p.accrued key now := by
  obtain ⟨t, claimed, ht, -, -, rfl⟩ := claim_eq_ok_iff.mp h
  obtain ⟨-, hactive⟩ := active_eq_ok_iff.mp ht
  refine accrued_put ?_ ?_ key
  · exact hactive
  · exact Time.le_max_right _ _

/-- Whether an owner is answered decides who the earners are, whenever they ask. -/
theorem earners_eq_of_accrued (now : Time)
    (h : ∀ key, (∃ reward, p'.accrued key now = .ok reward) ↔
      ∃ reward, p.accrued key now = .ok reward) : p'.earners = p.earners := by
  ext key
  rw [mem_earners_iff now, h, mem_earners_iff now]

theorem accrued_claimed {reward : Amount} (h : p.claim owner now = .ok (reward, p')) :
    p.accrued owner now = .ok reward := by
  obtain ⟨t, claimed, ht, hreward, -⟩ := claim_eq_ok_iff.mp h
  exact accrued_eq_ok_iff.mpr ⟨t, ht, hreward⟩

/-- What a claim pays is missing from the sum afterwards. -/
theorem unclaimedTotal_of_claim {reward : Amount} (h : p.claim owner now = .ok (reward, p')) :
    p'.unclaimedTotal now + reward.toNat = p.unclaimedTotal now := by
  have hanswer := accrued_claimed h
  have hafter := accrued_of_claim h
  have hearners : p'.earners = p.earners := by
    refine earners_eq_of_accrued now fun key => ?_
    rw [hafter]
    split
    · rename_i hkey
      rw [hkey, hanswer]
      exact iff_of_true ⟨_, rfl⟩ ⟨_, rfl⟩
    · rfl
  have howner : owner ∈ p.earners := (mem_earners_iff now).mpr ⟨reward, hanswer⟩
  have hothers : ∀ key ∈ p.earners.erase owner,
      p'.accruedUnits now key = p.accruedUnits now key := by
    intro key hkey
    rw [accruedUnits, hafter, if_neg (Finset.ne_of_mem_erase hkey), accruedUnits]
  have hnone : p'.accruedUnits now owner = 0 := by
    rw [accruedUnits_of_accrued ((hafter owner).trans (if_pos rfl)), Amount.toNat_zero]
  rw [unclaimedTotal, unclaimedTotal, hearners, ← Finset.add_sum_erase _ _ howner,
    ← Finset.add_sum_erase p.earners _ howner, Finset.sum_congr rfl hothers, hnone,
    accruedUnits_of_accrued hanswer, Nat.zero_add, Nat.add_comm]

/-- An increase replaces a record, so there are as many as before. -/
theorem length_list_of_increase {delta : Amount} (h : p.increase owner delta now = .ok (s, p')) :
    p'.list.length = p.list.length := by
  obtain ⟨-, t, amount, ht, -, -, rfl⟩ := increase_eq_ok_iff.mp h
  refine Table.length_values_eq fun key => ?_
  rw [get?_put]
  split
  · rename_i hkey
    rw [hkey, (active_eq_ok_iff.mp ht).1]
    exact iff_of_true ⟨_, rfl⟩ ⟨_, rfl⟩
  · rfl

theorem summary_of_increase {delta : Amount} (h : p.increase owner delta now = .ok (s, p')) :
    p'.summary now = { p.summary now with totalStaked := (p'.summary now).totalStaked } := by
  have hafter := accrued_of_increase h
  have hearners : p'.earners = p.earners := by
    refine earners_eq_of_accrued now fun key => ?_
    rw [hafter]
  have htotal : p'.unclaimedTotal now = p.unclaimedTotal now := by
    rw [unclaimedTotal, unclaimedTotal, hearners]
    refine Finset.sum_congr rfl fun key _ => ?_
    rw [accruedUnits, hafter, accruedUnits]
  have hterms : p'.terms = p.terms := by
    obtain ⟨-, _, _, -, -, -, rfl⟩ := increase_eq_ok_iff.mp h
    rfl
  rw [summary_eq, summary_eq, hearners, htotal, length_list_of_increase h, hterms]

/-! ## 4. The main result -/

/-- **The summary agrees with what the owners are answered**, in any pool and at any time.

* It counts as active stakes the owners who get an answer when they ask what they could claim, and
  as stakers all records of the listing.
* Its unclaimed rewards are the exact sum of the answers, or the largest amount if that is less.
* An increase at the same time changes nothing in it but the total that is staked.
* A claim at the same time lowers the exact sum by what it pays. -/
theorem summary_agrees_with_answers (p : StakePool) (now : Time) :
    let summary := p.summary now
    (∀ owner, owner ∈ p.earners ↔ ∃ reward, p.accrued owner now = .ok reward) ∧
      summary.activeStakes = p.earners.card ∧ summary.totalStakers = p.list.length ∧
      summary.unclaimedRewards.toNat = min (p.unclaimedTotal now) (2 ^ 64 - 1) ∧
      (∀ owner delta s p', p.increase owner delta now = .ok (s, p') →
        p'.summary now = { summary with totalStaked := (p'.summary now).totalStaked }) ∧
      ∀ owner reward p', p.claim owner now = .ok (reward, p') →
        p'.unclaimedTotal now + reward.toNat = p.unclaimedTotal now := by
  intro summary
  have hsummary : summary = _ := p.summary_eq now
  refine ⟨fun owner => mem_earners_iff now, ?_, ?_, ?_, ?_, ?_⟩
  · rw [hsummary]
  · rw [hsummary]
  · rw [hsummary, Amount.toNat_clamp]
    rfl
  · exact fun owner delta s p' h => summary_of_increase h
  · exact fun owner reward p' h => unclaimedTotal_of_claim h

/-- A year after two openings, one owner increases the stake, or the other one claims. -/
theorem summary_agrees_with_answers_after_a_year :
    let p := ((Ledger.new default 0 (Source.script [])).run
      [.stake (.openStake "alice" ⟨10000000000⟩ 0),
        .stake (.openStake "bob" ⟨20000000000⟩ 0)]).2.stakes
    let year : Time := 31557600
    p.unclaimedTotal year = 1500000000 ∧
      (∃ s p', p.increase "alice" ⟨5⟩ year = .ok (s, p') ∧
        p'.summary year = { p.summary year with totalStaked := (p'.summary year).totalStaked }) ∧
      ∃ p', p.claim "bob" year = .ok (⟨1000000000⟩, p') ∧
        p'.unclaimedTotal year + 1000000000 = p.unclaimedTotal year := by
  intro p year
  have htotal : p.unclaimedTotal year = 1500000000 := by decide +kernel
  have halice : p.active "alice" =
      .ok ⟨"alice", ⟨10000000000⟩, 0, 2592000, .zero, true, 0, .zero⟩ := by decide +kernel
  have hbob : p.active "bob" =
      .ok ⟨"bob", ⟨20000000000⟩, 0, 2592000, .zero, true, 0, .zero⟩ := by decide +kernel
  obtain ⟨-, -, -, -, hincrease, hclaim⟩ := p.summary_agrees_with_answers year
  obtain ⟨s, p', hmade⟩ : ∃ s p', p.increase "alice" ⟨5⟩ year = .ok (s, p') :=
    ⟨_, _, increase_eq_ok_iff.mpr
      ⟨by decide, _, ⟨10000000005⟩, halice, by decide, rfl, rfl⟩⟩
  obtain ⟨p'', hpaid⟩ : ∃ p'', p.claim "bob" year = .ok (⟨1000000000⟩, p'') :=
    ⟨_, claim_eq_ok_iff.mpr
      ⟨_, ⟨1000000000⟩, hbob, by decide +kernel, by decide, rfl⟩⟩
  exact ⟨htotal, ⟨s, p', hmade, hincrease "alice" ⟨5⟩ s p' hmade⟩, p'', hpaid,
    hclaim "bob" ⟨1000000000⟩ p'' hpaid⟩

end StakePool

end StakeChain
