/-
# Elections are proportional to stake

The search for a winner adds up stakes until the sum exceeds the number that was drawn.  Laid end
to end, the stakes are stretches of the numbers below the total, one for each position of the
list, and the search ends at the position into whose stretch the number falls (`endsAt_iff`).  The
stretches follow one another without gaps and without overlaps, so every number below the total
falls into exactly one of them; and a stretch has as many numbers as its candidate has units of
stake, none where there is no stake.

Main statement: `Urn.elected_in_proportion_to_stake`.  Two positions may hold the same candidate,
so what is counted are the numbers for which the search ends at a position (`EndsAt`), not those
for which it comes out with a candidate that looks like the one standing there.
-/
import Mathlib.Order.Interval.Finset.Nat
import StakeChain.Proofs.Election.Draws
import StakeChain.Staking.Stake

namespace StakeChain

/-! ## 1. Sums of stakes -/

theorem totalStake_append (early late : List Validator) :
    totalStake (early ++ late) = totalStake early + totalStake late := by
  rw [totalStake, List.map_append, Amount.total_append]
  rfl

/-- Each stake fits 64 bits. -/
theorem totalStake_le (candidates : List Validator) :
    totalStake candidates ≤ candidates.length * UInt64.size := by
  induction candidates with
  | nil => exact Nat.le_refl 0
  | cons v rest ih =>
    have hstake : v.stake.toNat < UInt64.size := v.stake.toNat_lt
    rw [totalStake_cons, List.length_cons, Nat.succ_mul]
    omega

/-- The total of a list that is not too long fits 128 bits, and so does every sum on the way. -/
theorem totalStake_lt {candidates : List Validator} (h : candidates.length < UInt64.size) :
    totalStake candidates < wideSize :=
  calc totalStake candidates ≤ candidates.length * UInt64.size := totalStake_le candidates
    _ < UInt64.size * UInt64.size := Nat.mul_lt_mul_of_pos_right h (by decide)

/-- Where the stretch of a position begins: the exact total of the stakes before it. -/
def stretchStart (candidates : List Validator) (i : Nat) : Nat := totalStake (candidates.take i)

section Stretches

variable {candidates : List Validator} {number i j : Nat} {v w : Validator}

/-- A stretch begins where the one before it ends. -/
theorem stretchStart_succ (h : candidates[i]? = some v) :
    stretchStart candidates (i + 1) = stretchStart candidates i + v.stake.toNat := by
  rw [stretchStart, List.take_add_one, h, totalStake_append]
  rfl

/-- Stretches come in the order of the positions. -/
theorem stretchStart_mono (h : i ≤ j) : stretchStart candidates i ≤ stretchStart candidates j := by
  obtain ⟨more, hmore⟩ := List.take_prefix_take_left (l := candidates) h
  rw [stretchStart, stretchStart, ← hmore, totalStake_append]
  omega

/-- The last of them ends at the total. -/
theorem stretch_le_totalStake (h : candidates[i]? = some v) :
    stretchStart candidates i + v.stake.toNat ≤ totalStake candidates := by
  obtain ⟨more, hmore⟩ := List.take_prefix (i + 1) candidates
  rw [← stretchStart_succ h]
  conv_rhs => rw [← hmore]
  rw [totalStake_append, stretchStart]
  omega

/-! ## 2. Where the search ends -/

/-- The search goes on behind a list in which it has found nobody. -/
theorem winner?_append (number : Nat) : ∀ (before : Nat) (early late : List Validator),
    winner? number before (early ++ late) =
      (winner? number before early).or (winner? number (before + totalStake early) late)
  | _, [], _ => rfl
  | before, v :: early, late => by
    rw [totalStake_cons, ← Nat.add_assoc, List.cons_append, winner?, winner?]
    split
    · rfl
    · exact winner?_append number _ early late

/-- **The search ends at a position**: it finds nobody among the candidates before it, and somebody
once the candidate at the position is among them. -/
def EndsAt (candidates : List Validator) (number i : Nat) : Prop :=
  winner? number 0 (candidates.take i) = none ∧ winner? number 0 (candidates.take (i + 1)) ≠ none

instance (candidates : List Validator) (number i : Nat) : Decidable (EndsAt candidates number i) :=
  inferInstanceAs (Decidable (_ ∧ _))

/-- **The search ends where the number falls into the stretch.** -/
theorem endsAt_iff (h : candidates[i]? = some v) :
    EndsAt candidates number i ↔
      stretchStart candidates i ≤ number ∧ number < stretchStart candidates i + v.stake.toNat := by
  have hsucc := stretchStart_succ h
  rw [EndsAt, Ne, winner?_eq_none_iff (Nat.zero_le _), winner?_eq_none_iff (Nat.zero_le _)]
  unfold stretchStart at *
  omega

/-- It ends nowhere behind the list. -/
theorem EndsAt.exists_getElem? (h : EndsAt candidates number i) :
    ∃ v, candidates[i]? = some v := by
  cases hv : candidates[i]? with
  | some v => exact ⟨v, rfl⟩
  | none =>
    refine absurd h.1 ?_
    have hsame : candidates.take (i + 1) = candidates.take i := by
      rw [List.take_add_one, hv, Option.toList_none, List.append_nil]
    exact hsame ▸ h.2

/-- The candidate at whose position the search ends is the winner. -/
theorem EndsAt.winner?_eq (h : EndsAt candidates number i) (hv : candidates[i]? = some v) :
    winner? number 0 candidates = some v := by
  obtain ⟨hnone, hsome⟩ := h
  obtain ⟨more, hmore⟩ := List.take_prefix (i + 1) candidates
  rw [List.take_add_one, hv, winner?_append, hnone, Option.none_or] at hsome
  have hlast : winner? number (0 + totalStake (candidates.take i)) (some v).toList = some v := by
    rw [Option.toList_some, winner?] at hsome ⊢
    split
    · rfl
    · rename_i hge
      rw [if_neg hge] at hsome
      exact absurd rfl hsome
  rw [← hmore, List.take_add_one, hv, winner?_append, winner?_append, hnone, Option.none_or,
    hlast, Option.some_or]

/-- **It ends at one position only.** -/
theorem EndsAt.unique (hi : EndsAt candidates number i) (hj : EndsAt candidates number j) :
    i = j := by
  obtain ⟨v, hv⟩ := hi.exists_getElem?
  obtain ⟨w, hw⟩ := hj.exists_getElem?
  have hi := (endsAt_iff hv).mp hi
  have hj := (endsAt_iff hw).mp hj
  rw [← stretchStart_succ hv] at hi
  rw [← stretchStart_succ hw] at hj
  -- of two different stretches, one ends before the other begins
  rcases Nat.lt_trichotomy i j with hlt | heq | hgt
  · have hbefore : stretchStart candidates (i + 1) ≤ stretchStart candidates j :=
      stretchStart_mono hlt
    omega
  · exact heq
  · have hbefore : stretchStart candidates (j + 1) ≤ stretchStart candidates i :=
      stretchStart_mono hgt
    omega

/-- **Below the total it ends somewhere.** -/
theorem exists_endsAt (h : number < totalStake candidates) : ∃ i, EndsAt candidates number i := by
  have hall : winner? number 0 (candidates.take candidates.length) ≠ none := by
    rw [List.take_length, Ne, winner?_eq_none_iff (Nat.zero_le _)]
    omega
  -- the first number of candidates among whom somebody is found
  have hsome : ∃ n, winner? number 0 (candidates.take n) ≠ none := ⟨_, hall⟩
  have hfirst := Nat.find_spec hsome
  cases hn : Nat.find hsome with
  | zero =>
    rw [hn] at hfirst
    exact absurd rfl hfirst
  | succ i =>
    rw [hn] at hfirst
    exact ⟨i, not_not.mp (Nat.find_min hsome (by omega)), hfirst⟩

/-- **A position wins for as many numbers as its candidate has units of stake.** -/
theorem card_endsAt (h : candidates[i]? = some v) :
    ((Finset.range (totalStake candidates)).filter (EndsAt candidates · i)).card =
      v.stake.toNat := by
  have hstretch : (Finset.range (totalStake candidates)).filter (EndsAt candidates · i) =
      Finset.Ico (stretchStart candidates i) (stretchStart candidates i + v.stake.toNat) := by
    have hend := stretch_le_totalStake h
    ext number
    rw [Finset.mem_filter, Finset.mem_range, Finset.mem_Ico, endsAt_iff h]
    omega
  rw [hstretch, Nat.card_Ico]
  omega

end Stretches

/-! ## 3. Elections -/

namespace Urn

variable {σ : Type} [DrawSource σ]

/-- The urn after an election: one draw below the total, or none where there is nothing to draw
for. -/
theorem elect_snd (u : Urn σ) (candidates : List Validator) :
    (u.elect candidates).2 =
      if totalStake candidates = 0 then u else (u.draw (totalStake candidates)).2 := by
  cases hlast : candidates.getLast? with
  | none =>
    obtain rfl := List.getLast?_eq_none_iff.mp hlast
    rfl
  | some last =>
    by_cases htotal : totalStake candidates = 0
    · simp [elect, hlast, htotal]
    · simp [elect, hlast, htotal]

/-- What an election adds to a record of draws. -/
theorem draws_elect (u : Urn (Recorded σ)) (candidates : List Validator) :
    (u.elect candidates).2.source.draws = u.source.draws ++
      if totalStake candidates = 0 then []
      else [(totalStake candidates, (u.draw (totalStake candidates)).1)] := by
  rw [elect_snd]
  split
  · rw [List.append_nil]
  · rfl

/-- **Everybody is elected for as many numbers as there are units of stake.**  Only the empty list
fails.  Where no candidate has a stake, the last one leads and nothing is drawn.  Otherwise one
number is drawn, with the exact total as its bound.  When it is below that bound, the elected
candidate is the one at the only position whose stretch the number falls into, found without the
fallback and not without stake; and of all numbers below the bound, each position wins for exactly
as many as its candidate has units of stake.  The sums fit 128 bits. -/
theorem elected_in_proportion_to_stake (u : Urn σ) (candidates : List Validator) :
    let total := totalStake candidates
    let number := (u.draw total).1
    ((∃ e, (u.elect candidates).1 = .error e) ↔ candidates = []) ∧
      (total = 0 → ∀ last, candidates.getLast? = some last → u.elect candidates = (.ok last, u)) ∧
      (number < total → ∃ i v, candidates[i]? = some v ∧
        u.elect candidates = (.ok v, (u.draw total).2) ∧
        winner? number 0 candidates = some v ∧ .zero < v.stake ∧ EndsAt candidates number i ∧
        ∀ j w, candidates[j]? = some w →
          (stretchStart candidates j ≤ number ∧
            number < stretchStart candidates j + w.stake.toNat ↔ j = i)) ∧
      (∀ i v, candidates[i]? = some v →
        ((Finset.range total).filter (EndsAt candidates · i)).card = v.stake.toNat) ∧
      (∀ r : Urn (Recorded σ), (r.elect candidates).2.source.draws =
        r.source.draws ++ if total = 0 then [] else [(total, (r.draw total).1)]) ∧
      (candidates.length < UInt64.size → total < wideSize) := by
  intro total number
  refine ⟨?_, ?_, ?_, fun i v hv => card_endsAt hv, fun r => r.draws_elect candidates,
    totalStake_lt⟩
  · rcases u.elect_cases candidates with ⟨hnone, helect⟩ | ⟨leader, hleader, _, v, _, helect⟩
    · exact iff_of_true ⟨_, by rw [helect]⟩ hnone
    · refine iff_of_false ?_ (List.ne_nil_of_mem hleader)
      rw [helect]
      rintro ⟨e, ⟨⟩⟩
  · intro htotal last hlast
    simp only [elect, hlast]
    exact if_pos htotal
  · intro hnumber
    obtain ⟨i, hi⟩ := exists_endsAt hnumber
    obtain ⟨v, hv⟩ := hi.exists_getElem?
    have hwinner := hi.winner?_eq hv
    have hstretch := (endsAt_iff hv).mp hi
    refine ⟨i, v, hv, elect_of_winner? (Nat.ne_of_gt (Nat.zero_lt_of_lt hnumber)) hwinner, hwinner,
      Amount.lt_iff_toNat.mpr ?_, hi, fun j w hw => ?_⟩
    · rw [Amount.toNat_zero]
      omega
    · rw [← endsAt_iff hw]
      constructor
      · intro hj
        exact hj.unique hi
      · rintro rfl
        exact hi

/-- Five units of stake, and a candidate without any between the others. -/
example :
    let candidates : List Validator :=
      [⟨"A", ⟨2⟩, 0, 0, true⟩, ⟨"B", ⟨0⟩, 0, 0, true⟩, ⟨"C", ⟨3⟩, 0, 0, true⟩]
    (List.range 5).map (fun number => (winner? number 0 candidates).map (·.identifier)) =
      [some "A", some "A", some "C", some "C", some "C"] := by
  decide

end Urn

end StakeChain
