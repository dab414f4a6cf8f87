/-
# What the quorum check counts

The check passes over the listing once, with three counters.  When it is through they hold the
number of live validators, the exact sum of their stakes, and the exact sum of all stakes
(`Registry.tally_eq`).  The sums stay far below 128 bits as long as the registry is not absurdly
large (`Tally.fits`); only what is reported of them is held within an amount.

The order of the listing does not matter to the counters, so any one validator may be thought of
as counted last: the registry counts as it would without that validator, and then once more for it
(`Registry.tally_of_get?`, `Registry.tally_put`).
-/
import Mathlib.Data.List.Perm.Basic
import StakeChain.Proofs.Election.Share
import StakeChain.Proofs.Registry.Admission
import StakeChain.Registry.Quorum

namespace StakeChain

/-! ## 1. The counters -/

namespace Tally

variable {now window : Time} {t : Tally} {v : Validator}

/-- A live validator moves all three counters. -/
theorem count_of_isLive (h : v.isLive now window = true) :
    count now window t v =
      ⟨t.liveCount + 1, t.liveStake + v.stake.toNat, t.totalStake + v.stake.toNat⟩ := if_pos h

/-- Any other only the last one. -/
theorem count_of_not_isLive (h : v.isLive now window = false) :
    count now window t v = ⟨t.liveCount, t.liveStake, t.totalStake + v.stake.toNat⟩ := by
  rw [count, h]
  rfl

/-- **The counters in closed form.** -/
theorem foldl_count : ∀ (listed : List Validator) (t : Tally),
    let live := listed.filter fun v => v.isLive now window
    listed.foldl (count now window) t =
      ⟨t.liveCount + live.length, t.liveStake + StakeChain.totalStake live,
        t.totalStake + StakeChain.totalStake listed⟩
  | [], t => rfl
  | v :: rest, t => by
    intro live
    rw [List.foldl_cons, foldl_count rest, totalStake_cons]
    cases hlive : v.isLive now window with
    | true =>
      have hcons : live = v :: rest.filter fun w => w.isLive now window :=
        List.filter_cons_of_pos hlive
      simp only [hcons, count_of_isLive hlive, List.length_cons, totalStake_cons, mk.injEq]
      omega
    | false =>
      have hcons : live = rest.filter fun w => w.isLive now window :=
        List.filter_cons_of_neg (by simp [hlive])
      simp only [hcons, count_of_not_isLive hlive, Nat.add_assoc]

/-- **The products of the check fit 128 bits**, after any number of validators below `2 ^ 57`. -/
theorem fits {seen : List Validator} (h : seen.length < 2 ^ 57) :
    let t := seen.foldl (count now window) .zero
    100 * t.liveStake < 2 ^ 128 ∧ 51 * t.totalStake < 2 ^ 128 := by
  intro t
  have ht : t = _ := foldl_count seen .zero
  have hle := totalStake_le seen
  have hlive := totalStake_le (seen.filter fun v => v.isLive now window)
  have hlength := List.length_filter_le (fun v => v.isLive now window) seen
  have hsize : UInt64.size = 2 ^ 64 := rfl
  rw [hsize] at hle hlive
  simp only [ht, zero, Nat.zero_add]
  omega

/-- Two validators may be counted in either order. -/
theorem count_right_comm (t : Tally) (v w : Validator) :
    count now window (count now window t v) w = count now window (count now window t w) v := by
  cases hv : v.isLive now window <;> cases hw : w.isLive now window <;>
    simp [count_of_isLive, count_of_not_isLive, hv, hw, Nat.add_right_comm]

theorem foldl_count_of_perm {listed other : List Validator} (h : listed.Perm other) (t : Tally) :
    listed.foldl (count now window) t = other.foldl (count now window) t :=
  h.foldl_eq' (fun v _ w _ t => count_right_comm t v w) t

end Tally

/-! ## 2. The registry -/

namespace Registry

variable {r : Registry} {v : Validator}

theorem length_list (r : Registry) : r.list.length = r.size := List.length_map _

/-- **What the check has counted**: the live validators, their stake, and all stake. -/
theorem tally_eq (r : Registry) (now : Time) :
    r.tally now = ⟨(r.live now).length, totalStake (r.live now), totalStake r.list⟩ := by
  rw [tally, Tally.foldl_count]
  simp [Tally.zero, live]

/-- **The check is passed** by enough live validators with more than 51 parts in a hundred of all
stake. -/
theorem reached_iff (r : Registry) (now : Time) (minimum : Nat) :
    (r.quorum now minimum).reached = true ↔
      minimum ≤ (r.tally now).liveCount ∧
        51 * (r.tally now).totalStake < 100 * (r.tally now).liveStake := by
  simp only [quorum, Tally.isMajority, Bool.and_eq_true, decide_eq_true_eq]
  omega

/-! ## 3. One validator at a time -/

theorem nodup_list (r : Registry) : r.list.Nodup := by
  refine r.pairwise_list.imp ?_
  rintro v _ hlt rfl
  exact String.lt_irrefl _ hlt

/-- The listing is any one of its validators and the listing without it. -/
theorem list_perm_of_get? (h : r.validators.get? v.identifier = some v) :
    r.list.Perm ((r.drop v.identifier).list ++ [v]) := by
  have hgone : v ∉ (r.drop v.identifier).list := by
    rw [mem_list_iff, get?_drop, if_pos rfl]
    exact nofun
  refine List.Perm.trans ?_ (List.perm_append_singleton v _).symm
  refine (List.perm_ext_iff_of_nodup r.nodup_list
    (List.nodup_cons.mpr ⟨hgone, nodup_list _⟩)).mpr fun w => ?_
  rw [List.mem_cons, mem_list_iff, mem_list_iff, get?_drop]
  by_cases hname : w.identifier = v.identifier
  · rw [if_pos hname, hname, h, Option.some.injEq]
    simp [eq_comm]
  · rw [if_neg hname]
    constructor
    · exact Or.inr
    · rintro (rfl | hw)
      · exact absurd rfl hname
      · exact hw

theorem drop_put (r : Registry) (v : Validator) :
    (r.put v).drop v.identifier = r.drop v.identifier := by
  refine ext_get? rfl fun key => ?_
  rw [get?_drop, get?_drop, get?_put]
  split
  · rfl
  · rfl

theorem drop_of_get?_eq_none {identifier : String}
    (h : r.validators.get? identifier = none) : r.drop identifier = r := by
  refine ext_get? rfl fun key => ?_
  rw [get?_drop]
  split
  · rename_i hkey
    rw [hkey, h]
  · rfl

/-- **Any one validator may be counted last.** -/
theorem tally_of_get? (h : r.validators.get? v.identifier = some v) (now : Time) :
    r.tally now =
      Tally.count now r.terms.activityWindow ((r.drop v.identifier).tally now) v := by
  rw [tally, Tally.foldl_count_of_perm (list_perm_of_get? h), List.foldl_append]
  rfl

/-- So may the one that was put in last. -/
theorem tally_put (r : Registry) (v : Validator) (now : Time) :
    (r.put v).tally now =
      Tally.count now r.terms.activityWindow ((r.drop v.identifier).tally now) v := by
  have hv : (r.put v).validators.get? v.identifier = some v := by rw [get?_put, if_pos rfl]
  rw [tally_of_get? hv, drop_put, terms_put]

end Registry

end StakeChain
