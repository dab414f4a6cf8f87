/-
# Amounts are shown in one way

However an amount was written, it is shown with its coins, a point and eight digits.  What is shown
is a text of the grammar that denotes the amount (`Amount.denotes_render`), so it is read back, and
two amounts that are shown alike are equal.  The same goes for the strings in JSON, which are shown
and read in the same way (`Amount.ofJson?_text_eq_some_iff`).

Main statement: `Amount.render_lossless_and_canonical`.
-/
import StakeChain.Proofs.Amount.Grammar

namespace StakeChain.Amount

/-! ## 1. What is shown -/

theorem digits?_padded (width n : Nat) : Text.digits? (padded width n) = some n := by
  have hne : Nat.toDigits 10 n ≠ [] := (Text.digits?_eq_some_iff.mp (Text.digits?_toDigits n)).1
  rw [padded, List.leftpad, Text.digits?_replicate_append hne, Text.digits?_toDigits]

theorem length_padded {width n : Nat} (hwidth : 0 < width) (h : n < 10 ^ width) :
    (padded width n).length = width := by
  have hle : (Nat.toDigits 10 n).length ≤ width :=
    (Nat.length_toDigits_le_iff (by decide) hwidth).mpr h
  rw [padded, List.length_leftpad]
  omega

/-- The digits that are shown on the two sides of the point make the amount. -/
theorem sides_render (a : Amount) :
    Sides (Nat.toDigits 10 (a.toNat / unitsPerCoin)) (padded decimals (a.toNat % unitsPerCoin))
      a.toNat := by
  obtain ⟨hsome, hwhole, hcoins⟩ :=
    Text.digits?_eq_some_iff.mp (Text.digits?_toDigits (a.toNat / unitsPerCoin))
  obtain ⟨-, hfraction, hrest⟩ :=
    Text.digits?_eq_some_iff.mp (digits?_padded decimals (a.toNat % unitsPerCoin))
  have hlength : (padded decimals (a.toNat % unitsPerCoin)).length = 8 :=
    length_padded (by decide) (Nat.mod_lt _ (by decide))
  refine ⟨hwhole, hfraction, fun hempty => hsome hempty.1, Nat.le_of_eq hlength, ?_⟩
  rw [value, value, hcoins, hrest, hlength, Nat.sub_self, Nat.pow_zero, Nat.mul_one]
  exact Nat.div_add_mod' a.toNat unitsPerCoin

theorem denotes_render (a : Amount) : Denotes a.render.toList a.toNat := by
  rw [render, String.toList_ofList]
  exact .point a.sides_render

/-! ## 2. Reading what is shown -/

theorem Denotes.written {s : String} {units : Nat} (h : Denotes s.toList units) :
    Written s units :=
  ⟨[], s.toList, [], by simp, h, nofun, nofun⟩

/-- **What is shown is read back.** -/
theorem parse_render (a : Amount) : parse a.render = .ok a :=
  parse_eq_ok_iff.mpr a.denotes_render.written

theorem render_inj {a b : Amount} : a.render = b.render ↔ a = b := by
  constructor
  · intro h
    have hread := a.parse_render
    rw [h, parse_render] at hread
    exact (Except.ok.inj hread).symm
  · exact congrArg render

/-- A string in JSON is read as its text is. -/
theorem ofJson?_text_eq_some_iff {s : String} {a : Amount} :
    ofJson? (.text s) = some a ↔ parse s = .ok a := by
  rw [parse_eq_ok_iff, ← ofChars?_eq_some_iff]
  rfl

/-- A text denotes at most one amount. -/
theorem Written.amount_unique {s : String} {a b : Amount} (ha : Written s a.toNat)
    (hb : Written s b.toNat) : a = b :=
  Except.ok.inj ((parse_eq_ok_iff.mpr ha).symm.trans (parse_eq_ok_iff.mpr hb))

/-- **Showing loses nothing, and it shows each amount in one way.**

* Every amount is read back from the text that shows it, and from its string in JSON.
* Take any text that is read, and the amount that it is read as.  A string in JSON with this text is
  read as the same amount.  What shows the amount is read as the amount, and it is also what shows
  any other text that is read, if and only if that one denotes the same amount.
* Two amounts are shown alike only if they are equal. -/
theorem render_lossless_and_canonical :
    (∀ units : UInt64, parse (render ⟨units⟩) = .ok ⟨units⟩ ∧
        ofJson? (toJson ⟨units⟩) = some ⟨units⟩) ∧
      (∀ (s : String) (a : Amount), parse s = .ok a →
        ofJson? (.text s) = some a ∧ parse a.render = .ok a ∧
          ∀ (other : String) (b : Amount), parse other = .ok b →
            (b.render = a.render ↔ Written other a.toNat)) ∧
      ∀ a b : Amount, a.render = b.render ↔ a = b := by
  refine ⟨fun units => ?_, fun s a hs => ?_, fun a b => render_inj⟩
  · exact ⟨parse_render _, ofJson?_text_eq_some_iff.mpr (parse_render _)⟩
  · refine ⟨ofJson?_text_eq_some_iff.mpr hs, parse_render a, fun other b hother => ?_⟩
    have hb := parse_eq_ok_iff.mp hother
    rw [render_inj]
    constructor
    · rintro rfl
      exact hb
    · exact hb.amount_unique

/-- Seven and a half coins, with a blank and a zero in front, and written in another way. -/
theorem render_lossless_and_canonical_of_seven_and_a_half :
    let a : Amount := ⟨750000000⟩
    parse " 07.5" = .ok a ∧ ofJson? (.text " 07.5") = some a ∧ a.render = "7.50000000" ∧
      parse "7.50000000" = .ok a ∧ parse "7.50" = .ok a ∧ Written "7.50" a.toNat := by
  intro a
  have hread : parse " 07.5" = .ok a := rfl
  have hother : parse "7.50" = .ok a := rfl
  have hshown : a.render = "7.50000000" := by decide +kernel
  obtain ⟨-, hreads, -⟩ := render_lossless_and_canonical
  obtain ⟨hjson, hback, hwritten⟩ := hreads " 07.5" a hread
  exact ⟨hread, hjson, hshown, hshown ▸ hback, hother, (hwritten "7.50" a hother).mp rfl⟩

end StakeChain.Amount
