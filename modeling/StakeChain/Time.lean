/-
# Times

A time is a signed count of seconds since the epoch, in 64 bits, and so is a span of time.
Differences and sums stop at the ends of the range instead of wrapping.
-/

namespace StakeChain

/-- Seconds since the epoch, or a number of seconds. -/
abbrev Time := Int64

namespace Time

/-- The span from `start` to `now`, held within 64 bits. -/
def since (now start : Time) : Time := Int64.ofIntClamp (now.toInt - start.toInt)

/-- The time `span` after `start`, held within 64 bits. -/
def after (start span : Time) : Time := Int64.ofIntClamp (start.toInt + span.toInt)

/-- What clamping to 64 bits does to an integer. -/
theorem toInt_ofIntClamp (i : Int) :
    (Int64.ofIntClamp i).toInt =
      max Int64.minValue.toInt (min i Int64.maxValue.toInt) := by
  have hle : Int64.minValue.toInt ≤ Int64.maxValue.toInt := by decide
  unfold Int64.ofIntClamp
  split
  · split
    · rw [Int64.toInt_ofIntLE]; omega
    · omega
  · omega

theorem toInt_since (now start : Time) :
    (since now start).toInt =
      max Int64.minValue.toInt (min (now.toInt - start.toInt) Int64.maxValue.toInt) :=
  toInt_ofIntClamp _

@[simp] theorem since_self (now : Time) : since now now = 0 := by
  apply Int64.toInt_inj.mp
  rw [toInt_since, Int.sub_self]
  rfl

/-- A window short of the whole range is measured exactly: where a span is held, it is on the same
side of the window as before. -/
theorem since_le_iff {now start window : Time} (hwindow : window < Int64.maxValue) :
    since now start ≤ window ↔ now.toInt - start.toInt ≤ window.toInt := by
  have hmax : window.toInt < Int64.maxValue.toInt := Int64.lt_iff_toInt_lt.mp hwindow
  have hmin : Int64.minValue.toInt ≤ window.toInt := Int64.le_toInt window
  rw [Int64.le_iff_toInt_le, toInt_since]
  omega

/-- Less time has passed since a later start. -/
theorem since_le_since (now : Time) {start later : Time} (h : start ≤ later) :
    since now later ≤ since now start := by
  have hle := Int64.le_iff_toInt_le.mp h
  rw [Int64.le_iff_toInt_le, toInt_since, toInt_since]
  omega

theorem toInt_after (start span : Time) :
    (after start span).toInt =
      max Int64.minValue.toInt (min (start.toInt + span.toInt) Int64.maxValue.toInt) :=
  toInt_ofIntClamp _

/-- The later of two times. -/
theorem toInt_max (s t : Time) : (max s t).toInt = max s.toInt t.toInt := by
  show (if s ≤ t then t else s).toInt = max s.toInt t.toInt
  split
  · rename_i h
    exact (Int.max_eq_right (Int64.le_iff_toInt_le.mp h)).symm
  · rename_i h
    exact (Int.max_eq_left (Int.le_of_lt (Int.not_le.mp (mt Int64.le_iff_toInt_le.mpr h)))).symm

theorem le_max_right (s t : Time) : t ≤ max s t := by
  rw [Int64.le_iff_toInt_le, toInt_max]
  omega

@[simp] theorem max_self (t : Time) : max t t = t := by
  apply Int64.toInt_inj.mp
  rw [toInt_max, Int.max_self]

end Time

end StakeChain
