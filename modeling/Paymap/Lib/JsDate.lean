import Paymap.Lib.Js

set_option autoImplicit false

/-! # Dates of ECMAScript

A `Date` holds a number of milliseconds since the epoch, and is invalid when the number it is made from is
not one or is too far away. `dateOfSeconds` is `new Date(Number(t) * 1000)` of a `bigint` of seconds; it is
valid up to the last second of a range that ends long before the `bigint`s of 64 bits do.
-/

namespace Js

namespace Number

/-- `a * b`. -/
def mul : Number → Number → Number
  | finite a, finite b => round (a * b)
  | finite a, infinity negative => if a = 0 then nan else infinity (negative ^^ decide (a < 0))
  | infinity negative, finite a => if a = 0 then nan else infinity (negative ^^ decide (a < 0))
  | infinity negative, infinity negative' => infinity (negative ^^ negative')
  | _, _ => nan

end Number

/-- `TimeClip`: the milliseconds of a date, or none when it is invalid. -/
def timeClip : Number → Option ℤ
  | .finite value =>
      if |value| ≤ 8640000000000000 then
        some (if value < 0 then ⌈value⌉ else ⌊value⌋)
      else none
  | _ => none

/-- `new Date(Number(seconds) * 1000)`. -/
def dateOfSeconds (seconds : ℤ) : Option ℤ :=
  timeClip ((Number.round seconds).mul (.finite 1000))

/-- The last second of which there is a date. -/
def lastSecond : ℕ := 8640000000000

namespace Number

/-- From `2 ^ 53` on a value is not rounded below that. -/
theorem le_of_roundPositive {q v : ℚ} (hq : 2 ^ 53 ≤ q) (h : roundPositive q = finite v) : 2 ^ 53 ≤ v := by
  have hpos : 0 < q := lt_of_lt_of_le (by positivity) hq
  have hlog : 53 ≤ Int.log 2 q := by
    have hle : ((2 : ℕ) : ℚ) ^ (53 : ℤ) ≤ q := by exact_mod_cast hq
    exact (Int.zpow_le_iff_le_log (by omega) hpos).mp hle
  have hmax : max (Int.log 2 q - 52) (-1074) = Int.log 2 q - 52 := by omega
  have hulp : ulp q = 2 ^ (Int.log 2 q - 52) := by rw [ulp, hmax]
  have hunit : 0 < ulp q := by
    rw [hulp]
    exact zpow_pos (by norm_num) _
  -- there are at least `2 ^ 52` units
  have hpow : (2 : ℚ) ^ (52 : ℕ) * ulp q = 2 ^ Int.log 2 q := by
    rw [hulp, ← zpow_natCast, ← zpow_add₀ (by norm_num)]
    congr 1
    omega
  have hunits : (2 : ℚ) ^ (52 : ℕ) ≤ q / ulp q := by
    rw [le_div_iff₀ hunit, hpow]
    exact_mod_cast Int.zpow_log_le_self (b := 2) (by omega) hpos
  have hfloor : (2 : ℤ) ^ 52 ≤ ⌊q / ulp q⌋ := Int.le_floor.mpr (by exact_mod_cast hunits)
  have hround : (2 : ℤ) ^ 52 ≤ roundEven (q / ulp q) := by
    unfold roundEven
    split_ifs <;> omega
  unfold roundPositive at h
  split_ifs at h
  obtain rfl := finite.inj h
  calc (2 : ℚ) ^ 53 ≤ 2 ^ Int.log 2 q := by
        have hone : (1 : ℚ) ≤ 2 := by norm_num
        exact_mod_cast zpow_le_zpow_right₀ hone hlog
    _ = 2 ^ (52 : ℕ) * ulp q := hpow.symm
    _ ≤ roundEven (q / ulp q) * ulp q := by
        refine mul_le_mul_of_nonneg_right ?_ hunit.le
        exact_mod_cast hround

theorem le_of_round {q v : ℚ} (hq : 2 ^ 53 ≤ q) (h : round q = finite v) : 2 ^ 53 ≤ v := by
  unfold round at h
  rw [if_neg (not_lt.mpr (le_trans (by positivity) hq))] at h
  exact le_of_roundPositive hq h

end Number

theorem timeClip_natCast (n : ℕ) :
    timeClip (.finite n) = if n ≤ 8640000000000000 then some (n : ℤ) else none := by
  have hnonneg : ¬ ((n : ℚ) < 0) := not_lt.mpr (Nat.cast_nonneg n)
  have hle : |(n : ℚ)| ≤ 8640000000000000 ↔ n ≤ 8640000000000000 := by
    rw [abs_of_nonneg (Nat.cast_nonneg n)]
    exact_mod_cast Iff.rfl
  simp only [timeClip, hle, if_neg hnonneg, Int.floor_natCast]

/-- A number that stands for something so far away is no date. -/
theorem timeClip_round_none {q : ℚ} (hq : 2 ^ 53 ≤ q) : timeClip (Number.round q) = none := by
  cases hround : Number.round q with
  | nan => rfl
  | infinity negative => rfl
  | finite v =>
      have hv := Number.le_of_round hq hround
      refine if_neg (not_le.mpr ?_)
      calc (8640000000000000 : ℚ) < 2 ^ 53 := by norm_num
        _ ≤ v := hv
        _ ≤ |v| := le_abs_self v

/-- **Which seconds have a date**, and that it is the right one. -/
theorem dateOfSeconds_natCast (n : ℕ) :
    dateOfSeconds n = if n ≤ lastSecond then some (n * 1000 : ℤ) else none := by
  unfold dateOfSeconds lastSecond
  by_cases hexact : n < 2 ^ 53
  · -- the seconds are a number, and the product is rounded
    have hnumber : Number.round ((n : ℤ) : ℚ) = .finite n := by
      rw [Int.cast_natCast]
      exact isDouble_natCast hexact
    have hmul : (Number.round ((n : ℤ) : ℚ)).mul (.finite 1000) = Number.round ((n * 1000 : ℕ) : ℚ) := by
      rw [hnumber]
      push_cast
      rfl
    rw [hmul]
    by_cases hproduct : n * 1000 < 2 ^ 53
    · rw [isDouble_natCast hproduct, timeClip_natCast]
      have hiff : n * 1000 ≤ 8640000000000000 ↔ n ≤ 8640000000000 := by omega
      simp only [hiff]
      push_cast
      rfl
    · rw [if_neg (by omega)]
      exact timeClip_round_none (by exact_mod_cast not_lt.mp hproduct)
  · rw [if_neg (by omega)]
    have hlarge : (2 : ℚ) ^ 53 ≤ ((n : ℤ) : ℚ) := by exact_mod_cast not_lt.mp hexact
    cases hround : Number.round ((n : ℤ) : ℚ) with
    | nan => rfl
    | infinity negative =>
        simp [Number.mul, timeClip]
    | finite v =>
        have hv := Number.le_of_round hlarge hround
        refine timeClip_round_none ?_
        calc (2 : ℚ) ^ 53 ≤ v := hv
          _ ≤ v * 1000 := by linarith [show (0 : ℚ) ≤ v from le_trans (by positivity) hv]

/-! ## Dates as texts -/

/-- Year, month and day of the days since the epoch. The years are counted from March on, in eras of
`400`, so that the leap day is the last one of its year. -/
def civilDate (days : ℕ) : ℕ × ℕ × ℕ :=
  let shifted := days + 719468
  let dayOfEra := shifted % 146097
  let yearOfEra := (dayOfEra - dayOfEra / 1460 + dayOfEra / 36524 - dayOfEra / 146096) / 365
  let dayOfYear := dayOfEra - (365 * yearOfEra + yearOfEra / 4 - yearOfEra / 100)
  let month := (5 * dayOfYear + 2) / 153
  let year := shifted / 146097 * 400 + yearOfEra
  (if month < 10 then year else year + 1, if month < 10 then month + 3 else month - 9,
    dayOfYear - (153 * month + 2) / 5 + 1)

/-- The digits of a number, with zeros before them. -/
def padded (width n : ℕ) : Str :=
  List.replicate (width - (Nat.toDigits 10 n).length) '0' ++ Nat.toDigits 10 n

/-- `toISOString` of a date from the epoch on. -/
def isoText (ms : ℕ) : Str :=
  let (year, month, day) := civilDate (ms / 86400000)
  (if year ≤ 9999 then padded 4 year else '+' :: padded 6 year) ++
    '-' :: (padded 2 month ++ '-' :: (padded 2 day ++ 'T' :: (padded 2 (ms / 3600000 % 24) ++
    ':' :: (padded 2 (ms / 60000 % 60) ++ ':' :: (padded 2 (ms / 1000 % 60) ++
    '.' :: (padded 3 (ms % 1000) ++ ['Z']))))))

example : isoText 951827696789 = "2000-02-29T12:34:56.789Z".toList := by decide

end Js
