import Paymap.Lib.Tx
import Mathlib.Algebra.Order.Field.Rat
import Mathlib.Data.List.TakeWhile
import Mathlib.Tactic.FieldSimp
import Mathlib.Tactic.Positivity

set_option autoImplicit false

/-! # Amounts as decimal strings and in base units

`packages/shared/src/money.ts`, the one place where the two are converted. `decimalToBaseUnits` reads
a decimal literal exactly: its result is the number the literal denotes, times ten to the asset's
decimals, and a literal with more fractional digits than that is refused. `baseUnitsToDecimalString`
is read back as what was written.

A decimal is a string of ASCII digits with at most one dot, so its characters are Lean's.
-/

namespace Paymap.Shared

open Tx (rejectIf)

structure MoneyConversionError where
  message : String
deriving DecidableEq, Repr

/-! ## Decimal literals -/

/-- `\d+`. -/
def IsDigits (s : List Char) : Prop := s ≠ [] ∧ ∀ c ∈ s, c.isDigit

instance (s : List Char) : Decidable (IsDigits s) :=
  decidable_of_iff (s ≠ [] ∧ s.all Char.isDigit) (by rw [IsDigits, List.all_eq_true])

/-- Up to the first dot, or all of it. -/
def wholePart (s : List Char) : List Char := s.takeWhile (· ≠ '.')

/-- After the first dot, or nothing. -/
def fractionalPart (s : List Char) : List Char := (s.dropWhile (· ≠ '.')).tail

/-- `DECIMAL_STRING_PATTERN`, which is `^\d+(\.\d+)?$`. -/
def IsDecimal (s : List Char) : Prop :=
  IsDigits (wholePart s) ∧ ('.' ∈ s → IsDigits (fractionalPart s))

instance (s : List Char) : Decidable (IsDecimal s) := inferInstanceAs (Decidable (_ ∧ (_ → _)))

theorem IsDigits.dot_notMem {s : List Char} (h : IsDigits s) : '.' ∉ s := fun hdot =>
  absurd (h.2 '.' hdot) (by decide)

section

variable {s w f : List Char}

/-- Every character of `w` is before the first dot. -/
theorem before_dot (h : '.' ∉ w) : ∀ c ∈ w, decide (c ≠ '.') = true := by
  intro c hc
  rw [decide_eq_true_iff]
  rintro rfl
  exact h hc

theorem wholePart_of_no_dot (h : '.' ∉ s) : wholePart s = s :=
  List.takeWhile_eq_self_iff.mpr (before_dot h)

theorem fractionalPart_of_no_dot (h : '.' ∉ s) : fractionalPart s = [] := by
  have hdrop : s.dropWhile (· ≠ '.') = [] := List.dropWhile_eq_nil_iff.mpr (before_dot h)
  rw [fractionalPart, hdrop]
  rfl

theorem wholePart_dot (h : '.' ∉ w) : wholePart (w ++ '.' :: f) = w := by
  rw [wholePart, List.takeWhile_append_of_pos (before_dot h)]
  simp

theorem fractionalPart_dot (h : '.' ∉ w) : fractionalPart (w ++ '.' :: f) = f := by
  rw [fractionalPart, List.dropWhile_append_of_pos (before_dot h)]
  simp

/-- The language of the pattern. -/
theorem isDecimal_iff :
    IsDecimal s ↔ IsDigits s ∨ ∃ w f, s = w ++ '.' :: f ∧ IsDigits w ∧ IsDigits f := by
  constructor
  · rintro ⟨hwhole, hfraction⟩
    by_cases hdot : '.' ∈ s
    · obtain ⟨w, f, rfl, hw⟩ := List.eq_append_cons_of_mem hdot
      rw [wholePart_dot hw] at hwhole
      have hf := hfraction hdot
      rw [fractionalPart_dot hw] at hf
      exact .inr ⟨w, f, rfl, hwhole, hf⟩
    · rw [wholePart_of_no_dot hdot] at hwhole
      exact .inl hwhole
  · rintro (h | ⟨w, f, rfl, hw, hf⟩)
    · exact ⟨by rwa [wholePart_of_no_dot h.dot_notMem], fun hdot => absurd hdot h.dot_notMem⟩
    · rw [IsDecimal, wholePart_dot hw.dot_notMem, fractionalPart_dot hw.dot_notMem]
      exact ⟨hw, fun _ => hf⟩

end

/-- The number that a decimal literal denotes. -/
def decimalValue (decimal : String) : ℚ :=
  Nat.ofDigitChars 10 (wholePart decimal.toList ++ fractionalPart decimal.toList) 0
    / 10 ^ (fractionalPart decimal.toList).length

/-! ## The conversions -/

def assertValidDecimals (decimals : ℤ) : Except MoneyConversionError Unit :=
  rejectIf (decimals < 0)
    ⟨"decimals must be a non-negative integer, got " ++ toString decimals⟩

def decimalToBaseUnits (decimal : String) (decimals : ℤ) : Except MoneyConversionError ℤ := do
  assertValidDecimals decimals
  rejectIf (¬ IsDecimal decimal.toList)
    ⟨"\"" ++ decimal ++ "\" is not a valid non-negative decimal amount " ++
      "(expected digits, optionally one \".\" and more digits)"⟩
  let whole := wholePart decimal.toList
  let fractional := fractionalPart decimal.toList
  rejectIf (fractional.length > decimals)
    ⟨"\"" ++ decimal ++ "\" has " ++ toString fractional.length ++
      " fractional digits, but this asset supports only " ++ toString decimals⟩
  return Nat.ofDigitChars 10 (whole ++ fractional.rightpad decimals.toNat '0') 0

def baseUnitsToDecimalString (amount decimals : ℤ) : Except MoneyConversionError String := do
  assertValidDecimals decimals
  rejectIf (amount < 0) ⟨"amount must be non-negative, got " ++ toString amount⟩
  let digits := (Nat.toDigits 10 amount.toNat).leftpad (decimals.toNat + 1) '0'
  if decimals = 0 then return String.ofList digits
  let whole := digits.take (digits.length - decimals.toNat)
  let fractional := digits.drop (digits.length - decimals.toNat)
  return String.ofList (whole ++ '.' :: fractional)

def decimalToPositiveBaseUnits (decimal : String) (decimals : ℤ) :
    Except MoneyConversionError ℤ := do
  let amount ← decimalToBaseUnits decimal decimals
  rejectIf (amount ≤ 0) ⟨"amount must be positive, got \"" ++ decimal ++ "\""⟩
  return amount

/-! ## What they compute -/

/-- Padding a fraction scales the number up. -/
theorem ofDigitChars_rightpad (w f : List Char) (n : ℕ) :
    Nat.ofDigitChars 10 (w ++ f.rightpad n '0') 0
      = 10 ^ (n - f.length) * Nat.ofDigitChars 10 (w ++ f) 0 := by
  rw [List.rightpad, ← List.append_assoc, Nat.ofDigitChars_append, Nat.ofDigitChars_replicate_zero]

/-- The number of a literal, scaled up by at least as many digits as its fraction has. -/
theorem decimalValue_mul_pow {decimal : String} {d : ℕ}
    (hlen : (fractionalPart decimal.toList).length ≤ d) :
    ((10 ^ (d - (fractionalPart decimal.toList).length) *
      Nat.ofDigitChars 10 (wholePart decimal.toList ++ fractionalPart decimal.toList) 0 : ℕ) : ℚ)
      = decimalValue decimal * 10 ^ d := by
  rw [decimalValue, ← Nat.sub_add_cancel hlen, pow_add, Nat.sub_add_cancel hlen]
  push_cast
  field_simp

/-- **A literal is read exactly.** -/
theorem decimalToBaseUnits_ok {decimal : String} {decimals n : ℤ} :
    decimalToBaseUnits decimal decimals = .ok n ↔
      0 ≤ decimals ∧ IsDecimal decimal.toList ∧
      (fractionalPart decimal.toList).length ≤ decimals ∧
      (n : ℚ) = decimalValue decimal * 10 ^ decimals.toNat := by
  simp only [decimalToBaseUnits, assertValidDecimals, Tx.bind_ok, Tx.rejectIf_ok, not_not, not_lt,
    exists_and_left, exists_const, pure, Except.pure, Except.ok.injEq]
  refine and_congr_right fun hdecimals => and_congr_right fun _ => and_congr_right fun hlen => ?_
  have hle : (fractionalPart decimal.toList).length ≤ decimals.toNat := by omega
  rw [ofDigitChars_rightpad, ← decimalValue_mul_pow hle]
  constructor
  · rintro rfl
    push_cast
    rfl
  · intro h
    exact_mod_cast h.symm

theorem nonneg_of_decimalToBaseUnits {decimal : String} {decimals n : ℤ}
    (h : decimalToBaseUnits decimal decimals = .ok n) : 0 ≤ n := by
  have hvalue := (decimalToBaseUnits_ok.mp h).2.2.2
  have hnonneg : (0 : ℚ) ≤ n := by
    rw [hvalue, decimalValue]
    positivity
  exact_mod_cast hnonneg

/-- What is accepted. -/
theorem exists_decimalToBaseUnits {decimal : String} {d : ℕ} (hdecimal : IsDecimal decimal.toList)
    (hlen : (fractionalPart decimal.toList).length ≤ d) :
    ∃ n : ℕ, decimalToBaseUnits decimal d = .ok n :=
  ⟨_, decimalToBaseUnits_ok.mpr
    ⟨Int.natCast_nonneg d, hdecimal, by exact_mod_cast hlen, decimalValue_mul_pow hlen⟩⟩

theorem decimalToPositiveBaseUnits_ok {decimal : String} {decimals n : ℤ} :
    decimalToPositiveBaseUnits decimal decimals = .ok n ↔
      decimalToBaseUnits decimal decimals = .ok n ∧ 0 < n := by
  unfold decimalToPositiveBaseUnits
  rw [Tx.bind_ok]
  constructor
  · rintro ⟨amount, hamount, h⟩
    obtain ⟨u, hpos, hret⟩ := Tx.bind_ok.mp h
    cases hret
    exact ⟨hamount, not_le.mp (Tx.rejectIf_ok.mp hpos)⟩
  · rintro ⟨hamount, hpos⟩
    exact ⟨n, hamount, Tx.bind_ok.mpr ⟨(), Tx.rejectIf_ok.mpr (not_le.mpr hpos), rfl⟩⟩

/-! ## The round trip -/

/-- The digits `baseUnitsToDecimalString` writes, with its dot left out. -/
def paddedDigits (n decimals : ℕ) : List Char := (Nat.toDigits 10 n).leftpad (decimals + 1) '0'

theorem lt_length_paddedDigits (n decimals : ℕ) : decimals < (paddedDigits n decimals).length := by
  rw [paddedDigits, List.length_leftpad]
  omega

theorem isDigit_of_mem_paddedDigits {n decimals : ℕ} {c : Char} (h : c ∈ paddedDigits n decimals) :
    c.isDigit := by
  rcases List.mem_append.mp h with h | h
  · rw [List.eq_of_mem_replicate h]
    decide
  · exact Nat.isDigit_of_mem_toDigits (by omega) (by omega) h

theorem ofDigitChars_paddedDigits (n decimals : ℕ) :
    Nat.ofDigitChars 10 (paddedDigits n decimals) 0 = n := by
  rw [paddedDigits, List.leftpad, Nat.ofDigitChars_append, Nat.ofDigitChars_replicate_zero, mul_zero,
    Nat.ofDigitChars_ten_toDigits]

/-- A literal with exactly the asset's decimals is read digit by digit. -/
theorem decimalToBaseUnits_of_digits {s : List Char} {n decimals : ℕ} (hs : IsDecimal s)
    (hlen : (fractionalPart s).length = decimals)
    (hn : Nat.ofDigitChars 10 (wholePart s ++ fractionalPart s) 0 = n) :
    decimalToBaseUnits (String.ofList s) decimals = .ok n := by
  refine decimalToBaseUnits_ok.mpr ⟨by omega, ?_, ?_, ?_⟩
  · rwa [String.toList_ofList]
  · rw [String.toList_ofList, hlen]
  · rw [decimalValue, String.toList_ofList, hn, hlen, Int.toNat_natCast]
    field_simp
    push_cast
    rfl

/-- Full precision, and no superfluous leading zero. -/
structure IsCanonical (decimals : ℕ) (s : List Char) : Prop where
  decimal : IsDecimal s
  precision : (fractionalPart s).length = decimals
  leading : wholePart s = ['0'] ∨ (wholePart s).head? ≠ some '0'

/-- The numeral of a positive number does not begin with a zero. -/
theorem head?_toDigits {n : ℕ} (hn : 0 < n) : (Nat.toDigits 10 n).head? ≠ some '0' := by
  induction n using Nat.strong_induction_on with
  | _ n ih =>
      by_cases hlt : n < 10
      · have hdigit : ∀ m < 10, 0 < m → [m.digitChar].head? ≠ some '0' := by decide
        rw [Nat.toDigits_of_lt_base hlt]
        exact hdigit n hlt hn
      · have hpos : 0 < n / 10 := Nat.div_pos (not_lt.mp hlt) (by omega)
        have hrest := ih (n / 10) (by omega) hpos
        rw [Nat.toDigits_of_base_le (by omega) (not_lt.mp hlt),
          List.head?_append_of_ne_nil _ Nat.toDigits_ne_nil]
        exact hrest

/-- Before the dot there is one zero, or the beginning of the numeral. -/
theorem head?_paddedDigits (n d : ℕ) :
    (paddedDigits n d).take ((paddedDigits n d).length - d) = ['0'] ∨
      ((paddedDigits n d).take ((paddedDigits n d).length - d)).head? ≠ some '0' := by
  have hlength := lt_length_paddedDigits n d
  by_cases hshort : (Nat.toDigits 10 n).length ≤ d
  · -- the numeral is padded, to one digit more than the fraction has
    left
    have hpadded : (paddedDigits n d).length - d = 1 := by
      rw [paddedDigits, List.length_leftpad]
      omega
    have hzeros : d + 1 - (Nat.toDigits 10 n).length = d - (Nat.toDigits 10 n).length + 1 := by omega
    rw [hpadded, paddedDigits, List.leftpad, hzeros, List.replicate_succ]
    rfl
  · have hall : paddedDigits n d = Nat.toDigits 10 n := by
      rw [paddedDigits, List.leftpad, Nat.sub_eq_zero_of_le (by omega)]
      rfl
    have hne : (paddedDigits n d).length - d ≠ 0 := by omega
    rw [List.head?_take, if_neg hne, hall]
    rcases Nat.eq_zero_or_pos n with rfl | hpos
    · left
      have hd : d = 0 := by
        rw [Nat.toDigits_zero, List.length_singleton] at hshort
        omega
      subst hd
      rfl
    · exact .inr (head?_toDigits hpos)

/-- **What is written is canonical**, and its digits are the amount. -/
theorem baseUnitsToDecimalString_canonical (n d : ℕ) :
    ∃ s, baseUnitsToDecimalString n d = .ok (String.ofList s) ∧ IsCanonical d s ∧
      Nat.ofDigitChars 10 (wholePart s ++ fractionalPart s) 0 = n := by
  have hlength := lt_length_paddedDigits n d
  have hvalue := ofDigitChars_paddedDigits n d
  have hleading := head?_paddedDigits n d
  have hdigits : ∀ {s : List Char}, s ≠ [] → s ⊆ paddedDigits n d → IsDigits s := fun hne hsub =>
    ⟨hne, fun c hc => isDigit_of_mem_paddedDigits (hsub hc)⟩
  by_cases hzero : d = 0
  · subst hzero
    have hall : IsDigits (paddedDigits n 0) :=
      hdigits (List.ne_nil_of_length_pos hlength) (List.Subset.refl _)
    have hwhole := wholePart_of_no_dot hall.dot_notMem
    have hnone := fractionalPart_of_no_dot hall.dot_notMem
    refine ⟨paddedDigits n 0, rfl, ⟨isDecimal_iff.mpr (.inl hall), ?_, ?_⟩, ?_⟩
    · rw [hnone]
      rfl
    · rw [Nat.sub_zero, List.take_length] at hleading
      rw [hwhole]
      exact hleading
    · rw [hwhole, hnone, List.append_nil, hvalue]
  · -- the dot goes before the last `d` digits, of which there are more than `d`
    let k := (paddedDigits n d).length - d
    have hwhole : IsDigits ((paddedDigits n d).take k) :=
      hdigits (List.ne_nil_of_length_pos (by rw [List.length_take]; omega)) (List.take_subset _ _)
    have hfraction : IsDigits ((paddedDigits n d).drop k) :=
      hdigits (List.ne_nil_of_length_pos (by rw [List.length_drop]; omega)) (List.drop_subset _ _)
    refine ⟨(paddedDigits n d).take k ++ '.' :: (paddedDigits n d).drop k, ?_, ⟨?_, ?_, ?_⟩, ?_⟩
    · have hne : (d : ℤ) ≠ 0 := by omega
      show (if (d : ℤ) = 0 then _ else _) = _
      rw [if_neg hne]
      rfl
    · exact isDecimal_iff.mpr (.inr ⟨_, _, rfl, hwhole, hfraction⟩)
    · rw [fractionalPart_dot hwhole.dot_notMem, List.length_drop]
      omega
    · rw [wholePart_dot hwhole.dot_notMem]
      exact hleading
    · rw [wholePart_dot hwhole.dot_notMem, fractionalPart_dot hwhole.dot_notMem,
        List.take_append_drop, hvalue]

/-- **What is written is read back.** -/
theorem decimalToBaseUnits_baseUnitsToDecimalString {amount decimals : ℤ} (hamount : 0 ≤ amount)
    (hdecimals : 0 ≤ decimals) :
    ∃ decimal, baseUnitsToDecimalString amount decimals = .ok decimal ∧
      decimalToBaseUnits decimal decimals = .ok amount := by
  obtain ⟨n, rfl⟩ := Int.eq_ofNat_of_zero_le hamount
  obtain ⟨d, rfl⟩ := Int.eq_ofNat_of_zero_le hdecimals
  obtain ⟨s, hwritten, hcanonical, hn⟩ := baseUnitsToDecimalString_canonical n d
  exact ⟨_, hwritten, decimalToBaseUnits_of_digits hcanonical.decimal hcanonical.precision hn⟩

/-- A canonical literal denotes the number its digits make, scaled down. -/
theorem IsCanonical.decimalValue_eq {s : List Char} {n d : ℕ} (h : IsCanonical d s)
    (hn : Nat.ofDigitChars 10 (wholePart s ++ fractionalPart s) 0 = n) :
    decimalValue (String.ofList s) = n / 10 ^ d := by
  rw [decimalValue, String.toList_ofList, hn, h.precision]

end Paymap.Shared
