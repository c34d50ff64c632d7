import Mathlib.Data.List.DropRight
import Paymap.Shared.Money

set_option autoImplicit false

/-! # Amounts on the review screen

`formatAmount` of `apps/web/src/lib/format.ts` trims what `baseUnitsToDecimalString` writes: the zeros at the
end, when there is a dot, and then the dot if it has come to the end. The number stays what it was, and with
this every conversion of an amount is known: what is accepted and what it becomes, what is written and that
it is read back.
-/

namespace Paymap.Web

open Shared (MoneyConversionError IsDigits IsDecimal IsCanonical decimalToBaseUnits decimalValue
  baseUnitsToDecimalString wholePart fractionalPart)

/-! ## The code -/

/-- `.replace(/0+$/, "")`. -/
def trimZeros (s : List Char) : List Char := s.rdropWhile (· = '0')

/-- `.replace(/\.$/, "")`. -/
def trimDot (s : List Char) : List Char := if s.getLast? = some '.' then s.dropLast else s

def formatAmount (amount decimals : ℤ) : Except MoneyConversionError String := do
  let full ← baseUnitsToDecimalString amount decimals
  if '.' ∉ full.toList then return full
  let trimmed := trimDot (trimZeros full.toList)
  return if trimmed = [] then "0" else String.ofList trimmed

/-! ## What is trimmed -/

section

variable {w f : List Char}

/-- The zeros end at the dot, if they come that far. -/
theorem trimZeros_dot (w f : List Char) : trimZeros (w ++ '.' :: f) = w ++ '.' :: trimZeros f := by
  unfold trimZeros
  induction f using List.reverseRecOn with
  | nil => exact List.rdropWhile_concat_neg _ _ _ (by decide)
  | append_singleton f c ih =>
      have hsnoc : w ++ '.' :: (f ++ [c]) = (w ++ '.' :: f) ++ [c] := by simp
      by_cases hzero : c = '0'
      · rw [hsnoc, List.rdropWhile_concat_pos _ _ _ (by simpa using hzero),
          List.rdropWhile_concat_pos _ _ _ (by simpa using hzero), ih]
      · rw [hsnoc, List.rdropWhile_concat_neg _ _ _ (by simpa using hzero),
          List.rdropWhile_concat_neg _ _ _ (by simpa using hzero)]
        simp

/-- Only zeros are dropped. -/
theorem trimZeros_append_replicate (f : List Char) :
    f = trimZeros f ++ List.replicate (f.rtakeWhile (· = '0')).length '0' := by
  have hzeros : f.rtakeWhile (· = '0') = List.replicate (f.rtakeWhile (· = '0')).length '0' :=
    List.eq_replicate_of_mem fun c hc => by simpa using List.mem_rtakeWhile_imp hc
  calc f = f.rdropWhile (· = '0') ++ f.rtakeWhile (· = '0') := List.rdropWhile_append_rtakeWhile.symm
    _ = trimZeros f ++ List.replicate (f.rtakeWhile (· = '0')).length '0' := by rw [← hzeros, trimZeros]

/-- The value of a literal with a dot. -/
theorem decimalValue_dot (hw : IsDigits w) :
    decimalValue (String.ofList (w ++ '.' :: f)) = Nat.ofDigitChars 10 (w ++ f) 0 / 10 ^ f.length := by
  rw [decimalValue, String.toList_ofList, Shared.wholePart_dot hw.dot_notMem,
    Shared.fractionalPart_dot hw.dot_notMem]

theorem decimalValue_digits (hw : IsDigits w) :
    decimalValue (String.ofList w) = Nat.ofDigitChars 10 w 0 := by
  rw [decimalValue, String.toList_ofList, Shared.wholePart_of_no_dot hw.dot_notMem,
    Shared.fractionalPart_of_no_dot hw.dot_notMem]
  simp

/-- A zero at the end of a fraction makes no difference. -/
theorem decimalValue_append_replicate (hw : IsDigits w) (k : ℕ) :
    decimalValue (String.ofList (w ++ '.' :: (f ++ List.replicate k '0')))
      = decimalValue (String.ofList (w ++ '.' :: f)) := by
  rw [decimalValue_dot hw, decimalValue_dot hw, ← List.append_assoc, Nat.ofDigitChars_append,
    Nat.ofDigitChars_replicate_zero, List.length_append, List.length_replicate, pow_add]
  push_cast
  field_simp

/-- **Trimming keeps the number**, and the literal is one that is accepted. -/
theorem decimalValue_trimmed (hw : IsDigits w) (hf : IsDigits f) :
    IsDecimal (trimDot (trimZeros (w ++ '.' :: f))) ∧
      decimalValue (String.ofList (trimDot (trimZeros (w ++ '.' :: f))))
        = decimalValue (String.ofList (w ++ '.' :: f)) := by
  have hsplit := trimZeros_append_replicate f
  have hvalue : decimalValue (String.ofList (w ++ '.' :: f))
      = decimalValue (String.ofList (w ++ '.' :: trimZeros f)) := by
    conv_lhs => rw [hsplit]
    exact decimalValue_append_replicate hw _
  rw [trimZeros_dot, hvalue]
  by_cases hnone : trimZeros f = []
  · -- nothing is left after the dot
    rw [hnone]
    have htrim : trimDot (w ++ ['.']) = w := by simp [trimDot]
    rw [htrim]
    refine ⟨Shared.isDecimal_iff.mpr (.inl hw), ?_⟩
    rw [decimalValue_digits hw, decimalValue_dot hw]
    simp
  · have hdigits : IsDigits (trimZeros f) :=
      ⟨hnone, fun c hc => hf.2 c (by rw [hsplit]; exact List.mem_append_left _ hc)⟩
    have hkept : trimDot (w ++ '.' :: trimZeros f) = w ++ '.' :: trimZeros f := by
      unfold trimDot
      rw [if_neg]
      intro hlast
      have hmem : '.' ∈ trimZeros f := by
        rw [List.getLast?_append, List.getLast?_cons, List.getLast?_eq_getLast_of_ne_nil hnone] at hlast
        simp only [Option.getD_some, Option.some_or, Option.some.injEq] at hlast
        rw [← hlast]
        exact List.getLast_mem hnone
      exact hdigits.dot_notMem hmem
    rw [hkept]
    exact ⟨Shared.isDecimal_iff.mpr (.inr ⟨w, _, rfl, hw, hdigits⟩), rfl⟩

end

/-- **The screen shows the amount**, in a literal that denotes it exactly. -/
theorem formatAmount_exact (n d : ℕ) : ∃ shown, formatAmount n d = .ok shown ∧
    IsDecimal shown.toList ∧ decimalValue shown = (n : ℚ) / 10 ^ d := by
  obtain ⟨s, hwritten, hcanonical, hn⟩ := Shared.baseUnitsToDecimalString_canonical n d
  have hvalue := hcanonical.decimalValue_eq hn
  unfold formatAmount
  rw [hwritten]
  by_cases hdot : '.' ∈ s
  · rcases Shared.isDecimal_iff.mp hcanonical.decimal with hdigits | ⟨w, f, rfl, hw, hf⟩
    · exact absurd hdot hdigits.dot_notMem
    · obtain ⟨hdecimal, hsame⟩ := decimalValue_trimmed hw hf
      have hne : trimDot (trimZeros (w ++ '.' :: f)) ≠ [] := by
        intro hnil
        rw [hnil] at hdecimal
        exact hdecimal.1.1 rfl
      refine ⟨String.ofList (trimDot (trimZeros (w ++ '.' :: f))), ?_, ?_, hsame.trans hvalue⟩
      · simp [bind, Except.bind, hdot, hne, pure, Except.pure]
      · rwa [String.toList_ofList]
  · refine ⟨String.ofList s, ?_, ?_, hvalue⟩
    · simp [bind, Except.bind, hdot, pure, Except.pure]
    · rw [String.toList_ofList]
      exact hcanonical.decimal

/-! ## All conversions -/

/-- Digits, and after them, if anything, one dot and one to `decimals` digits. -/
def IsAmount (decimals : ℕ) (s : List Char) : Prop :=
  IsDigits s ∨ ∃ w f, s = w ++ '.' :: f ∧ IsDigits w ∧ IsDigits f ∧ f.length ≤ decimals

theorem isAmount_iff {d : ℕ} {s : List Char} :
    IsAmount d s ↔ IsDecimal s ∧ (fractionalPart s).length ≤ d := by
  rw [Shared.isDecimal_iff]
  constructor
  · rintro (hdigits | ⟨w, f, rfl, hw, hf, hlen⟩)
    · rw [Shared.fractionalPart_of_no_dot hdigits.dot_notMem]
      exact ⟨.inl hdigits, Nat.zero_le _⟩
    · rw [Shared.fractionalPart_dot hw.dot_notMem]
      exact ⟨.inr ⟨w, f, rfl, hw, hf⟩, hlen⟩
  · rintro ⟨hdigits | ⟨w, f, rfl, hw, hf⟩, hlen⟩
    · exact .inl hdigits
    · rw [Shared.fractionalPart_dot hw.dot_notMem] at hlen
      exact .inr ⟨w, f, rfl, hw, hf, hlen⟩

/-- **Money conversion is exact and invertible.** A string is converted exactly when it is an amount, to the
number it denotes times ten to the decimals; what is written is read back; an accepted string is written
again in the canonical way, as the same number; and the review screen shows that number. -/
theorem money_conversion_exact :
    (∀ (decimal : String) (d : ℕ),
      ((∃ n, decimalToBaseUnits decimal d = .ok n) ↔ IsAmount d decimal.toList) ∧
      ∀ n, decimalToBaseUnits decimal d = .ok n → (n : ℚ) = decimalValue decimal * 10 ^ d) ∧
    (∀ n d : ℕ, ∃ decimal, baseUnitsToDecimalString n d = .ok decimal ∧
      decimalToBaseUnits decimal d = .ok n) ∧
    (∀ (decimal : String) (d : ℕ) n, decimalToBaseUnits decimal d = .ok n →
      ∃ written, baseUnitsToDecimalString n d = .ok written ∧ IsCanonical d written.toList ∧
        decimalValue written = decimalValue decimal) ∧
    (∀ n d : ℕ, ∃ shown, formatAmount n d = .ok shown ∧ IsDecimal shown.toList ∧
      decimalValue shown = (n : ℚ) / 10 ^ d) := by
  refine ⟨fun decimal d => ⟨⟨?_, fun hamount => ?_⟩, fun n hn => ?_⟩, fun n d => ?_, fun decimal d n hn => ?_,
    formatAmount_exact⟩
  · rintro ⟨n, hn⟩
    obtain ⟨-, hdecimal, hlen, -⟩ := Shared.decimalToBaseUnits_ok.mp hn
    exact isAmount_iff.mpr ⟨hdecimal, by omega⟩
  · obtain ⟨hdecimal, hlen⟩ := isAmount_iff.mp hamount
    obtain ⟨n, hn⟩ := Shared.exists_decimalToBaseUnits hdecimal hlen
    exact ⟨n, hn⟩
  · exact (Shared.decimalToBaseUnits_ok.mp hn).2.2.2
  · exact Shared.decimalToBaseUnits_baseUnitsToDecimalString (by omega) (by omega)
  · obtain ⟨m, rfl⟩ := Int.eq_ofNat_of_zero_le (Shared.nonneg_of_decimalToBaseUnits hn)
    obtain ⟨-, -, -, hvalue⟩ := Shared.decimalToBaseUnits_ok.mp hn
    obtain ⟨s, hwritten, hcanonical, hm⟩ := Shared.baseUnitsToDecimalString_canonical m d
    refine ⟨String.ofList s, hwritten, by rwa [String.toList_ofList], ?_⟩
    rw [hcanonical.decimalValue_eq hm, div_eq_iff (by positivity)]
    exact_mod_cast hvalue

end Paymap.Web
