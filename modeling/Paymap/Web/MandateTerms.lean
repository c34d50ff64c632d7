import Paymap.Api.Products
import Paymap.Client.Domain
import Mathlib.Tactic.Linarith

set_option autoImplicit false

/-! # The terms a payer is about to sign

`apps/web/src/lib/mandate-terms.ts`: the terms of a mandate from a product, the most that can ever be
collected under them, and the token allowance that the checkout asks for. A `bigint` is an integer
without bounds, and so is a `number` where only integers reach it.
-/

namespace Paymap.Web

open Registry (Address)
open Shared (MoneyConversionError decimalToBaseUnits)
open Tx (rejectIf)

/-! ## Products and terms -/

/-- `PublicProductSchema` of `lib/api.ts` takes a product as the API shows it. -/
abbrev PublicProduct := Api.ProductResponse

structure MandateTerms where
  assetAddress : Address
  assetDecimals : ℤ
  amountRule : Client.AmountRule
  maxPerPeriod : ℤ
  periodSeconds : ℤ
  minIntervalSeconds : ℤ
  /-- `0` is unlimited. -/
  maxSuccessfulCharges : ℤ
  startAt : ℤ
  expiresAt : ℤ

/-- What the functions of the module throw. -/
inductive TermsError where
  | error (message : String)
  | moneyConversion (e : MoneyConversionError)
deriving DecidableEq

/-! ## `deriveMandateTerms` -/

def requireAmount (value : Option String) (field : String) : Except TermsError String :=
  match value with
  | none => .error (.error ("expected product." ++ field ++ " to be set for this amountType"))
  | some value => .ok value

/-- `decimalToBaseUnits`, its errors among those of this module. -/
def toBaseUnits (decimal : String) (decimals : ℤ) : Except TermsError ℤ :=
  (decimalToBaseUnits decimal decimals).mapError .moneyConversion

def deriveAmountRule (product : PublicProduct) : Except TermsError Client.AmountRule :=
  match product.amountType with
  | .fixed => do
      let fixedAmount ← requireAmount product.fixedAmount "fixedAmount"
      return .fixed (← toBaseUnits fixedAmount product.assetDecimals)
  | .variableUpTo => do
      let maxPerCharge ← requireAmount product.maxPerCharge "maxPerCharge"
      return .variableUpTo (← toBaseUnits maxPerCharge product.assetDecimals)

def deriveMandateTerms (product : PublicProduct) (nowUnixSeconds : ℤ) :
    Except TermsError MandateTerms := do
  let amountRule ← deriveAmountRule product
  let maxPerPeriod ← toBaseUnits product.maxPerPeriod product.assetDecimals
  return {
    assetAddress := product.assetAddress
    assetDecimals := product.assetDecimals
    amountRule := amountRule
    maxPerPeriod := maxPerPeriod
    periodSeconds := product.periodSeconds
    minIntervalSeconds := product.minIntervalSeconds
    maxSuccessfulCharges := product.maxSuccessfulCharges
    startAt := nowUnixSeconds
    expiresAt := nowUnixSeconds + product.defaultDurationSeconds }

/-! ## Exposure and allowance -/

def ceilDiv (a b : ℤ) : Except TermsError ℤ := do
  rejectIf (b ≤ 0) (.error "ceilDiv: divisor must be positive")
  return (a + b - 1).tdiv b

def perChargeCeiling : Client.AmountRule → ℤ
  | .fixed amount => amount
  | .variableUpTo maxPerCharge => maxPerCharge

def computeMaxExposure (terms : MandateTerms) : Except TermsError ℤ := do
  let durationSeconds := terms.expiresAt - terms.startAt
  let periodsUntilExpiry ←
    if durationSeconds ≤ 0 then pure 1 else ceilDiv durationSeconds terms.periodSeconds
  let periodBound := terms.maxPerPeriod * periodsUntilExpiry
  if terms.maxSuccessfulCharges = 0 then return periodBound
  let chargeCountBound := perChargeCeiling terms.amountRule * terms.maxSuccessfulCharges
  return if chargeCountBound < periodBound then chargeCountBound else periodBound

/-- `ALLOWANCE_FEE_HEADROOM_BPS`. -/
def allowanceFeeHeadroomBps : ℤ := 100

structure BoundedAllowance where
  maxExposure : ℤ
  feeHeadroom : ℤ
  /-- What the `approve` transaction asks for. -/
  total : ℤ

def computeBoundedAllowance (maxExposure : ℤ) : Except TermsError BoundedAllowance := do
  rejectIf (maxExposure < 0) (.error "maxExposure must be non-negative")
  let feeHeadroom ← ceilDiv (maxExposure * allowanceFeeHeadroomBps) 10000
  return ⟨maxExposure, feeHeadroom, maxExposure + feeHeadroom⟩

/-! ## What they compute -/

theorem ceilDiv_eq {a b : ℤ} (ha : 0 ≤ a) (hb : 0 < b) :
    ceilDiv a b = .ok ((a + b - 1) / b) := by
  rw [← Int.tdiv_eq_ediv_of_nonneg (by omega), ceilDiv, rejectIf, if_neg (not_le.mpr hb)]
  rfl

/-- Division rounded up. -/
theorem ceilDiv_ok {a b q : ℤ} (ha : 0 ≤ a) :
    ceilDiv a b = .ok q ↔ 0 < b ∧ a ≤ q * b ∧ q * b < a + b := by
  by_cases hb : 0 < b
  · rw [ceilDiv_eq ha hb, Except.ok.injEq, Int.ediv_eq_iff_of_pos hb]
    constructor
    · rintro ⟨h₁, h₂⟩
      exact ⟨hb, by linarith, by linarith⟩
    · rintro ⟨-, h₁, h₂⟩
      exact ⟨by omega, by linarith⟩
  · have herror : ceilDiv a b = .error (.error "ceilDiv: divisor must be positive") := by
      rw [ceilDiv, rejectIf, if_pos (not_lt.mp hb)]
      rfl
    rw [herror]
    exact iff_of_false (by simp) fun h => hb h.1

theorem exists_ceilDiv {a b : ℤ} (ha : 0 ≤ a) (hb : 0 < b) : ∃ q, ceilDiv a b = .ok q :=
  ⟨_, ceilDiv_eq ha hb⟩

/-- The number of billing periods that begin before the mandate expires. -/
structure CoversPeriods (terms : MandateTerms) (periods : ℤ) : Prop where
  covers : terms.expiresAt - terms.startAt ≤ periods * terms.periodSeconds
  least : periods * terms.periodSeconds < terms.expiresAt - terms.startAt + terms.periodSeconds

/-- **The exposure**: what the periods allow, and what the charges allow when they are counted. -/
theorem computeMaxExposure_eq {terms : MandateTerms} (hperiod : 0 < terms.periodSeconds)
    (hduration : terms.startAt < terms.expiresAt) :
    ∃ periods, CoversPeriods terms periods ∧
      computeMaxExposure terms = .ok (
        if terms.maxSuccessfulCharges = 0 then terms.maxPerPeriod * periods
        else min (perChargeCeiling terms.amountRule * terms.maxSuccessfulCharges)
          (terms.maxPerPeriod * periods)) := by
  have hpos : 0 < terms.expiresAt - terms.startAt := by omega
  obtain ⟨periods, hperiods⟩ := exists_ceilDiv hpos.le hperiod
  obtain ⟨-, hcovers, hleast⟩ := (ceilDiv_ok hpos.le).mp hperiods
  refine ⟨periods, ⟨hcovers, hleast⟩, ?_⟩
  unfold computeMaxExposure
  rw [if_neg (not_le.mpr hpos), hperiods]
  by_cases hcount : terms.maxSuccessfulCharges = 0
  · rw [if_pos hcount]
    exact if_pos hcount
  · rw [if_neg hcount]
    refine (if_neg hcount).trans (congrArg Except.ok ?_)
    rw [min_def_lt]

/-- **The allowance** is the exposure and a hundredth of it, rounded up. -/
theorem computeBoundedAllowance_eq {maxExposure : ℤ} (h : 0 ≤ maxExposure) :
    ∃ allowance, computeBoundedAllowance maxExposure = .ok allowance ∧
      101 * maxExposure ≤ 100 * allowance.total ∧
      100 * allowance.total < 101 * maxExposure + 100 := by
  have hscaled : 0 ≤ maxExposure * allowanceFeeHeadroomBps := by
    unfold allowanceFeeHeadroomBps
    omega
  obtain ⟨feeHeadroom, hfee⟩ := exists_ceilDiv hscaled (by omega : (0 : ℤ) < 10000)
  obtain ⟨-, hle, hlt⟩ := (ceilDiv_ok hscaled).mp hfee
  unfold allowanceFeeHeadroomBps at hle hlt
  refine ⟨⟨maxExposure, feeHeadroom, maxExposure + feeHeadroom⟩, ?_, ?_, ?_⟩
  · rw [computeBoundedAllowance, rejectIf, if_neg (not_lt.mpr h), hfee]
    rfl
  · show 101 * maxExposure ≤ 100 * (maxExposure + feeHeadroom)
    omega
  · show 100 * (maxExposure + feeHeadroom) < 101 * maxExposure + 100
    omega

end Paymap.Web
