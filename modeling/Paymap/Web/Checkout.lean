import Paymap.Web.Exposure

set_option autoImplicit false

/-! # From a product to a mandate

Three validators meet at the checkout: the API's on the product, none on the terms that the web app
derives from it, and the contract's `validate_input` on the mandate. The API leaves to the contract
what only the contract can refuse: it does not compare the two amounts of a product, and has no upper
bound on either. `sellable_iff` says which accepted products a payer can subscribe to.
-/

namespace Paymap.Web

open Registry (Address MandateInput ValidInput validateInput validateInput_ok)
open Api (Body CreateProductInput createProductSchema fitsIntColumn postProduct)
open Shared (decimalValue)

/-! ## A checkout -/

/-- The checkout of a product at `now` comes to an input that `create_mandate` takes, and to an
allowance that the token takes. -/
def Creatable (product : PublicProduct) (now : U64) (payer merchant : Address) : Prop :=
  ∃ terms exposure allowance input,
    deriveMandateTerms product now.val = .ok terms ∧
    computeMaxExposure terms = .ok exposure ∧
    computeBoundedAllowance exposure = .ok allowance ∧
    allowance.total ≤ 170141183460469231731687303715884105727 ∧
    terms = .ofInput input terms.assetDecimals ∧
    input.payer = payer ∧ input.merchant = merchant ∧
    validateInput now input = .ok ()

/-- The most that an `i128` holds. -/
abbrev maxI128 : ℚ := 170141183460469231731687303715884105727

/-- A payer can subscribe to the product at `now`: one charge is within the cap of a period; the cap
in base units fits, and so does the end of the mandate; and so do the most that can be collected and the
hundredth on top of it, because either the charges or the periods are few enough. -/
structure Sellable (input : CreateProductInput) (now : U64) : Prop where
  perCharge_le_cap : decimalValue input.amount.decimal ≤ decimalValue input.maxPerPeriod
  cap_fits : decimalValue input.maxPerPeriod * 10 ^ input.assetDecimals.toNat ≤ maxI128
  expiry_fits : now.val + input.defaultDurationSeconds ≤ 18446744073709551615
  allowance_fits :
    (input.maxSuccessfulCharges ≠ 0 ∧
      101 * (decimalValue input.amount.decimal * 10 ^ input.assetDecimals.toNat
        * input.maxSuccessfulCharges) ≤ 100 * maxI128) ∨
    ∃ periods : ℤ, input.defaultDurationSeconds ≤ periods * input.periodSeconds ∧
      101 * (decimalValue input.maxPerPeriod * 10 ^ input.assetDecimals.toNat * periods)
        ≤ 100 * maxI128

/-! ## The derived terms -/

def ruleOf : Api.ProductAmount → ℤ → Client.AmountRule
  | .fixed _, perCharge => .fixed perCharge
  | .variableUpTo _, perCharge => .variableUpTo perCharge

theorem perChargeCeiling_ruleOf (amount : Api.ProductAmount) (perCharge : ℤ) :
    perChargeCeiling (ruleOf amount perCharge) = perCharge := by
  cases amount with
  | fixed fixedAmount => rfl
  | variableUpTo maxPerCharge => rfl

/-- The terms of a product with these amounts, from `now` on. -/
def termsAt (input : CreateProductInput) (assetAddress : Address) (perCharge cap now : ℤ) :
    MandateTerms where
  assetAddress := assetAddress
  assetDecimals := input.assetDecimals
  amountRule := ruleOf input.amount perCharge
  maxPerPeriod := cap
  periodSeconds := input.periodSeconds
  minIntervalSeconds := input.minIntervalSeconds
  maxSuccessfulCharges := input.maxSuccessfulCharges
  startAt := now
  expiresAt := now + input.defaultDurationSeconds

section

variable {product : PublicProduct} {input : CreateProductInput} {perCharge cap : ℤ}

theorem toBaseUnits_ok {decimal : String} {decimals n : ℤ} :
    toBaseUnits decimal decimals = .ok n ↔ Shared.decimalToBaseUnits decimal decimals = .ok n :=
  Tx.mapError_ok

theorem deriveAmountRule_eq (h : product.Shows input perCharge cap) :
    deriveAmountRule product = .ok (ruleOf input.amount perCharge) := by
  obtain ⟨decimal, hread, hcolumns⟩ := h.amount_eq
  rw [← h.assetDecimals_eq] at hread
  have hunits := toBaseUnits_ok.mpr hread
  unfold deriveAmountRule
  cases hamount : input.amount with
  | fixed fixedAmount =>
      simp only [hamount, Api.ProductAmount.columns, Prod.mk.injEq] at hcolumns
      obtain ⟨htype, hfixed, -⟩ := hcolumns
      rw [htype, hfixed]
      show (toBaseUnits decimal product.assetDecimals >>= _) = _
      rw [hunits]
      rfl
  | variableUpTo maxPerCharge =>
      simp only [hamount, Api.ProductAmount.columns, Prod.mk.injEq] at hcolumns
      obtain ⟨htype, -, hvariable⟩ := hcolumns
      rw [htype, hvariable]
      show (toBaseUnits decimal product.assetDecimals >>= _) = _
      rw [hunits]
      rfl

theorem deriveMandateTerms_eq (h : product.Shows input perCharge cap) (now : ℤ) :
    deriveMandateTerms product now
      = .ok (termsAt input product.assetAddress perCharge cap now) := by
  have hcap : toBaseUnits product.maxPerPeriod product.assetDecimals = .ok cap := by
    rw [h.assetDecimals_eq]
    exact toBaseUnits_ok.mpr h.cap_eq
  unfold deriveMandateTerms
  rw [deriveAmountRule_eq h, hcap]
  show Except.ok _ = _
  rw [h.assetDecimals_eq, h.periodSeconds_eq, h.minIntervalSeconds_eq, h.maxSuccessfulCharges_eq,
    h.defaultDurationSeconds_eq]
  rfl

/-! ## The terms as an input of the contract -/

/-- The terms have a place in the contract's types. -/
structure MandateTerms.Fits (terms : MandateTerms) : Prop where
  perCharge : -170141183460469231731687303715884105728 ≤ perChargeCeiling terms.amountRule ∧
    perChargeCeiling terms.amountRule ≤ 170141183460469231731687303715884105727
  cap : -170141183460469231731687303715884105728 ≤ terms.maxPerPeriod ∧
    terms.maxPerPeriod ≤ 170141183460469231731687303715884105727
  period : 0 ≤ terms.periodSeconds ∧ terms.periodSeconds ≤ 18446744073709551615
  interval : 0 ≤ terms.minIntervalSeconds ∧ terms.minIntervalSeconds ≤ 18446744073709551615
  start : 0 ≤ terms.startAt ∧ terms.startAt ≤ 18446744073709551615
  expiry : 0 ≤ terms.expiresAt ∧ terms.expiresAt ≤ 18446744073709551615
  count : 0 ≤ terms.maxSuccessfulCharges ∧ terms.maxSuccessfulCharges ≤ 4294967295

theorem MandateTerms.fits_ofInput (input : MandateInput) (assetDecimals : ℤ) :
    (MandateTerms.ofInput input assetDecimals).Fits where
  perCharge := by
    have hrule : perChargeCeiling (MandateTerms.ofInput input assetDecimals).amountRule
        = input.amountRule.perChargeCap.val := perChargeCeiling_toDomain _
    rw [hrule]
    exact ⟨input.amountRule.perChargeCap.lo_le, input.amountRule.perChargeCap.le_hi⟩
  cap := ⟨input.maxPerPeriod.lo_le, input.maxPerPeriod.le_hi⟩
  period := ⟨input.periodSeconds.lo_le, input.periodSeconds.le_hi⟩
  interval := ⟨input.minIntervalSeconds.lo_le, input.minIntervalSeconds.le_hi⟩
  start := ⟨input.startAt.lo_le, input.startAt.le_hi⟩
  expiry := ⟨input.expiresAt.lo_le, input.expiresAt.le_hi⟩
  count := ⟨input.maxSuccessfulCharges.lo_le, input.maxSuccessfulCharges.le_hi⟩

theorem MandateTerms.Fits.exists_rule {terms : MandateTerms} (h : terms.Fits) :
    ∃ rule, Client.toDomainAmountRule rule = terms.amountRule := by
  have hrange := h.perCharge
  cases hrule : terms.amountRule with
  | fixed amount =>
      rw [hrule] at hrange
      exact ⟨.fixed ⟨amount, hrange.1, hrange.2⟩, rfl⟩
  | variableUpTo maxPerCharge =>
      rw [hrule] at hrange
      exact ⟨.variableUpTo ⟨maxPerCharge, hrange.1, hrange.2⟩, rfl⟩

theorem MandateTerms.Fits.exists_input {terms : MandateTerms} (h : terms.Fits)
    (payer merchant : Address) :
    ∃ input : MandateInput, terms = .ofInput input terms.assetDecimals ∧
      input.payer = payer ∧ input.merchant = merchant := by
  obtain ⟨rule, hrule⟩ := h.exists_rule
  refine ⟨{
    payer := payer
    merchant := merchant
    asset := terms.assetAddress
    amountRule := rule
    maxPerPeriod := ⟨terms.maxPerPeriod, h.cap.1, h.cap.2⟩
    periodSeconds := ⟨terms.periodSeconds, h.period.1, h.period.2⟩
    minIntervalSeconds := ⟨terms.minIntervalSeconds, h.interval.1, h.interval.2⟩
    startAt := ⟨terms.startAt, h.start.1, h.start.2⟩
    expiresAt := ⟨terms.expiresAt, h.expiry.1, h.expiry.2⟩
    maxSuccessfulCharges := ⟨terms.maxSuccessfulCharges, h.count.1, h.count.2⟩
    metadataHash := ⟨0⟩
    clientNonce := ⟨0⟩ }, ?_, rfl, rfl⟩
  unfold MandateTerms.ofInput
  rw [hrule]

/-! ## What the exposure may be -/

/-- An exposure is small enough when the charges are few enough or the periods are. -/
theorem exposure_small_iff {terms : MandateTerms} {exposure : ℤ} {Small : ℤ → Prop}
    (hsmall : ∀ {x y : ℤ}, x ≤ y → Small y → Small x) (hperiod : 0 < terms.periodSeconds)
    (hduration : terms.startAt < terms.expiresAt) (hcap : 0 ≤ terms.maxPerPeriod)
    (hexposure : computeMaxExposure terms = .ok exposure) :
    Small exposure ↔
      (terms.maxSuccessfulCharges ≠ 0 ∧
        Small (perChargeCeiling terms.amountRule * terms.maxSuccessfulCharges)) ∨
      ∃ periods : ℤ, terms.expiresAt - terms.startAt ≤ periods * terms.periodSeconds ∧
        Small (terms.maxPerPeriod * periods) := by
  obtain ⟨least, hcovers, heq⟩ := computeMaxExposure_eq hperiod hduration
  obtain rfl := Except.ok.inj (hexposure.symm.trans heq)
  -- no number of periods that is enough is below the least
  have hle : ∀ periods : ℤ, terms.expiresAt - terms.startAt ≤ periods * terms.periodSeconds →
      terms.maxPerPeriod * least ≤ terms.maxPerPeriod * periods := by
    intro periods henough
    have hlt := hcovers.least
    have hsucc : least * terms.periodSeconds < (periods + 1) * terms.periodSeconds := by
      rw [add_mul, one_mul]
      omega
    have hleast : least < periods + 1 := lt_of_mul_lt_mul_right hsucc hperiod.le
    exact mul_le_mul_of_nonneg_left (by omega) hcap
  have hperiods : Small (terms.maxPerPeriod * least) ↔
      ∃ periods : ℤ, terms.expiresAt - terms.startAt ≤ periods * terms.periodSeconds ∧
        Small (terms.maxPerPeriod * periods) :=
    ⟨fun h => ⟨least, hcovers.covers, h⟩, fun ⟨periods, henough, h⟩ => hsmall (hle _ henough) h⟩
  rw [← hperiods]
  by_cases hunlimited : terms.maxSuccessfulCharges = 0
  · rw [if_pos hunlimited]
    exact ⟨.inr, fun h => h.elim (fun h => absurd hunlimited h.1) id⟩
  · -- the smaller of the two bounds is small when either is
    rw [if_neg hunlimited]
    constructor
    · intro h
      rcases min_choice (perChargeCeiling terms.amountRule * terms.maxSuccessfulCharges)
        (terms.maxPerPeriod * least) with hmin | hmin
      · exact .inl ⟨hunlimited, hmin ▸ h⟩
      · exact .inr (hmin ▸ h)
    · rintro (⟨-, h⟩ | h)
      · exact hsmall (min_le_left _ _) h
      · exact hsmall (min_le_right _ _) h

/-- The allowance of an exposure fits. -/
def AllowanceFits (exposure : ℤ) : Prop :=
  101 * exposure ≤ 100 * 170141183460469231731687303715884105727

theorem AllowanceFits.mono {x y : ℤ} (hle : x ≤ y) (h : AllowanceFits y) : AllowanceFits x := by
  unfold AllowanceFits at h ⊢
  omega

theorem allowanceFits_iff {exposure : ℤ} {allowance : BoundedAllowance} (h : 0 ≤ exposure)
    (hallowance : computeBoundedAllowance exposure = .ok allowance) :
    allowance.total ≤ 170141183460469231731687303715884105727 ↔ AllowanceFits exposure := by
  obtain ⟨allowance', hallowance', hle, hlt⟩ := computeBoundedAllowance_eq h
  obtain rfl := Except.ok.inj (hallowance.symm.trans hallowance')
  unfold AllowanceFits
  constructor
  · intro hfits
    omega
  · intro hfits
    omega

theorem computeMaxExposure_nonneg {terms : MandateTerms} {exposure : ℤ}
    (hperiod : 0 < terms.periodSeconds) (hduration : terms.startAt < terms.expiresAt)
    (hcap : 0 ≤ terms.maxPerPeriod) (hperCharge : 0 ≤ perChargeCeiling terms.amountRule)
    (hcount : 0 ≤ terms.maxSuccessfulCharges)
    (hexposure : computeMaxExposure terms = .ok exposure) : 0 ≤ exposure := by
  obtain ⟨periods, hcovers, heq⟩ := computeMaxExposure_eq hperiod hduration
  obtain rfl := Except.ok.inj (hexposure.symm.trans heq)
  have hlasts := hcovers.covers
  have hsome : 0 < periods := (mul_pos_iff_of_pos_right hperiod).mp (by omega)
  have hperiods : 0 ≤ terms.maxPerPeriod * periods := mul_nonneg hcap hsome.le
  by_cases hunlimited : terms.maxSuccessfulCharges = 0
  · rwa [if_pos hunlimited]
  · rw [if_neg hunlimited]
    exact le_min (mul_nonneg hperCharge hcount) hperiods

/-! ## Which products can be subscribed to -/

/-- `validate_input`, of an input made of these terms. -/
theorem validInput_ofInput {terms : MandateTerms} {contractInput : MandateInput} {now : U64}
    (h : terms = .ofInput contractInput terms.assetDecimals) :
    ValidInput now contractInput ↔
      0 < perChargeCeiling terms.amountRule ∧
      perChargeCeiling terms.amountRule ≤ terms.maxPerPeriod ∧
      0 < terms.periodSeconds ∧ terms.startAt < terms.expiresAt ∧ now.val < terms.expiresAt ∧
      contractInput.payer ≠ contractInput.merchant := by
  rw [h]
  have hrule : perChargeCeiling (MandateTerms.ofInput contractInput terms.assetDecimals).amountRule
      = contractInput.amountRule.perChargeCap.val := perChargeCeiling_toDomain _
  rw [hrule]
  exact ⟨fun hv =>
      ⟨hv.perChargeCap_pos, hv.cap_le, hv.period_pos, hv.start_lt, hv.now_lt, hv.payer_ne⟩,
    fun ⟨h₁, h₂, h₃, h₄, h₅, h₆⟩ => ⟨h₁, h₂, h₃, h₄, h₅, h₆⟩⟩

/-- A checkout succeeds when the contract's types hold its terms, and the contract's checks and the
token's type accept them. -/
theorem creatable_iff_of_terms {terms : MandateTerms} {exposure : ℤ} {allowance : BoundedAllowance}
    {now : U64} {payer merchant : Address}
    (hderive : deriveMandateTerms product now.val = .ok terms)
    (hexposure : computeMaxExposure terms = .ok exposure)
    (hallowance : computeBoundedAllowance exposure = .ok allowance) (hne : payer ≠ merchant) :
    Creatable product now payer merchant ↔
      terms.Fits ∧ allowance.total ≤ 170141183460469231731687303715884105727 ∧
      0 < perChargeCeiling terms.amountRule ∧
      perChargeCeiling terms.amountRule ≤ terms.maxPerPeriod ∧
      0 < terms.periodSeconds ∧ terms.startAt < terms.expiresAt ∧ now.val < terms.expiresAt := by
  constructor
  · rintro ⟨terms', exposure', allowance', contractInput, hterms', hexposure', hallowance', htotal,
      hof, rfl, rfl, hvalid⟩
    obtain rfl := Except.ok.inj (hderive.symm.trans hterms')
    obtain rfl := Except.ok.inj (hexposure.symm.trans hexposure')
    obtain rfl := Except.ok.inj (hallowance.symm.trans hallowance')
    have hplaced : terms.Fits := hof ▸ MandateTerms.fits_ofInput contractInput terms.assetDecimals
    obtain ⟨hpos, hle, hperiod, hstart, hnow, -⟩ :=
      (validInput_ofInput hof).mp (validateInput_ok.mp hvalid)
    exact ⟨hplaced, htotal, hpos, hle, hperiod, hstart, hnow⟩
  · rintro ⟨hplaced, htotal, hpos, hle, hperiod, hstart, hnow⟩
    obtain ⟨contractInput, hof, rfl, rfl⟩ := hplaced.exists_input payer merchant
    have hvalid : ValidInput now contractInput :=
      (validInput_ofInput hof).mpr ⟨hpos, hle, hperiod, hstart, hnow, hne⟩
    exact ⟨terms, exposure, allowance, contractInput, hderive, hexposure, hallowance, htotal, hof,
      rfl, rfl, validateInput_ok.mpr hvalid⟩

/-- What the API has checked and its columns hold, the contract's types hold, up to the cap and the
end of the mandate. -/
theorem termsAt_fits {now : U64} {assetAddress : Address} (hchecked : input.Checked)
    (hamounts : input.Amounts perCharge cap) (hinterval : fitsIntColumn input.minIntervalSeconds)
    (hcount : fitsIntColumn input.maxSuccessfulCharges) (hle : perCharge ≤ cap)
    (hcap : cap ≤ 170141183460469231731687303715884105727)
    (hexpiry : now.val + input.defaultDurationSeconds ≤ 18446744073709551615) :
    (termsAt input assetAddress perCharge cap now.val).Fits := by
  have hperCharge := hamounts.perCharge_pos
  have hperiodpos := hchecked.period_pos
  have hperiodle := hchecked.period_le
  have hdurationpos := hchecked.duration_pos
  have hnow := now.lo_le
  constructor
  · show _ ≤ perChargeCeiling (ruleOf input.amount perCharge) ∧
      perChargeCeiling (ruleOf input.amount perCharge) ≤ _
    rw [perChargeCeiling_ruleOf]
    omega
  · show _ ≤ cap ∧ cap ≤ _
    omega
  · show _ ≤ input.periodSeconds ∧ input.periodSeconds ≤ _
    omega
  · exact ⟨hchecked.interval_nonneg, hinterval.2.trans (by omega)⟩
  · exact ⟨now.lo_le, now.le_hi⟩
  · show _ ≤ now.val + input.defaultDurationSeconds ∧ _
    exact ⟨by omega, hexpiry⟩
  · exact ⟨hchecked.count_nonneg, hcount.2.trans (by omega)⟩

/-- In base units. -/
theorem creatable_iff {now : U64} {payer merchant : Address}
    (hshows : product.Shows input perCharge cap) (hchecked : input.Checked)
    (hamounts : input.Amounts perCharge cap) (hinterval : fitsIntColumn input.minIntervalSeconds)
    (hcount : fitsIntColumn input.maxSuccessfulCharges) (hne : payer ≠ merchant) :
    Creatable product now payer merchant ↔
      perCharge ≤ cap ∧ cap ≤ 170141183460469231731687303715884105727 ∧
      now.val + input.defaultDurationSeconds ≤ 18446744073709551615 ∧
      ((input.maxSuccessfulCharges ≠ 0 ∧ AllowanceFits (perCharge * input.maxSuccessfulCharges)) ∨
        ∃ periods : ℤ, input.defaultDurationSeconds ≤ periods * input.periodSeconds ∧
          AllowanceFits (cap * periods)) := by
  have hplaced := @termsAt_fits input perCharge cap now product.assetAddress hchecked hamounts
    hinterval hcount
  have hderive := deriveMandateTerms_eq hshows now.val
  generalize hterms : termsAt input product.assetAddress perCharge cap now.val = terms
    at hderive hplaced
  have hrule : perChargeCeiling terms.amountRule = perCharge := by
    rw [← hterms]
    exact perChargeCeiling_ruleOf _ _
  have hcap : terms.maxPerPeriod = cap := by rw [← hterms]; rfl
  have hperiod : terms.periodSeconds = input.periodSeconds := by rw [← hterms]; rfl
  have hstart : terms.startAt = now.val := by rw [← hterms]; rfl
  have hexpires : terms.expiresAt = now.val + input.defaultDurationSeconds := by rw [← hterms]; rfl
  have hmax : terms.maxSuccessfulCharges = input.maxSuccessfulCharges := by rw [← hterms]; rfl
  have hduration := hchecked.duration_pos
  have hperCharge := hamounts.perCharge_pos
  have hcappos := hamounts.cap_pos
  have hpos : 0 < terms.periodSeconds := by rw [hperiod]; exact hchecked.period_pos
  have hlt : terms.startAt < terms.expiresAt := by omega
  -- the two bounds the app computes exist, and it is the allowance that has to fit
  obtain ⟨periods, -, hexposure⟩ := computeMaxExposure_eq hpos hlt
  generalize (if terms.maxSuccessfulCharges = 0 then _ else _ : ℤ) = exposure at hexposure
  have hnonneg : 0 ≤ exposure :=
    computeMaxExposure_nonneg hpos hlt (by omega) (by omega) (hmax ▸ hchecked.count_nonneg) hexposure
  obtain ⟨allowance, hallowance, -⟩ := computeBoundedAllowance_eq hnonneg
  have hfits : allowance.total ≤ 170141183460469231731687303715884105727 ↔
      (input.maxSuccessfulCharges ≠ 0 ∧ AllowanceFits (perCharge * input.maxSuccessfulCharges)) ∨
        ∃ periods : ℤ, input.defaultDurationSeconds ≤ periods * input.periodSeconds ∧
          AllowanceFits (cap * periods) := by
    rw [allowanceFits_iff hnonneg hallowance, exposure_small_iff AllowanceFits.mono hpos hlt
      (by omega) hexposure, hrule, hcap, hmax, hperiod, hexpires, hstart, add_sub_cancel_left]
  rw [← hfits, creatable_iff_of_terms hderive hexposure hallowance hne]
  constructor
  · rintro ⟨hplaced, htotal, -, hle, -, -, -⟩
    have hcaple := hplaced.cap.2
    have hexpiry := hplaced.expiry.2
    exact ⟨by omega, by omega, by omega, htotal⟩
  · rintro ⟨hle, hcaple, hexpiry, htotal⟩
    exact ⟨hplaced hle hcaple hexpiry, htotal, by omega, by omega, hpos, hlt, by omega⟩

/-- `Sellable` in base units. -/
theorem sellable_units {now : U64} (hamounts : input.Amounts perCharge cap) :
    Sellable input now ↔
      perCharge ≤ cap ∧ cap ≤ 170141183460469231731687303715884105727 ∧
      now.val + input.defaultDurationSeconds ≤ 18446744073709551615 ∧
      ((input.maxSuccessfulCharges ≠ 0 ∧ AllowanceFits (perCharge * input.maxSuccessfulCharges)) ∨
        ∃ periods : ℤ, input.defaultDurationSeconds ≤ periods * input.periodSeconds ∧
          AllowanceFits (cap * periods)) := by
  obtain ⟨-, -, -, hperCharge⟩ := Shared.decimalToBaseUnits_ok.mp hamounts.perCharge_eq
  obtain ⟨-, -, -, hcap⟩ := Shared.decimalToBaseUnits_ok.mp hamounts.cap_eq
  have hscale : (0 : ℚ) < 10 ^ input.assetDecimals.toNat := by positivity
  have hle : decimalValue input.amount.decimal ≤ decimalValue input.maxPerPeriod ↔
      perCharge ≤ cap := by
    rw [← Int.cast_le (R := ℚ), hperCharge, hcap, mul_le_mul_iff_left₀ hscale]
  have hcapfits : (cap : ℚ) ≤ maxI128 ↔ cap ≤ 170141183460469231731687303715884105727 := by
    unfold maxI128
    exact_mod_cast Iff.rfl
  have hallowance : ∀ exposure : ℤ, 101 * (exposure : ℚ) ≤ 100 * maxI128 ↔
      AllowanceFits exposure := by
    intro exposure
    unfold maxI128 AllowanceFits
    exact_mod_cast Iff.rfl
  -- the two products of `Sellable`, as integers
  have hcharges := hallowance (perCharge * input.maxSuccessfulCharges)
  have hperiods := fun periods : ℤ => hallowance (cap * periods)
  push_cast at hcharges hperiods
  constructor
  · rintro ⟨h₁, h₂, h₃, h₄⟩
    rw [← hcap] at h₂ h₄
    rw [← hperCharge] at h₄
    exact ⟨hle.mp h₁, hcapfits.mp h₂, h₃, h₄.imp (And.imp_right hcharges.mp)
      fun ⟨periods, henough, h⟩ => ⟨periods, henough, (hperiods periods).mp h⟩⟩
  · rintro ⟨h₁, h₂, h₃, h₄⟩
    refine ⟨hle.mpr h₁, ?_, h₃, ?_⟩
    · rw [← hcap]
      exact hcapfits.mpr h₂
    · rw [← hcap, ← hperCharge]
      exact h₄.imp (And.imp_right hcharges.mpr)
        fun ⟨periods, henough, h⟩ => ⟨periods, henough, (hperiods periods).mpr h⟩

/-- **Which accepted products are sellable.** A payer other than the merchant can subscribe to an
accepted product exactly when it is `Sellable`: its terms then pass the contract's `validate_input`
and fit its types, and so does the allowance. -/
theorem sellable_iff {strKey : String → Option Address} {body : Body}
    (hposted : postProduct strKey body = .ok product)
    (hinput : createProductSchema strKey body = some input) (now : U64) {payer merchant : Address}
    (hne : payer ≠ merchant) : Creatable product now payer merchant ↔ Sellable input now := by
  obtain ⟨input', perCharge, cap, hparsed, hchecked, hamounts, hinterval, hcount, hshows⟩ :=
    Api.postProduct_ok hposted
  obtain rfl := Option.some.inj (hinput.symm.trans hparsed)
  rw [creatable_iff hshows hchecked hamounts hinterval hcount hne, sellable_units hamounts]

end

/-! ## A product that no payer can subscribe to -/

/-- Twelve charges of `fixedAmount`, in periods of thirty days for a year. -/
def planBody (fixedAmount maxPerPeriod : String) : Body := fun field =>
  [("amountType", Api.Json.string "fixed"), ("fixedAmount", .string fixedAmount),
    ("name", .string "Pro Plan"), ("assetAddress", .string "C"), ("assetDecimals", .number 7),
    ("maxPerPeriod", .string maxPerPeriod), ("periodSeconds", .number 2592000),
    ("minIntervalSeconds", .number 0), ("maxSuccessfulCharges", .number 12),
    ("defaultDurationSeconds", .number 31536000)].lookup field

def planInput (fixedAmount maxPerPeriod : String) : CreateProductInput where
  amount := .fixed fixedAmount
  name := "Pro Plan"
  description := none
  assetAddress := ⟨3⟩
  assetDecimals := 7
  maxPerPeriod := maxPerPeriod
  periodSeconds := 2592000
  minIntervalSeconds := 0
  maxSuccessfulCharges := 12
  defaultDurationSeconds := 31536000

/-- The one asset there is. -/
def planStrKey : String → Option Address := fun _ => some ⟨3⟩

def checkoutTime : U64 := .lit 1800000000 (by decide)

/-- **The API accepts a product whose cap is below its charge**, and no payer can subscribe to it. -/
theorem unsellable_product :
    ∃ product, postProduct planStrKey (planBody "2" "1") = .ok product ∧
      ¬ Creatable product checkoutTime ⟨1⟩ ⟨2⟩ := by
  obtain ⟨product, hposted⟩ : ∃ product, postProduct planStrKey (planBody "2" "1") = .ok product :=
    ⟨_, rfl⟩
  refine ⟨product, hposted, ?_⟩
  obtain ⟨input, perCharge, cap, hparsed, hchecked, hamounts, hinterval, hcount, hshows⟩ :=
    Api.postProduct_ok hposted
  have hinput : createProductSchema planStrKey (planBody "2" "1") = some (planInput "2" "1") := rfl
  obtain rfl := Option.some.inj (hinput.symm.trans hparsed)
  have hperCharge : Shared.decimalToBaseUnits "2" 7 = .ok 20000000 := by decide
  have hcap : Shared.decimalToBaseUnits "1" 7 = .ok 10000000 := by decide
  obtain rfl := Except.ok.inj (hperCharge.symm.trans hamounts.perCharge_eq)
  obtain rfl := Except.ok.inj (hcap.symm.trans hamounts.cap_eq)
  have hne : (⟨1⟩ : Address) ≠ ⟨2⟩ := by decide
  rw [creatable_iff hshows hchecked hamounts hinterval hcount hne]
  rintro ⟨hle, -⟩
  omega

theorem sellable_iff_plan :
    ∃ product, postProduct planStrKey (planBody "15.00" "15.00") = .ok product ∧
      (Creatable product checkoutTime ⟨1⟩ ⟨2⟩ ↔ Sellable (planInput "15.00" "15.00") checkoutTime) := by
  obtain ⟨product, hposted⟩ :
      ∃ product, postProduct planStrKey (planBody "15.00" "15.00") = .ok product := ⟨_, rfl⟩
  exact ⟨product, hposted, sellable_iff hposted rfl checkoutTime (by decide)⟩

end Paymap.Web
