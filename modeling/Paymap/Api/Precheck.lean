import Paymap.Client.Domain
import Paymap.Registry.Books
import Paymap.Relayer.Classify
import Paymap.Token.Mock

set_option autoImplicit false

/-! # The precheck of a charge

`apps/api/src/chain/precheck.ts` repeats steps 2 to 4 and 7 to 12 of the contract's charge, so that a
charge that is bound to fail is refused before it is queued, with the error of the contract. It has
integers without bounds where the contract has checked ones. The two always agree on whether the
charge goes through, and on the error unless one of the contract's two additions overflows: then the
contract says so, and the precheck names the limit that is exceeded.
-/

namespace Paymap.Api

open Registry
open Relayer (MandateErrorInfo decodeMandateErrorName contractErrorName)
open Tx (rejectIf)

/-! ## `precheckCharge` -/

/-- `NON_ACTIVE_STATUS_ERROR_NAME`. -/
def nonActiveStatusErrorName : MandateStatus → Option String
  | .active => none
  | .paused => some "MandatePaused"
  | .revoked => some "MandateRevoked"
  | .completed => some "MandateCompleted"
  | .expired => some "MandateExpired"

inductive BigIntError where
  | divisionByZero
deriving DecidableEq, Repr

/-- `/` on `bigint`. -/
def bigIntDiv (a b : ℤ) : Except BigIntError ℤ :=
  if b = 0 then .error .divisionByZero else .ok (a.tdiv b)

/-- What `precheckCharge` returns; `none` is `null`. -/
abbrev PrecheckResult := Except BigIntError (Option MandateErrorInfo)

def reject (name : String) : PrecheckResult := .ok (some (decodeMandateErrorName name))

/-- Step 8. -/
def violatesRule : Client.AmountRule → ℤ → Bool
  | .fixed fixedAmount, amount => amount ≠ fixedAmount
  | .variableUpTo maxPerCharge, amount => amount > maxPerCharge

/-- Step 9. -/
def chargeTooSoon (mandate : Client.Mandate) (nowSeconds : ℤ) : Bool :=
  match mandate.lastChargedAt with
  | none => false
  | some lastChargedAt => nowSeconds < lastChargedAt + mandate.minIntervalSeconds

/-- Steps 11 and 12. -/
def precheckPeriod (mandate : Client.Mandate) (amount nowSeconds : ℤ) : PrecheckResult := do
  let elapsedSinceStart := nowSeconds - mandate.startAt
  let periodIndex ← bigIntDiv elapsedSinceStart mandate.periodSeconds
  let computedPeriodStart := mandate.startAt + periodIndex * mandate.periodSeconds
  let effectivePeriodCollected :=
    if computedPeriodStart ≠ mandate.currentPeriodStart then 0 else mandate.currentPeriodCollected
  let newPeriodCollected := effectivePeriodCollected + amount
  if newPeriodCollected > mandate.maxPerPeriod then reject "AmountExceedsPeriodLimit"
  else return none

def precheckCharge (mandate : Client.Mandate) (amount nowSeconds : ℤ) : PrecheckResult :=
  match nonActiveStatusErrorName mandate.status with
  | some name => reject name
  | none =>
      if nowSeconds < mandate.startAt then reject "ChargeBeforeStart"
      else if nowSeconds ≥ mandate.expiresAt then reject "MandateExpired"
      else if amount ≤ 0 then reject "InvalidAmount"
      else if violatesRule mandate.amountRule amount then reject "AmountExceedsChargeLimit"
      else if chargeTooSoon mandate nowSeconds then reject "ChargeTooSoon"
      else if mandate.maxSuccessfulCharges ≠ 0 ∧
          mandate.successfulCharges ≥ mandate.maxSuccessfulCharges then
        reject "ChargeCountExceeded"
      else precheckPeriod mandate amount nowSeconds

/-! ## Against the contract -/

/-- The precheck and the checks of the contract have the same result. -/
inductive Agrees {α : Type} : PrecheckResult → Except Failure α → Prop where
  | passes (a : α) : Agrees (.ok none) (.ok a)
  | rejects (e : Error) : Agrees (reject (contractErrorName e)) (.error (.err e))

/-- The same check on both sides. -/
theorem agrees_check {α : Type} {c c' : Prop} [Decidable c] [Decidable c'] (e : Error)
    {p : PrecheckResult} {f : Unit → Except Failure α} (hc : c' ↔ c)
    (h : ¬ c → Agrees p (f ())) :
    Agrees (if c' then reject (contractErrorName e) else p) (rejectIf c (.err e) >>= f) := by
  by_cases hholds : c
  · rw [if_pos (hc.mpr hholds), rejectIf, if_pos hholds]
    exact .rejects e
  · rw [if_neg fun h' => hholds (hc.mp h'), rejectIf, if_neg hholds]
    exact h hholds

section

variable {T : Type} {m : Mandate} {now : U64} {amount : I128}

/-- The record `get_mandate` returns for `m`, outside the contract. -/
def readMandate (m : Mandate) (now : U64) : Client.Mandate :=
  Client.toDomainMandate { m with status := effectiveStatus m now }

/-! ### Steps 11 and 12 -/

/-- Steps 11 and 12 of the contract. -/
def chargePeriod (m : Mandate) (now : U64) (amount : I128) :
    Except Failure (BillingPeriod × I128) := do
  let period ← billingPeriod m now
  let newPeriodCollected ← checkedAddI128 (effectivePeriodCollected m period) amount
  rejectIf (m.maxPerPeriod < newPeriodCollected) (.err .amountExceedsPeriodLimit)
  return (period, newPeriodCollected)

/-- What the record says the period of `now` has collected. -/
def collectedAt (m : Mandate) (now : U64) : ℤ :=
  if History.gridFloor m.startAt.val m.periodSeconds.val now.val = m.currentPeriodStart.val then
    m.currentPeriodCollected.val
  else 0

/-- Step 12 overflows. -/
def PeriodOverflows (m : Mandate) (now : U64) (amount : I128) : Prop :=
  170141183460469231731687303715884105727 < collectedAt m now + amount.val

theorem precheckPeriod_eq (hpos : 0 < m.periodSeconds.val) (hstart : m.startAt.val ≤ now.val) :
    precheckPeriod (readMandate m now) amount.val now.val
      = if collectedAt m now + amount.val > m.maxPerPeriod.val then
          reject "AmountExceedsPeriodLimit"
        else .ok none := by
  have hdiv : bigIntDiv (now.val - m.startAt.val) m.periodSeconds.val
      = .ok ((now.val - m.startAt.val) / m.periodSeconds.val) := by
    rw [bigIntDiv, if_neg hpos.ne', Int.tdiv_eq_ediv_of_nonneg (by omega)]
  show (bigIntDiv (now.val - m.startAt.val) m.periodSeconds.val >>= _) = _
  rw [hdiv]
  show (if (if ¬ _ = _ then (0 : ℤ) else _) + amount.val > _ then _ else _) = _
  rw [ite_not]
  rfl

/-- Step 11 finds what the record says. -/
theorem effectivePeriodCollected_val {period : BillingPeriod} (hpos : 0 < m.periodSeconds.val)
    (hperiod : billingPeriod m now = .ok period) :
    (effectivePeriodCollected m period).val = collectedAt m now := by
  obtain ⟨-, -, hfloor⟩ := (billingPeriod_ok hpos).mp hperiod
  unfold effectivePeriodCollected collectedAt
  rw [← hfloor]
  by_cases heq : period.start = m.currentPeriodStart
  · rw [if_neg (not_not.mpr heq), if_pos (congrArg _ heq)]
  · rw [if_pos heq, if_neg fun hval => heq (MachineInt.ext hval)]
    rfl

theorem chargePeriod_eq (hpos : 0 < m.periodSeconds.val) (hstart : m.startAt.val ≤ now.val) :
    ∃ period, (effectivePeriodCollected m period).val = collectedAt m now ∧
      chargePeriod m now amount = (do
        let newPeriodCollected ← checkedAddI128 (effectivePeriodCollected m period) amount
        rejectIf (m.maxPerPeriod < newPeriodCollected) (.err .amountExceedsPeriodLimit)
        return (period, newPeriodCollected)) := by
  obtain ⟨period, hperiod⟩ := exists_billingPeriod hpos hstart
  exact ⟨period, effectivePeriodCollected_val hpos hperiod, by rw [chargePeriod, hperiod]; rfl⟩

theorem agrees_period (hpos : 0 < m.periodSeconds.val) (hstart : m.startAt.val ≤ now.val)
    (hamount : 0 < amount.val) (hno : ¬ PeriodOverflows m now amount) :
    Agrees (precheckPeriod (readMandate m now) amount.val now.val) (chargePeriod m now amount) := by
  obtain ⟨period, hcollected, hcharge⟩ := @chargePeriod_eq m now amount hpos hstart
  have hlo := (effectivePeriodCollected m period).lo_le
  unfold PeriodOverflows at hno
  let sum : I128 := ⟨collectedAt m now + amount.val, by omega, by omega⟩
  have hsum : checkedAddI128 (effectivePeriodCollected m period) amount = .ok sum :=
    checkedAddI128_ok.mpr (congrArg (· + amount.val) hcollected.symm)
  rw [precheckPeriod_eq hpos hstart, hcharge, hsum]
  exact agrees_check .amountExceedsPeriodLimit Iff.rfl fun _ => .passes (period, sum)

theorem period_overflows (hpos : 0 < m.periodSeconds.val) (hstart : m.startAt.val ≤ now.val)
    (ho : PeriodOverflows m now amount) :
    precheckPeriod (readMandate m now) amount.val now.val = reject "AmountExceedsPeriodLimit" ∧
      chargePeriod m now amount = .error (.err .arithmeticOverflow) := by
  obtain ⟨period, hcollected, hcharge⟩ := @chargePeriod_eq m now amount hpos hstart
  have hcap := m.maxPerPeriod.le_hi
  unfold PeriodOverflows at ho
  have hsum : checkedAddI128 (effectivePeriodCollected m period) amount
      = .error (.err .arithmeticOverflow) :=
    orOverflow_ofInt?_error.mpr ⟨.inr (by rw [hcollected]; exact ho), rfl⟩
  rw [precheckPeriod_eq hpos hstart, hcharge, hsum, if_pos (by omega)]
  exact ⟨rfl, rfl⟩

/-! ### Steps 9 and 10 -/

/-- Step 9 overflows. -/
def IntervalOverflows (m : Mandate) : Prop :=
  ∃ t, m.lastChargedAt = some t ∧
    18446744073709551615 < t.val + m.minIntervalSeconds.val

theorem chargeTooSoon_iff :
    chargeTooSoon (readMandate m now) now.val = true ↔
      ∃ t, m.lastChargedAt = some t ∧ now.val < t.val + m.minIntervalSeconds.val := by
  have hlast : (readMandate m now).lastChargedAt = m.lastChargedAt.map MachineInt.val := rfl
  unfold chargeTooSoon
  rw [hlast]
  cases m.lastChargedAt with
  | none => simp
  | some t =>
      refine decide_eq_true_iff.trans ⟨fun h => ⟨t, rfl, h⟩, ?_⟩
      rintro ⟨_, ht, h⟩
      cases ht
      exact h

/-- Step 9 is one comparison while the sum fits. -/
theorem checkInterval_eq (hno : ¬ IntervalOverflows m) :
    checkInterval m now
      = rejectIf (chargeTooSoon (readMandate m now) now.val = true) (.err .chargeTooSoon) := by
  have hsoon := @chargeTooSoon_iff m now
  unfold checkInterval
  cases hlast : m.lastChargedAt with
  | none =>
      have hfalse : ¬ chargeTooSoon (readMandate m now) now.val = true := by
        rw [hsoon, hlast]
        simp
      rw [rejectIf, if_neg hfalse]
  | some t =>
      have ht := t.lo_le
      have hmin := m.minIntervalSeconds.lo_le
      -- the contract's checked sum is the precheck's unbounded one
      have hfits : t.val + m.minIntervalSeconds.val ≤ 18446744073709551615 :=
        not_lt.mp fun h => hno ⟨t, hlast, h⟩
      let next : U64 := ⟨t.val + m.minIntervalSeconds.val, by omega, hfits⟩
      have hnext : checkedAddU64 t m.minIntervalSeconds = .ok next := checkedAddU64_ok.mpr rfl
      rw [hlast] at hsoon
      simp only [Option.some.injEq, exists_eq_left'] at hsoon
      show (checkedAddU64 t m.minIntervalSeconds >>= _) = _
      rw [hnext]
      show rejectIf (now < next) _ = _
      simp only [rejectIf, hsoon]
      rfl

theorem interval_overflows (ho : IntervalOverflows m) :
    chargeTooSoon (readMandate m now) now.val = true ∧
      checkInterval m now = .error (.err .arithmeticOverflow) := by
  obtain ⟨t, hlast, ht⟩ := ho
  have hnow := now.le_hi
  refine ⟨chargeTooSoon_iff.mpr ⟨t, hlast, by omega⟩, ?_⟩
  have hsum : checkedAddU64 t m.minIntervalSeconds = .error (.err .arithmeticOverflow) :=
    orOverflow_ofInt?_error.mpr ⟨.inr ht, rfl⟩
  rw [checkInterval, hlast]
  show (checkedAddU64 t m.minIntervalSeconds >>= _) = _
  rw [hsum]
  rfl

/-! ### Steps 2 to 8 -/

/-- Steps 2 to 8 let the charge through. -/
structure ReachesInterval (m : Mandate) (now : U64) (amount : I128) : Prop where
  active : effectiveStatus m now = .active
  started : m.startAt.val ≤ now.val
  positive : 0 < amount.val
  admitted : m.amountRule.Admits amount

/-- Steps 2 to 10 do. -/
structure ReachesPeriod (m : Mandate) (now : U64) (amount : I128) : Prop extends
    ReachesInterval m now amount where
  spaced : ∀ t, m.lastChargedAt = some t → t.val + m.minIntervalSeconds.val ≤ now.val
  below_count :
    m.maxSuccessfulCharges.val ≠ 0 → m.successfulCharges.val < m.maxSuccessfulCharges.val

/-- The contract gets to an addition that overflows. -/
def Overflowing (m : Mandate) (now : U64) (amount : I128) : Prop :=
  (ReachesInterval m now amount ∧ IntervalOverflows m) ∨
    (ReachesPeriod m now amount ∧ PeriodOverflows m now amount)

theorem violatesRule_iff {rule : AmountRule} :
    violatesRule (Client.toDomainAmountRule rule) amount.val = true ↔ ¬ rule.Admits amount := by
  cases rule with
  | fixed fixedAmount =>
      simp [violatesRule, Client.toDomainAmountRule, AmountRule.Admits, MachineInt.val_inj]
  | variableUpTo maxPerCharge =>
      simp [violatesRule, Client.toDomainAmountRule, AmountRule.Admits, MachineInt.le_def]

theorem checkAmountRule_eq (rule : AmountRule) :
    checkAmountRule rule amount
      = rejectIf (violatesRule (Client.toDomainAmountRule rule) amount.val = true)
          (.err .amountExceedsChargeLimit) := by
  simp only [rejectIf, violatesRule_iff]
  by_cases hadmits : rule.Admits amount
  · rw [if_neg (not_not.mpr hadmits)]
    exact checkAmountRule_ok.mpr hadmits
  · rw [if_pos hadmits]
    cases rule with
    | fixed fixedAmount => exact if_pos hadmits
    | variableUpTo maxPerCharge =>
        have hlt : maxPerCharge.val < amount.val := not_le.mp hadmits
        exact if_pos hlt

/-- What the precheck does from step 9 on. -/
def precheckRest (m : Mandate) (now : U64) (amount : I128) : PrecheckResult :=
  if chargeTooSoon (readMandate m now) now.val then reject "ChargeTooSoon"
  else if m.maxSuccessfulCharges.val ≠ 0 ∧
      m.successfulCharges.val ≥ m.maxSuccessfulCharges.val then
    reject "ChargeCountExceeded"
  else precheckPeriod (readMandate m now) amount.val now.val

/-- What the contract does from step 9 on. -/
def chargeRest (m : Mandate) (now : U64) (amount : I128) : Except Failure (BillingPeriod × I128) := do
  checkInterval m now
  checkCount m
  chargePeriod m now amount

theorem agrees_prefix {env : Env T} (hauth : m.merchant ∈ env.authorized)
    (hrest : ReachesInterval m now amount →
      Agrees (precheckRest m now amount) (chargeRest m now amount)) :
    Agrees (precheckCharge (readMandate m now) amount.val now.val)
      (chargeChecks env m now false amount) := by
  have hstatus : (readMandate m now).status = effectiveStatus m now := rfl
  have hsigned : env.requireAuth m.merchant = .ok () := Tx.rejectIf_ok.mpr (not_not.mpr hauth)
  have hunused : rejectIf (false = true) (Failure.err .duplicateCharge) = .ok () := rfl
  unfold precheckCharge chargeChecks
  rw [hstatus, hsigned, hunused]
  -- step 2: the two read the same status, which is what `get_mandate` has returned
  cases hst : effectiveStatus m now with
  | paused => exact .rejects .mandatePaused
  | revoked => exact .rejects .mandateRevoked
  | completed => exact .rejects .mandateCompleted
  | expired => exact .rejects .mandateExpired
  | active =>
      refine agrees_check .chargeBeforeStart Iff.rfl fun hstart => ?_
      refine agrees_check .mandateExpired Iff.rfl fun _ => ?_
      refine agrees_check .invalidAmount Iff.rfl fun hamount => ?_
      show Agrees _ (checkAmountRule m.amountRule amount >>= _)
      rw [checkAmountRule_eq]
      refine agrees_check .amountExceedsChargeLimit Iff.rfl fun hadmitted => ?_
      exact hrest ⟨hst, not_lt.mp hstart, not_le.mp hamount,
        not_not.mp (mt violatesRule_iff.mpr hadmitted)⟩

/-- Steps 2 to 8 done. -/
theorem reached_interval {env : Env T} (hauth : m.merchant ∈ env.authorized)
    (h : ReachesInterval m now amount) :
    precheckCharge (readMandate m now) amount.val now.val = precheckRest m now amount ∧
      chargeChecks env m now false amount = chargeRest m now amount := by
  obtain ⟨hactive, hstart, hamount, hadmitted⟩ := h
  -- step 4 refuses nothing more, as an expired mandate is not active
  have hunexpired := (effectiveStatus_eq_active.mp hactive).2
  have hstatus : nonActiveStatusErrorName (readMandate m now).status = none := by
    show nonActiveStatusErrorName (effectiveStatus m now) = none
    rw [hactive]
    rfl
  constructor
  · unfold precheckCharge
    rw [hstatus]
    refine (if_neg (not_lt.mpr hstart)).trans ((if_neg (not_le.mpr hunexpired)).trans ?_)
    refine (if_neg (not_le.mpr hamount)).trans ((if_neg ?_).trans rfl)
    exact fun hviolates => violatesRule_iff.mp hviolates hadmitted
  · have h₂ : requireActive (effectiveStatus m now) = .ok () := requireActive_ok.mpr hactive
    have h₃ : rejectIf (now < m.startAt) (Failure.err .chargeBeforeStart) = .ok () :=
      Tx.rejectIf_ok.mpr (not_lt.mpr hstart)
    have h₄ : rejectIf (m.expiresAt ≤ now) (Failure.err .mandateExpired) = .ok () :=
      Tx.rejectIf_ok.mpr (not_le.mpr hunexpired)
    have h₅ : env.requireAuth m.merchant = .ok () := Tx.rejectIf_ok.mpr (not_not.mpr hauth)
    have h₇ : rejectIf (amount.val ≤ 0) (Failure.err .invalidAmount) = .ok () :=
      Tx.rejectIf_ok.mpr (not_le.mpr hamount)
    unfold chargeChecks
    have h₈ : checkAmountRule m.amountRule amount = .ok () := checkAmountRule_ok.mpr hadmitted
    rw [h₂, h₃, h₄, h₅, h₇, h₈]
    rfl

/-! ### The precheck mirrors the contract -/

theorem agrees_rest (hpos : 0 < m.periodSeconds.val) (h : ReachesInterval m now amount)
    (hno : ¬ Overflowing m now amount) :
    Agrees (precheckRest m now amount) (chargeRest m now amount) := by
  have hinterval : ¬ IntervalOverflows m := fun ho => hno (.inl ⟨h, ho⟩)
  unfold precheckRest chargeRest
  rw [checkInterval_eq hinterval]
  refine agrees_check .chargeTooSoon Iff.rfl fun hsoon => ?_
  refine agrees_check .chargeCountExceeded Iff.rfl fun hcount => ?_
  refine agrees_period hpos h.started h.positive fun ho => hno (.inr ⟨?_, ho⟩)
  rw [chargeTooSoon_iff] at hsoon
  push Not at hsoon hcount
  exact { h with spaced := hsoon, below_count := fun hne => not_le.mp (hcount hne) }

theorem overflowing_disagrees {env : Env T} (hauth : m.merchant ∈ env.authorized)
    (hpos : 0 < m.periodSeconds.val) (ho : Overflowing m now amount) :
    ∃ name, (name = "ChargeTooSoon" ∨ name = "AmountExceedsPeriodLimit") ∧
      precheckCharge (readMandate m now) amount.val now.val = reject name ∧
      chargeChecks env m now false amount = .error (.err .arithmeticOverflow) := by
  rcases ho with ⟨h, ho⟩ | ⟨h, ho⟩
  · -- a sum beyond the type is beyond any time, too
    obtain ⟨hsoon, hcheck⟩ := @interval_overflows m now ho
    obtain ⟨hpre, hcharge⟩ := reached_interval hauth h
    refine ⟨"ChargeTooSoon", .inl rfl, ?_, ?_⟩
    · rw [hpre, precheckRest, if_pos hsoon]
    · rw [hcharge, chargeRest, hcheck]
      rfl
  · -- and one beyond the type is beyond any cap
    obtain ⟨hperiod, hover⟩ := period_overflows hpos h.started ho
    obtain ⟨hpre, hcharge⟩ := reached_interval hauth h.toReachesInterval
    have hsoon : ¬ chargeTooSoon (readMandate m now) now.val = true := by
      rw [chargeTooSoon_iff]
      rintro ⟨t, hlast, hlt⟩
      have := h.spaced t hlast
      omega
    have hcount : ¬ (m.maxSuccessfulCharges.val ≠ 0 ∧
        m.successfulCharges.val ≥ m.maxSuccessfulCharges.val) := by
      rintro ⟨hne, hle⟩
      have := h.below_count hne
      omega
    refine ⟨"AmountExceedsPeriodLimit", .inr rfl, ?_, ?_⟩
    · rw [hpre, precheckRest, if_neg hsoon, if_neg hcount, hperiod]
    · have h₉ : checkInterval m now = .ok () := checkInterval_ok.mpr h.spaced
      have h₁₀ : checkCount m = .ok () := Tx.rejectIf_ok.mpr hcount
      rw [hcharge, chargeRest, h₉, h₁₀, hover]
      rfl

/-! ### Records that the contract returns -/

/-- The checks of a charge that read the record, the amount and the clock only: steps 2 to 4 and 7
to 12. -/
def PassesChecks (host : Host T) (mandate : Mandate) (now : U64) (amount : I128) : Prop :=
  ∃ checked, chargeChecks (host.env [mandate.merchant]) mandate now false amount = .ok checked

/-- For a record that `get_mandate` has returned: the precheck lets a charge through exactly when
these checks do, and refuses it with the error of every call that the merchant authorises under an
unused charge id. -/
def Mirrors (host : Host T) (l : Ledger T) (mandateId : BytesN) (mandate : Mandate)
    (amount : I128) : Prop :=
  (precheckCharge (Client.toDomainMandate mandate) amount.val l.timestamp.val = .ok none ↔
    PassesChecks host mandate l.timestamp amount) ∧
  (¬ PassesChecks host mandate l.timestamp amount → ∃ e,
    precheckCharge (Client.toDomainMandate mandate) amount.val l.timestamp.val
      = reject (contractErrorName e) ∧
    ∀ chargeId invoiceHash authorized, mandate.merchant ∈ authorized →
      l.storage.hasUsedCharge mandateId chargeId = false →
      (invoke host ⟨.charge mandateId chargeId amount invoiceHash, authorized⟩ l).1
        = .error (.err e))

/-- These checks as inequalities of integers. -/
structure PassesAt (m : Mandate) (now : U64) (amount : I128) : Prop where
  active : m.status = .active
  unexpired : now.val < m.expiresAt.val
  started : m.startAt.val ≤ now.val
  positive : 0 < amount.val
  admitted : m.amountRule.Admits amount
  spaced : ∀ t, m.lastChargedAt = some t → t.val + m.minIntervalSeconds.val ≤ now.val
  below_count :
    m.maxSuccessfulCharges.val ≠ 0 → m.successfulCharges.val < m.maxSuccessfulCharges.val
  below_cap : collectedAt m now + amount.val ≤ m.maxPerPeriod.val

theorem passesChecks_iff {host : Host T} (hpos : 0 < m.periodSeconds.val) :
    PassesChecks host m now amount ↔ PassesAt m now amount := by
  constructor
  · rintro ⟨⟨period, collected⟩, hok⟩
    have hc := chargeChecks_ok.mp hok
    have hcap := hc.below_cap
    rw [hc.collected_eq, effectivePeriodCollected_val hpos hc.period_eq] at hcap
    exact ⟨(effectiveStatus_eq_active.mp hc.active).1, hc.unexpired, hc.started, hc.positive,
      hc.admitted, hc.spaced, hc.below_count, hcap⟩
  · intro h
    obtain ⟨period, hperiod⟩ := exists_billingPeriod hpos h.started
    have hcollected := effectivePeriodCollected_val hpos hperiod
    have hlo := (effectivePeriodCollected m period).lo_le
    have hamount := h.positive
    have hcap := h.below_cap
    have hhi := m.maxPerPeriod.le_hi
    -- what is within the cap fits its type
    let collected : I128 := ⟨collectedAt m now + amount.val, by omega, by omega⟩
    refine ⟨(period, collected), chargeChecks_ok.mpr ?_⟩
    exact
      { active := effectiveStatus_eq_active.mpr ⟨h.active, h.unexpired⟩
        started := h.started
        unexpired := h.unexpired
        merchant_auth := List.mem_singleton_self _
        unused := rfl
        positive := hamount
        admitted := h.admitted
        spaced := h.spaced
        below_count := h.below_count
        period_eq := hperiod
        collected_eq := congrArg (· + amount.val) hcollected.symm
        below_cap := hcap }

theorem effectiveStatus_effective (m : Mandate) (now : U64) :
    effectiveStatus { m with status := effectiveStatus m now } now = effectiveStatus m now := by
  unfold effectiveStatus
  cases m.status with
  | active => by_cases h : now ≥ m.expiresAt <;> simp [h]
  | paused => by_cases h : now ≥ m.expiresAt <;> simp [h]
  | _ => rfl

/-- Who else has authorised the call does not matter. -/
theorem chargeChecks_env {env env' : Env T} {used : Bool} (h : m.merchant ∈ env.authorized)
    (h' : m.merchant ∈ env'.authorized) :
    chargeChecks env m now used amount = chargeChecks env' m now used amount := by
  have hsigned : env.requireAuth m.merchant = .ok () := Tx.rejectIf_ok.mpr (not_not.mpr h)
  have hsigned' : env'.requireAuth m.merchant = .ok () := Tx.rejectIf_ok.mpr (not_not.mpr h')
  unfold chargeChecks
  rw [hsigned, hsigned']

theorem chargeChecks_effective {env : Env T} {used : Bool} :
    chargeChecks env { m with status := effectiveStatus m now } now used amount
      = chargeChecks env m now used amount := by
  unfold chargeChecks
  rw [effectiveStatus_effective]
  rfl

theorem invoke_charge_refused {host : Host T} {l : Ledger T} {mandateId chargeId : BytesN}
    {invoiceHash : BytesN} {authorized : List Address} {f : Failure}
    (hm : l.storage.getMandate mandateId = some m)
    (hf : chargeChecks (host.env authorized) m l.timestamp
      (l.storage.hasUsedCharge mandateId chargeId) amount = .error f) :
    invoke host ⟨.charge mandateId chargeId amount invoiceHash, authorized⟩ l = (.error f, l) := by
  refine Tx.atomic_error.mpr ⟨rfl, l, Tx.run_bind_error.mpr (.inl ?_)⟩
  unfold charge
  rw [Tx.run_get_bind, Tx.run_check_ok (okOr_ok.mpr hm), Tx.run_check_error hf]

/-- There is always an unused charge id. -/
theorem exists_unused (s : Storage) (mandateId : BytesN) :
    ∃ chargeId, s.hasUsedCharge mandateId chargeId = false := by
  have hinfinite : Infinite BytesN :=
    Infinite.of_injective BytesN.mk fun _ _ h => congrArg BytesN.word h
  obtain ⟨chargeId, hfresh⟩ :=
    Infinite.exists_notMem_finset (s.usedCharges.keys.map Prod.snd).toFinset
  refine ⟨chargeId, Bool.eq_false_iff.mpr fun hused => hfresh ?_⟩
  have hmem : (mandateId, chargeId) ∈ s.usedCharges.keys := AList.lookup_isSome.mp hused
  exact List.mem_toFinset.mpr (List.mem_map.mpr ⟨_, hmem, rfl⟩)

/-- What `get_mandate` returns is a stored record with its effective status. -/
theorem getMandate_ok {l : Ledger T} {id : BytesN} {mandate : Mandate}
    (h : getMandate l id = .ok mandate) :
    ∃ m, l.storage.getMandate id = some m ∧
      mandate = { m with status := effectiveStatus m l.timestamp } := by
  obtain ⟨m, hm, hret⟩ := Tx.bind_ok.mp h
  cases hret
  exact ⟨m, okOr_ok.mp hm, rfl⟩

/-- The setting of the results: a record that the contract returns in a reachable state. -/
theorem read_facts {host : Host T} (hinj : Function.Injective host.sha256) {t₀ : U64} {tok₀ : T}
    {steps : List (Step T)} {id : BytesN} {mandate : Mandate}
    (hread : getMandate (run host (genesis t₀ tok₀) steps) id = .ok mandate) :
    0 < mandate.periodSeconds.val ∧
    readMandate mandate (run host (genesis t₀ tok₀) steps).timestamp
      = Client.toDomainMandate mandate := by
  obtain ⟨m, hm, rfl⟩ := getMandate_ok hread
  have hb := (books_run hinj t₀ tok₀ steps).mandate hm
  refine ⟨hb.terms.period_pos, ?_⟩
  rw [readMandate, effectiveStatus_effective]

/-- **The precheck and the contract always agree on whether a charge goes through.** -/
theorem precheck_null_iff {host : Host T} (hinj : Function.Injective host.sha256) {t₀ : U64}
    {tok₀ : T} {steps : List (Step T)} {id : BytesN} {mandate : Mandate} (amount : I128)
    (hread : getMandate (run host (genesis t₀ tok₀) steps) id = .ok mandate) :
    precheckCharge (Client.toDomainMandate mandate) amount.val
        (run host (genesis t₀ tok₀) steps).timestamp.val = .ok none ↔
      PassesChecks host mandate (run host (genesis t₀ tok₀) steps).timestamp amount := by
  obtain ⟨hpos, hdomain⟩ := read_facts hinj hread
  have hauth : mandate.merchant ∈ (host.env [mandate.merchant]).authorized :=
    List.mem_singleton_self _
  rw [← hdomain]
  unfold PassesChecks
  by_cases ho : Overflowing mandate (run host (genesis t₀ tok₀) steps).timestamp amount
  · obtain ⟨name, -, hpre, hcharge⟩ := overflowing_disagrees hauth hpos ho
    rw [hpre, hcharge]
    simp [reject]
  · have hagrees := agrees_prefix hauth fun h => agrees_rest hpos h ho
    generalize precheckCharge _ _ _ = p at hagrees ⊢
    generalize chargeChecks _ _ _ _ _ = c at hagrees ⊢
    cases hagrees with
    | passes a => exact ⟨fun _ => ⟨a, rfl⟩, fun _ => rfl⟩
    | rejects e => simp [reject]

/-- **When does the precheck mirror the contract?** Exactly when the contract does not get to an
addition that overflows. -/
theorem precheck_mirrors_iff {host : Host T} (hinj : Function.Injective host.sha256) {t₀ : U64}
    {tok₀ : T} {steps : List (Step T)} {id : BytesN} {mandate : Mandate} (amount : I128)
    (hread : getMandate (run host (genesis t₀ tok₀) steps) id = .ok mandate) :
    Mirrors host (run host (genesis t₀ tok₀) steps) id mandate amount ↔
      ¬ Overflowing mandate (run host (genesis t₀ tok₀) steps).timestamp amount := by
  have hverdict := precheck_null_iff hinj amount hread
  obtain ⟨hpos, hdomain⟩ := read_facts hinj hread
  obtain ⟨m, hm, hmandate⟩ := getMandate_ok hread
  generalize run host (genesis t₀ tok₀) steps = l at *
  have hauth : mandate.merchant ∈ (host.env [mandate.merchant]).authorized :=
    List.mem_singleton_self _
  -- the call is checked against the stored record, which differs in nothing a check could see
  have hinvoke : ∀ {f : Failure} (chargeId invoiceHash : BytesN) (authorized : List Address),
      mandate.merchant ∈ authorized → l.storage.hasUsedCharge id chargeId = false →
      chargeChecks (host.env [mandate.merchant]) mandate l.timestamp false amount = .error f →
      (invoke host ⟨.charge id chargeId amount invoiceHash, authorized⟩ l).1 = .error f := by
    intro f chargeId invoiceHash authorized hsigned hunused hf
    have henv : chargeChecks (host.env authorized) mandate l.timestamp false amount
        = chargeChecks (host.env [mandate.merchant]) mandate l.timestamp false amount :=
      chargeChecks_env hsigned hauth
    have hchecks : chargeChecks (host.env authorized) m l.timestamp
        (l.storage.hasUsedCharge id chargeId) amount = .error f := by
      rw [hunused, ← chargeChecks_effective, ← hmandate, henv, hf]
    rw [invoke_charge_refused hm hchecks]
  constructor
  · rintro ⟨-, hnames⟩ ho
    obtain ⟨name, hname, hpre, hcharge⟩ := overflowing_disagrees hauth hpos ho
    have hfails : ¬ PassesChecks host mandate l.timestamp amount := by
      rintro ⟨checked, hok⟩
      rw [hcharge] at hok
      cases hok
    obtain ⟨e, he, hall⟩ := hnames hfails
    obtain ⟨chargeId, hunused⟩ := exists_unused l.storage id
    have hout := hall chargeId id [mandate.merchant] (List.mem_singleton_self _) hunused
    rw [hinvoke chargeId id _ (List.mem_singleton_self _) hunused hcharge] at hout
    cases hout
    rw [hdomain] at hpre
    rw [hpre] at he
    rcases hname with rfl | rfl
    · revert he
      decide
    · revert he
      decide
  · intro ho
    refine ⟨hverdict, fun hfails => ?_⟩
    have hagrees := agrees_prefix hauth fun h => agrees_rest hpos h ho
    rw [hdomain] at hagrees
    generalize hc : chargeChecks (host.env [mandate.merchant]) mandate l.timestamp false amount = c
      at hagrees
    generalize precheckCharge _ _ _ = p at hagrees ⊢
    cases hagrees with
    | passes a => exact absurd ⟨a, hc⟩ hfails
    | rejects e =>
        refine ⟨e, rfl, fun chargeId invoiceHash authorized hsigned hunused => ?_⟩
        exact hinvoke chargeId invoiceHash authorized hsigned hunused hc

end

/-! ## An interval as long as it can be -/

/-- At most one charge ever, as far as the interval goes. -/
def longInterval : MandateInput :=
  { mockInput with minIntervalSeconds := .lit 18446744073709551615 (by decide) }

def longIntervalId : BytesN := mockHost.inputId longInterval

/-- It is charged at time `1`. -/
def longIntervalRun : List (Step MockToken) :=
  [.close (.lit 1 (by decide)), .call ⟨.createMandate longInterval, [⟨1⟩]⟩,
    .call ⟨.charge longIntervalId ⟨1⟩ (.lit 2 (by decide)) ⟨0⟩, [⟨2⟩]⟩]

/-- The next charge. -/
def longIntervalNext : Call := ⟨.charge longIntervalId ⟨2⟩ (.lit 1 (by decide)) ⟨0⟩, [⟨2⟩]⟩

/-- The record after the first charge. -/
def longIntervalRecord : Mandate :=
  ((run mockHost mockStart longIntervalRun).storage.getMandate longIntervalId).get (by decide)

theorem longIntervalRun_read :
    getMandate (run mockHost mockStart longIntervalRun) longIntervalId
      = .ok longIntervalRecord := by
  decide

/-- The next charge is too soon for the precheck, and an overflow for the contract. -/
theorem too_soon_overflows :
    getMandate (run mockHost mockStart longIntervalRun) longIntervalId = .ok longIntervalRecord ∧
    precheckCharge (Client.toDomainMandate longIntervalRecord) 1 1 = reject "ChargeTooSoon" ∧
    (invoke mockHost longIntervalNext (run mockHost mockStart longIntervalRun)).1
      = .error (.err .arithmeticOverflow) ∧
    ¬ Mirrors mockHost (run mockHost mockStart longIntervalRun) longIntervalId longIntervalRecord
      (.lit 1 (by decide)) := by
  have hpre : precheckCharge (Client.toDomainMandate longIntervalRecord) 1 1
      = reject "ChargeTooSoon" := by decide
  have hcharge : (invoke mockHost longIntervalNext (run mockHost mockStart longIntervalRun)).1
      = .error (.err .arithmeticOverflow) := by decide
  refine ⟨longIntervalRun_read, hpre, hcharge, fun ⟨hverdict, hnames⟩ => ?_⟩
  have hfails : ¬ PassesChecks mockHost longIntervalRecord
      (run mockHost mockStart longIntervalRun).timestamp (.lit 1 (by decide)) := by
    intro hpasses
    have hnull := hverdict.mpr hpasses
    revert hnull
    decide
  obtain ⟨e, he, hall⟩ := hnames hfails
  have hout := (hall ⟨2⟩ ⟨0⟩ [⟨2⟩] (List.mem_singleton_self _) (by decide)).symm.trans hcharge
  cases hout
  revert he
  decide

theorem precheck_mirrors_iff_mock :
    Mirrors mockHost (run mockHost mockStart longIntervalRun) longIntervalId longIntervalRecord
      (.lit 1 (by decide)) ↔
    ¬ Overflowing longIntervalRecord (run mockHost mockStart longIntervalRun).timestamp
      (.lit 1 (by decide)) :=
  precheck_mirrors_iff encodeDigest_injective (.lit 1 (by decide)) longIntervalRun_read

end Paymap.Api
