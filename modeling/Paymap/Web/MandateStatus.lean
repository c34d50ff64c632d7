import Paymap.Api.Precheck

set_option autoImplicit false

/-! # When the next charge can be

`apps/web/src/lib/mandate-status.ts`: what the dashboard derives from a mandate it has read. The
effective status and the controls repeat the status rules of the contract (`deriveEffectiveStatus_eq`,
`deriveControlAvailability_ok`). The date of the next charge has no counterpart in the contract: it is
the first instant at which the checks of `charge` pass (`computeNextEligibleChargeDate_exact`).

A `bigint` is an integer without bounds; a `throw` is an `Except.error` with its message.
-/

namespace Paymap.Web

open Api (PassesAt PassesChecks collectedAt passesChecks_iff)
open History (gridFloor)
open Registry
open Tx (rejectIf)

/-! ## Status and controls -/

def deriveEffectiveStatus (mandate : Client.Mandate) (nowUnixSeconds : ℤ) : MandateStatus :=
  if (mandate.status = .active ∨ mandate.status = .paused) ∧ nowUnixSeconds ≥ mandate.expiresAt then
    .expired
  else mandate.status

/-- `MandateControlAvailability`. -/
structure MandateControlAvailability where
  canPause : Bool
  canResume : Bool
  canCancelAutopay : Bool
deriving DecidableEq

def deriveControlAvailability (status : MandateStatus) : MandateControlAvailability where
  canPause := status = .active
  canResume := status = .paused
  canCancelAutopay := status = .active || status = .paused

/-! ## The usage of a period -/

def floorDivBigInt (a b : ℤ) : Except String ℤ := do
  rejectIf (b ≤ 0) "floorDivBigInt: divisor must be positive"
  let q := a.tdiv b
  let r := a.tmod b
  return if r ≠ 0 ∧ a < 0 then q - 1 else q

structure EffectivePeriodUsage where
  periodStart : ℤ
  collected : ℤ
  max : ℤ
deriving DecidableEq

def computeEffectivePeriodUsage (mandate : Client.Mandate) (atUnixSeconds : ℤ) :
    Except String EffectivePeriodUsage := do
  let clamped := if atUnixSeconds > mandate.startAt then atUnixSeconds else mandate.startAt
  let periodIndex ← floorDivBigInt (clamped - mandate.startAt) mandate.periodSeconds
  let periodStart := mandate.startAt + periodIndex * mandate.periodSeconds
  let collected :=
    if periodStart = mandate.currentPeriodStart then mandate.currentPeriodCollected else 0
  return ⟨periodStart, collected, mandate.maxPerPeriod⟩

/-! ## `computeNextEligibleChargeDate` -/

def amountRuleFixedAmount : Client.AmountRule → Option ℤ
  | .fixed amount => some amount
  | .variableUpTo _ => none

/-- What is left of the loop after some of its iterations. -/
def nextEligibleFrom (mandate : Client.Mandate) (probeAmount : ℤ) :
    ℕ → ℤ → Except String (Option ℤ)
  | 0, candidate => return if candidate ≥ mandate.expiresAt then none else some candidate
  | iterations + 1, candidate =>
      if candidate ≥ mandate.expiresAt then return none
      else do
        let usage ← computeEffectivePeriodUsage mandate candidate
        let nextPeriod := usage.periodStart + mandate.periodSeconds
        if usage.collected + probeAmount ≤ usage.max then return some candidate
        else nextEligibleFrom mandate probeAmount iterations nextPeriod

/-- The first date that the interval allows. -/
def firstCandidate (mandate : Client.Mandate) : ℤ :=
  let intervalFloor :=
    match mandate.lastChargedAt with
    | some lastChargedAt => lastChargedAt + mandate.minIntervalSeconds
    | none => mandate.startAt
  if intervalFloor > mandate.startAt then intervalFloor else mandate.startAt

def computeNextEligibleChargeDate (mandate : Client.Mandate) : Except String (Option ℤ) :=
  if mandate.status ≠ .active then return none
  else if mandate.maxSuccessfulCharges ≠ 0 ∧
      mandate.successfulCharges ≥ mandate.maxSuccessfulCharges then
    return none
  else
    nextEligibleFrom mandate ((amountRuleFixedAmount mandate.amountRule).getD 1) 4
      (firstCandidate mandate)

/-! ## They mirror the contract -/

section

variable {m : Mandate}

theorem deriveEffectiveStatus_eq (m : Mandate) (now : U64) :
    deriveEffectiveStatus (Client.toDomainMandate m) now.val = effectiveStatus m now := by
  show (if (m.status = .active ∨ m.status = .paused) ∧ now.val ≥ m.expiresAt.val then _
    else m.status) = _
  unfold effectiveStatus
  cases m.status with
  | active => by_cases h : now ≥ m.expiresAt <;> simp [h, ← MachineInt.le_def]
  | paused => by_cases h : now ≥ m.expiresAt <;> simp [h, ← MachineInt.le_def]
  | _ => simp

/-- The contract accepts what a control offers. Of what it accepts, only the revocation of an expired
mandate is not offered. -/
theorem deriveControlAvailability_ok (status : MandateStatus) :
    ((deriveControlAvailability status).canPause = true ↔ pauseStatus status = .ok ()) ∧
    ((deriveControlAvailability status).canResume = true ↔ resumeStatus status = .ok ()) ∧
    ((deriveControlAvailability status).canCancelAutopay = true ↔
      revokeStatus status = .ok () ∧ status ≠ .expired) := by
  cases status <;> simp [deriveControlAvailability, pauseStatus, resumeStatus, revokeStatus]

/-! ### The period -/

theorem floorDivBigInt_eq {a b : ℤ} (ha : 0 ≤ a) (hb : 0 < b) :
    floorDivBigInt a b = .ok (a / b) := by
  rw [floorDivBigInt, rejectIf, if_neg (not_le.mpr hb), ← Int.tdiv_eq_ediv_of_nonneg ha]
  have hnonneg : ¬(a.tmod b ≠ 0 ∧ a < 0) := fun h => absurd h.2 (not_lt.mpr ha)
  show Except.ok (if a.tmod b ≠ 0 ∧ a < 0 then _ else _) = _
  rw [if_neg hnonneg]

/-- What the record says the period that starts at `periodStart` has collected. -/
def collectedIn (m : Mandate) (periodStart : ℤ) : ℤ :=
  if periodStart = m.currentPeriodStart.val then m.currentPeriodCollected.val else 0

/-- The start of the period of `t`. -/
abbrev periodOf (m : Mandate) (t : ℤ) : ℤ := gridFloor m.startAt.val m.periodSeconds.val t

theorem computeEffectivePeriodUsage_eq (hpos : 0 < m.periodSeconds.val) {t : ℤ}
    (ht : m.startAt.val ≤ t) :
    computeEffectivePeriodUsage (Client.toDomainMandate m) t
      = .ok ⟨periodOf m t, collectedIn m (periodOf m t), m.maxPerPeriod.val⟩ := by
  have hclamped : (if t > m.startAt.val then t else m.startAt.val) = t := by
    by_cases hlt : t > m.startAt.val
    · rw [if_pos hlt]
    · rw [if_neg hlt]
      omega
  have hdiv : floorDivBigInt (t - m.startAt.val) m.periodSeconds.val
      = .ok ((t - m.startAt.val) / m.periodSeconds.val) := floorDivBigInt_eq (by omega) hpos
  show (floorDivBigInt ((if t > m.startAt.val then t else m.startAt.val) - m.startAt.val)
    m.periodSeconds.val >>= _) = _
  rw [hclamped, hdiv]
  rfl

theorem collectedAt_eq (now : U64) : collectedAt m now = collectedIn m (periodOf m now.val) := rfl

/-- **The usage that is shown is the one that `charge` would find.** -/
theorem computeEffectivePeriodUsage_ok (hpos : 0 < m.periodSeconds.val) {now : U64}
    (hstart : m.startAt.val ≤ now.val) : ∃ period, billingPeriod m now = .ok period ∧
      computeEffectivePeriodUsage (Client.toDomainMandate m) now.val
        = .ok ⟨period.start.val, (effectivePeriodCollected m period).val, m.maxPerPeriod.val⟩ := by
  obtain ⟨period, hperiod⟩ := exists_billingPeriod hpos hstart
  obtain ⟨-, -, hfloor⟩ := (billingPeriod_ok hpos).mp hperiod
  refine ⟨period, hperiod, ?_⟩
  rw [computeEffectivePeriodUsage_eq hpos hstart, hfloor,
    Api.effectivePeriodCollected_val hpos hperiod]
  rfl

/-! ## The first date -/

theorem one_fits : -170141183460469231731687303715884105728 ≤ (1 : ℤ) ∧
    (1 : ℤ) ≤ 170141183460469231731687303715884105727 := by decide

/-- The amount the date is computed for: the fixed one, or the smallest. -/
def probe : AmountRule → I128
  | .fixed amount => amount
  | .variableUpTo _ => .lit 1 one_fits

theorem probe_eq (rule : AmountRule) :
    (amountRuleFixedAmount (Client.toDomainAmountRule rule)).getD 1 = (probe rule).val := by
  cases rule with
  | fixed amount => rfl
  | variableUpTo maxPerCharge => rfl

/-- The rule admits the probe, and an empty period has room for it. -/
theorem probe_fits (hterms : m.terms.Valid) : 0 < (probe m.amountRule).val ∧
    m.amountRule.Admits (probe m.amountRule) ∧ (probe m.amountRule).val ≤ m.maxPerPeriod.val := by
  have hcap : 0 < m.amountRule.perChargeCap.val := hterms.cap_pos
  have hle : m.amountRule.perChargeCap.val ≤ m.maxPerPeriod.val := hterms.cap_le
  cases hrule : m.amountRule with
  | fixed amount =>
      rw [hrule] at hcap hle
      exact ⟨hcap, rfl, hle⟩
  | variableUpTo maxPerCharge =>
      rw [hrule] at hcap hle
      change 0 < maxPerCharge.val at hcap
      change maxPerCharge.val ≤ m.maxPerPeriod.val at hle
      have hone : (1 : ℤ) ≤ maxPerCharge.val := hcap
      exact ⟨Int.one_pos, hone, hone.trans hle⟩

/-- The charge count is not exhausted. -/
def CountLeft (m : Mandate) : Prop :=
  m.maxSuccessfulCharges.val ≠ 0 → m.successfulCharges.val < m.maxSuccessfulCharges.val

/-- `t` is a date from which on the probe passes, as far as start and interval go. -/
theorem firstCandidate_le_iff {t : ℤ} : firstCandidate (Client.toDomainMandate m) ≤ t ↔
    m.startAt.val ≤ t ∧ ∀ last, m.lastChargedAt = some last →
      last.val + m.minIntervalSeconds.val ≤ t := by
  have hlast : (Client.toDomainMandate m).lastChargedAt = m.lastChargedAt.map MachineInt.val := rfl
  unfold firstCandidate
  rw [hlast]
  cases hcharged : m.lastChargedAt with
  | none =>
      show (if m.startAt.val > m.startAt.val then _ else m.startAt.val) ≤ t ↔ _
      rw [if_neg (lt_irrefl _)]
      exact ⟨fun h => ⟨h, fun last h' => by cases h'⟩, fun h => h.1⟩
  | some last =>
      show (if last.val + m.minIntervalSeconds.val > m.startAt.val
        then last.val + m.minIntervalSeconds.val else m.startAt.val) ≤ t ↔ _
      simp only [Option.some.injEq, forall_eq']
      by_cases hlt : last.val + m.minIntervalSeconds.val > m.startAt.val
      · rw [if_pos hlt]
        omega
      · rw [if_neg hlt]
        omega

/-- The checks of a probe at `now`: not before the first candidate, not expired, and room in the
period. -/
theorem passesAt_probe_iff (hterms : m.terms.Valid) (hactive : m.status = .active)
    (hcount : CountLeft m) (now : U64) : PassesAt m now (probe m.amountRule) ↔
      firstCandidate (Client.toDomainMandate m) ≤ now.val ∧ now.val < m.expiresAt.val ∧
      collectedIn m (periodOf m now.val) + (probe m.amountRule).val ≤ m.maxPerPeriod.val := by
  obtain ⟨hpositive, hadmitted, -⟩ := probe_fits hterms
  rw [firstCandidate_le_iff, ← collectedAt_eq]
  constructor
  · intro h
    exact ⟨⟨h.started, h.spaced⟩, h.unexpired, h.below_cap⟩
  · rintro ⟨⟨hstart, hspaced⟩, hunexpired, hcap⟩
    exact ⟨hactive, hunexpired, hstart, hpositive, hadmitted, hspaced, hcount, hcap⟩

/-! ### The first room for an amount -/

/-- The candidate, if its period has room for the amount, or else the start of the next period. -/
def openingFrom (m : Mandate) (amount candidate : ℤ) : ℤ :=
  if collectedIn m (periodOf m candidate) + amount ≤ m.maxPerPeriod.val then candidate
  else periodOf m candidate + m.periodSeconds.val

/-- A period without room for an amount that an empty one has room for is the stored one. -/
theorem periodOf_eq_of_full {amount periodStart : ℤ} (hroom : amount ≤ m.maxPerPeriod.val)
    (hfull : m.maxPerPeriod.val < collectedIn m periodStart + amount) :
    periodStart = m.currentPeriodStart.val := by
  by_contra hother
  unfold collectedIn at hfull
  rw [if_neg hother] at hfull
  omega

/-- There is no room before. -/
theorem openingFrom_le (hpos : 0 < m.periodSeconds.val) {amount candidate now : ℤ}
    (hfirst : candidate ≤ now)
    (hcap : collectedIn m (periodOf m now) + amount ≤ m.maxPerPeriod.val) :
    openingFrom m amount candidate ≤ now := by
  unfold openingFrom
  by_cases hroom : collectedIn m (periodOf m candidate) + amount ≤ m.maxPerPeriod.val
  · rw [if_pos hroom]
    exact hfirst
  · rw [if_neg hroom]
    by_contra hearly
    -- until the period is over, it stays full
    have hfloor := History.gridFloor_le m.startAt.val hpos candidate
    have hsame : periodOf m now = periodOf m candidate :=
      History.gridFloor_eq_of_mem m.startAt.val hpos (hfloor.trans hfirst) (not_le.mp hearly)
    rw [hsame] at hcap
    exact hroom hcap

/-- There is room then, for an amount that an empty period has room for. -/
theorem openingFrom_opens (hpos : 0 < m.periodSeconds.val) {amount : ℤ}
    (hroom : amount ≤ m.maxPerPeriod.val) (candidate : ℤ) :
    candidate ≤ openingFrom m amount candidate ∧
      collectedIn m (periodOf m (openingFrom m amount candidate)) + amount ≤ m.maxPerPeriod.val := by
  unfold openingFrom
  by_cases hcap : collectedIn m (periodOf m candidate) + amount ≤ m.maxPerPeriod.val
  · rw [if_pos hcap]
    exact ⟨le_rfl, hcap⟩
  · rw [if_neg hcap]
    have hcurrent := periodOf_eq_of_full hroom (not_le.mp hcap)
    have hnext : periodOf m (periodOf m candidate + m.periodSeconds.val)
        = periodOf m candidate + m.periodSeconds.val := History.gridFloor_next _ hpos _
    refine ⟨(History.lt_gridFloor_add m.startAt.val hpos candidate).le, ?_⟩
    unfold collectedIn
    rw [hnext, if_neg (by omega)]
    omega

/-- Where the loop ends: at a candidate with room in its period, or at the start of the next one. -/
def nextFrom (m : Mandate) (candidate : ℤ) : ℤ := openingFrom m (probe m.amountRule).val candidate

/-- **Two iterations are enough**: after a full period comes an empty one. -/
theorem nextEligibleFrom_eq (hterms : m.terms.Valid) (iterations : ℕ) {candidate : ℤ}
    (hstart : m.startAt.val ≤ candidate) :
    nextEligibleFrom (Client.toDomainMandate m) (probe m.amountRule).val (iterations + 2) candidate
      = .ok (if nextFrom m candidate ≥ m.expiresAt.val then none
          else some (nextFrom m candidate)) := by
  have hpos : 0 < m.periodSeconds.val := hterms.period_pos
  have hlt : candidate < periodOf m candidate + m.periodSeconds.val :=
    History.lt_gridFloor_add m.startAt.val hpos candidate
  obtain ⟨-, -, hroom⟩ := probe_fits hterms
  have hstep : ∀ n t, m.startAt.val ≤ t →
      nextEligibleFrom (Client.toDomainMandate m) (probe m.amountRule).val (n + 1) t
        = if t ≥ m.expiresAt.val then .ok none
          else if collectedIn m (periodOf m t) + (probe m.amountRule).val ≤ m.maxPerPeriod.val then
            .ok (some t)
          else nextEligibleFrom (Client.toDomainMandate m) (probe m.amountRule).val n
            (periodOf m t + m.periodSeconds.val) := by
    intro n t ht
    rw [nextEligibleFrom, computeEffectivePeriodUsage_eq hpos ht]
    rfl
  rw [hstep _ _ hstart]
  unfold nextFrom openingFrom
  by_cases hcap : collectedIn m (periodOf m candidate) + (probe m.amountRule).val
      ≤ m.maxPerPeriod.val
  · rw [if_pos hcap, if_pos hcap]
    split <;> rfl
  · rw [if_neg hcap, if_neg hcap]
    -- the next period is another one than the stored one
    have hcurrent := periodOf_eq_of_full hroom (not_le.mp hcap)
    have hnext : periodOf m (periodOf m candidate + m.periodSeconds.val)
        = periodOf m candidate + m.periodSeconds.val := History.gridFloor_next _ hpos _
    have hempty : collectedIn m (periodOf m candidate + m.periodSeconds.val) = 0 := by
      unfold collectedIn
      rw [if_neg (by omega)]
    have hlate : m.startAt.val ≤ periodOf m candidate + m.periodSeconds.val := by omega
    rw [hstep _ _ hlate, hnext, hempty, zero_add, if_pos hroom]
    by_cases hexpired : candidate ≥ m.expiresAt.val
    · rw [if_pos hexpired, if_pos (by omega)]
    · rw [if_neg hexpired]
      split <;> rfl

/-- The probe passes from the loop's end on, and at no time before. -/
theorem nextFrom_le (hterms : m.terms.Valid) {now : ℤ}
    (hfirst : firstCandidate (Client.toDomainMandate m) ≤ now)
    (hcap : collectedIn m (periodOf m now) + (probe m.amountRule).val ≤ m.maxPerPeriod.val) :
    nextFrom m (firstCandidate (Client.toDomainMandate m)) ≤ now :=
  openingFrom_le hterms.period_pos hfirst hcap

theorem nextFrom_passes (hterms : m.terms.Valid) (candidate : ℤ) :
    candidate ≤ nextFrom m candidate ∧
      collectedIn m (periodOf m (nextFrom m candidate)) + (probe m.amountRule).val
        ≤ m.maxPerPeriod.val :=
  openingFrom_opens hterms.period_pos (probe_fits hterms).2.2 candidate

/-- `next` is the first instant at which the checks of a charge pass, `none` that there is none. -/
def IsNextEligible {T : Type} (host : Host T) (m : Mandate) : Option ℤ → Prop
  | none => ∀ now, ¬ PassesChecks host m now (probe m.amountRule)
  | some next => ∃ date : U64, date.val = next ∧ PassesChecks host m date (probe m.amountRule) ∧
      ∀ now, PassesChecks host m now (probe m.amountRule) → date ≤ now

/-- **The date is exact**, for a record with terms that `create_mandate` lets through. -/
theorem isNextEligible {T : Type} (host : Host T) (hterms : m.terms.Valid)
    (hactive : m.status = .active) : ∃ next,
      computeNextEligibleChargeDate (Client.toDomainMandate m) = .ok next ∧
      IsNextEligible host m next := by
  have hpos : 0 < m.periodSeconds.val := hterms.period_pos
  have hstart : m.startAt.val ≤ firstCandidate (Client.toDomainMandate m) :=
    (firstCandidate_le_iff.mp le_rfl).1
  have hstatus : ¬(Client.toDomainMandate m).status ≠ .active := not_not.mpr hactive
  unfold computeNextEligibleChargeDate
  rw [if_neg hstatus]
  by_cases hcount : CountLeft m
  · have hleft : ¬(m.maxSuccessfulCharges.val ≠ 0 ∧
        m.successfulCharges.val ≥ m.maxSuccessfulCharges.val) :=
      fun h => absurd (hcount h.1) (not_lt.mpr h.2)
    have hprobe := probe_eq m.amountRule
    refine ⟨_, (if_neg hleft).trans ((congrArg (fun amount => nextEligibleFrom _ amount 4 _)
      hprobe).trans (nextEligibleFrom_eq hterms 2 hstart)), ?_⟩
    obtain ⟨hle, hcap⟩ := nextFrom_passes hterms (firstCandidate (Client.toDomainMandate m))
    have hlo := m.startAt.lo_le
    have hhi := m.expiresAt.le_hi
    by_cases hexpired : nextFrom m (firstCandidate (Client.toDomainMandate m)) ≥ m.expiresAt.val
    · rw [if_pos hexpired]
      intro now hpasses
      obtain ⟨hfirst, hunexpired, hroom⟩ :=
        (passesAt_probe_iff hterms hactive hcount now).mp ((passesChecks_iff hpos).mp hpasses)
      have hnow := nextFrom_le hterms hfirst hroom
      omega
    · rw [if_neg hexpired]
      refine ⟨⟨nextFrom m (firstCandidate (Client.toDomainMandate m)), by omega, by omega⟩, rfl,
        ?_, fun now hpasses => ?_⟩
      · exact (passesChecks_iff hpos).mpr ((passesAt_probe_iff hterms hactive hcount _).mpr
          ⟨hle, not_le.mp hexpired, hcap⟩)
      · obtain ⟨hfirst, -, hroom⟩ :=
          (passesAt_probe_iff hterms hactive hcount now).mp ((passesChecks_iff hpos).mp hpasses)
        exact nextFrom_le hterms hfirst hroom
  · have hspent : m.maxSuccessfulCharges.val ≠ 0 ∧
        m.successfulCharges.val ≥ m.maxSuccessfulCharges.val := by
      unfold CountLeft at hcount
      push Not at hcount
      exact hcount
    refine ⟨none, if_pos hspent, fun now hpasses => hcount ?_⟩
    exact ((passesChecks_iff hpos).mp hpasses).below_count

/-- **`computeNextEligibleChargeDate` is exact.** For every record that is stored as active in a
reachable state, the date is the first instant at which the contract would let the fixed amount, or the
smallest one, through its checks, and there is none when there is no such instant; however many more
iterations the loop had, it would say the same; and the usage of a period is the one that `charge` finds. -/
theorem computeNextEligibleChargeDate_exact {T : Type} {host : Host T}
    (hinj : Function.Injective host.sha256) (t₀ : U64) (tok₀ : T) (steps : List (Step T))
    {id : BytesN} {m : Mandate}
    (hstored : (run host (genesis t₀ tok₀) steps).storage.getMandate id = some m)
    (hactive : m.status = .active) :
    (∃ next, computeNextEligibleChargeDate (Client.toDomainMandate m) = .ok next ∧
      IsNextEligible host m next) ∧
    (∀ iterations, nextEligibleFrom (Client.toDomainMandate m) (probe m.amountRule).val
        (iterations + 4) (firstCandidate (Client.toDomainMandate m))
      = nextEligibleFrom (Client.toDomainMandate m) (probe m.amountRule).val 4
        (firstCandidate (Client.toDomainMandate m))) ∧
    ∀ now : U64, m.startAt.val ≤ now.val → ∃ period, billingPeriod m now = .ok period ∧
      computeEffectivePeriodUsage (Client.toDomainMandate m) now.val
        = .ok ⟨period.start.val, (effectivePeriodCollected m period).val, m.maxPerPeriod.val⟩ := by
  have hterms := ((books_run hinj t₀ tok₀ steps).mandate hstored).terms
  have hfirst : m.startAt.val ≤ firstCandidate (Client.toDomainMandate m) :=
    (firstCandidate_le_iff.mp le_rfl).1
  refine ⟨isNextEligible host hterms hactive, fun iterations => ?_,
    fun now hstart => computeEffectivePeriodUsage_ok hterms.period_pos hstart⟩
  rw [nextEligibleFrom_eq hterms (iterations + 2) hfirst, nextEligibleFrom_eq hterms 2 hfirst]

end

/-! ## A full period

Eight units are charged in the first hundred seconds, which is all that a period has room for. -/

def timeOf (n : ℤ) : U64 := (MachineInt.ofInt? n).getD 0

def amountOf (n : ℤ) : I128 := (MachineInt.ofInt? n).getD 0

def fullRun : List (Step MockToken) :=
  [mockCreation, .call (mockCharge ⟨1⟩ (amountOf 5)), .close (timeOf 10),
    .call (mockCharge ⟨2⟩ (amountOf 3))]

def fullRecord : Mandate :=
  ((run mockHost mockStart fullRun).storage.getMandate mockId).get (by decide)

theorem computeNextEligibleChargeDate_exact_full :
    computeNextEligibleChargeDate (Client.toDomainMandate fullRecord) = .ok (some 100) ∧
      IsNextEligible mockHost fullRecord (some 100) := by
  have hdate : computeNextEligibleChargeDate (Client.toDomainMandate fullRecord)
      = .ok (some 100) := by decide
  have hstored : (run mockHost mockStart fullRun).storage.getMandate mockId = some fullRecord := by
    decide
  obtain ⟨⟨next, hnext, hexact⟩, -⟩ := computeNextEligibleChargeDate_exact encodeDigest_injective 0
    mockFunds fullRun hstored (by decide)
  obtain rfl := Except.ok.inj (hdate.symm.trans hnext)
  exact ⟨hdate, hexact⟩

end Paymap.Web
