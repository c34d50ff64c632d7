import Paymap.Api.Authorizations

set_option autoImplicit false

/-! # Charges that are scheduled

`POST /mandates/:id/charge-authorizations` prechecks a charge at the time of the request
(`apps/api/src/routes/charges.ts`), also when the charge is scheduled for a later time. The precheck
is there to refuse charges that cannot succeed, and some of its rules lift with time: the start of the
mandate, the interval since the last charge, and the cap of a period that ends before the charge is
due. A charge that only such a rule stands against is refused although it would go through when it is
due, and there is no other charge that is refused without being doomed.
-/

namespace Paymap.Api

open Registry
open Relayer (Uuid MandateErrorInfo)
open Tx (rejectIf)

section

variable {T : Type} {host : Host T} {m : Mandate} {now : U64} {amount : I128}

/-! ## The precheck at any time -/

/-- A check that is passed, and what comes after it. -/
theorem else_null_iff {c : Prop} [Decidable c] {name : String} {p : PrecheckResult} :
    (if c then reject name else p) = .ok none ↔ ¬ c ∧ p = .ok none := by
  by_cases hc : c
  · simp [hc, reject]
  · simp [hc]

/-- The precheck of an active record is its six checks and the one of the period. -/
theorem precheckCharge_active (hactive : m.status = .active) :
    precheckCharge (Client.toDomainMandate m) amount.val now.val
      = (if now.val < m.startAt.val then reject "ChargeBeforeStart"
        else if now.val ≥ m.expiresAt.val then reject "MandateExpired"
        else if amount.val ≤ 0 then reject "InvalidAmount"
        else if violatesRule (Client.toDomainAmountRule m.amountRule) amount.val then
          reject "AmountExceedsChargeLimit"
        else precheckRest m now amount) := by
  have hstatus : (Client.toDomainMandate m).status = .active := hactive
  unfold precheckCharge
  rw [hstatus]
  rfl

/-- The precheck of any record with periods lets through what passes the checks of the contract. -/
theorem precheckCharge_null_iff (hpos : 0 < m.periodSeconds.val) :
    precheckCharge (Client.toDomainMandate m) amount.val now.val = .ok none ↔
      PassesAt m now amount := by
  have hperiod := @precheckPeriod_eq m now amount hpos
  constructor
  · intro h
    -- a record that is not active is rejected at once
    have hactive : m.status = .active := by
      have hstatus : (Client.toDomainMandate m).status = m.status := rfl
      unfold precheckCharge at h
      rw [hstatus] at h
      cases hst : m.status with
      | active => rfl
      | _ => rw [hst] at h; cases h
    rw [precheckCharge_active hactive] at h
    unfold precheckRest at h
    simp only [else_null_iff, violatesRule_iff, chargeTooSoon_iff] at h
    obtain ⟨hstart, hend, hamount, hrule, hsoon, hcount, hrest⟩ := h
    have hstarted : m.startAt.val ≤ now.val := not_lt.mp hstart
    rw [hperiod hstarted, else_null_iff] at hrest
    exact
      { active := hactive
        unexpired := not_le.mp hend
        started := hstarted
        positive := not_le.mp hamount
        admitted := not_not.mp hrule
        spaced := fun t ht => not_lt.mp fun hlt => hsoon ⟨t, ht, hlt⟩
        below_count := fun hne => not_le.mp fun hle => hcount ⟨hne, hle⟩
        below_cap := not_lt.mp hrest.1 }
  · intro h
    rw [precheckCharge_active h.active]
    unfold precheckRest
    simp only [else_null_iff, violatesRule_iff, chargeTooSoon_iff]
    refine ⟨not_lt.mpr h.started, not_le.mpr h.unexpired, not_le.mpr h.positive,
      not_not.mpr h.admitted, ?_, ?_, ?_⟩
    · rintro ⟨t, ht, hlt⟩
      exact absurd (h.spaced t ht) (not_le.mpr hlt)
    · rintro ⟨hne, hle⟩
      exact absurd (h.below_count hne) (not_lt.mpr hle)
    · rw [hperiod h.started, else_null_iff]
      exact ⟨not_lt.mpr h.below_cap, rfl⟩

/-- A check gives a verdict when what comes after it does. -/
theorem else_total {c : Prop} [Decidable c] {name : String} {p : PrecheckResult}
    (h : ¬ c → ∃ verdict, p = .ok verdict) :
    ∃ verdict, (if c then reject name else p) = .ok verdict := by
  by_cases hc : c
  · rw [if_pos hc]
    exact ⟨_, rfl⟩
  · rw [if_neg hc]
    exact h hc

/-- The precheck never fails to give one. -/
theorem precheckCharge_total (hpos : 0 < m.periodSeconds.val) :
    ∃ verdict, precheckCharge (Client.toDomainMandate m) amount.val now.val = .ok verdict := by
  by_cases hactive : m.status = .active
  · rw [precheckCharge_active hactive]
    unfold precheckRest
    refine else_total fun hstart => else_total fun _ => else_total fun _ => else_total fun _ => ?_
    refine else_total fun _ => else_total fun _ => ?_
    rw [precheckPeriod_eq hpos (not_lt.mp hstart)]
    exact else_total fun _ => ⟨none, rfl⟩
  · have hstatus : (Client.toDomainMandate m).status = m.status := rfl
    unfold precheckCharge
    rw [hstatus]
    cases hst : m.status with
    | active => exact absurd hst hactive
    | _ => exact ⟨_, rfl⟩

/-! ## The request -/

/-- The request is answered with an error of the contract. -/
def RefusedByContract (reads : IssueReads) (input : CreateChargeInput) (rowId : Uuid)
    (chargeId : BytesN) : Prop :=
  ∃ info, issueChargeAuthorization reads input rowId chargeId = .error (mandateErrorToApiError info)

/-- No error of the contract says that the schedule is too long. -/
theorem too_long_ne (info : MandateErrorInfo) :
    badRequest "SCHEDULE_EXCEEDS_AUTHORIZATION_TTL"
        "scheduledFor is too far in the future for a bounded Soroban authorization."
      ≠ mandateErrorToApiError info := by
  intro h
  obtain ⟨-, hname, hmessage⟩ := RouteError.api.inj h
  rw [← hname] at hmessage
  revert hmessage
  decide

/-- A request that names an amount and a mandate of the merchant is refused with an error of the
contract exactly when the precheck refuses it. -/
theorem refusedByContract_iff {reads : IssueReads} {input : CreateChargeInput} {rowId : Uuid}
    {chargeId : BytesN} {decimals base : ℤ} {mandate : Client.Mandate}
    {verdict : Option MandateErrorInfo} (hdecimals : reads.assetDecimals = some decimals)
    (hamount : Shared.decimalToPositiveBaseUnits input.amount decimals = .ok base)
    (hmandate : reads.mandate = some mandate) (hmerchant : mandate.merchant = reads.walletAddress)
    (hverdict : precheckCharge mandate base (reads.now / 1000) = .ok verdict) :
    RefusedByContract reads input rowId chargeId ↔ verdict ≠ none := by
  have hsame : rejectIf (mandate.merchant ≠ reads.walletAddress) (mandateNotFound reads) = .ok () :=
    Tx.rejectIf_ok.mpr (not_not.mpr hmerchant)
  -- every step before the verdict has its result
  have hok : ∀ {α β : Type} (a : α) (f : α → Except RouteError β), (Except.ok a >>= f) = f a :=
    fun _ _ => rfl
  unfold RefusedByContract issueChargeAuthorization
  rw [hdecimals, hmandate]
  simp only [Option.elim_some, hok, hamount, Except.mapError, hsame, hverdict]
  cases verdict with
  | some info =>
      -- it is the answer, whatever would have come after it
      exact ⟨fun _ => Option.some_ne_none info, fun _ => ⟨info, rfl⟩⟩
  | none =>
      refine ⟨?_, fun hne => absurd rfl hne⟩
      rintro ⟨info, hinfo⟩
      simp only [Option.elim_none, hok] at hinfo
      rcases Tx.bind_error.mp hinfo with hlong | ⟨_, _, hrow⟩
      · exact absurd (Tx.rejectIf_error.mp hlong).2 (too_long_ne info)
      · cases hrow

/-! ## Doomed, or early -/

/-- At `time` the contract accepts a charge of `amount` against the record, as far as the record can
tell. -/
def AcceptedAt (host : Host T) (m : Mandate) (time : U64) (amount : ℤ) : Prop :=
  ∃ a : I128, a.val = amount ∧ PassesChecks host m time a

/-- Something stands against the charge at `now` that need not last: the mandate has not started, the
interval since the last charge has not passed, the period has no room for the amount, or the ledger,
at `ledgerTime`, is ahead of the server and past the end of the mandate. -/
def TooEarly (m : Mandate) (ledgerTime now : U64) (amount : I128) : Prop :=
  now.val < m.startAt.val ∨
  (∃ t, m.lastChargedAt = some t ∧ now.val < t.val + m.minIntervalSeconds.val) ∨
  m.maxPerPeriod.val < collectedAt m now + amount.val ∨
  m.expiresAt.val ≤ ledgerTime.val

/-- A charge that is in order later is in order now, unless it is too early. -/
theorem passesAt_iff_not_tooEarly {ledgerTime time : U64} (hlater : now.val ≤ time.val)
    (hpasses : PassesAt m time amount) :
    PassesAt { m with status := effectiveStatus m ledgerTime } now amount ↔
      ¬ TooEarly m ledgerTime now amount := by
  have hend := hpasses.unexpired
  unfold TooEarly
  push Not
  constructor
  · intro h
    exact ⟨h.started, h.spaced, h.below_cap, (effectiveStatus_eq_active.mp h.active).2⟩
  · rintro ⟨hstart, hspaced, hcap, hunexpired⟩
    exact
      { hpasses with
        active := effectiveStatus_eq_active.mpr ⟨hpasses.active, hunexpired⟩
        unexpired := hlater.trans_lt hend
        started := hstart
        spaced := hspaced
        below_cap := hcap }

/-- **When are only doomed charges refused?** A charge that is scheduled for a time not before the
request is refused in spite of being acceptable then exactly when it is too early at the time of the
request for a charge that is in order when it is due. -/
theorem only_doomed_refused_iff (hinj : Function.Injective host.sha256) {t₀ : U64} {tok₀ : T}
    {steps : List (Step T)} {id : BytesN}
    (hm : (run host (genesis t₀ tok₀) steps).storage.getMandate id = some m)
    {reads : IssueReads} {input : CreateChargeInput} {decimals base : ℤ} {scheduled : U64}
    (hread : reads.mandate = some (readMandate m (run host (genesis t₀ tok₀) steps).timestamp))
    (hmerchant : m.merchant = reads.walletAddress) (hdecimals : reads.assetDecimals = some decimals)
    (hbase : Shared.decimalToPositiveBaseUnits input.amount decimals = .ok base)
    (hnow : now.val = reads.now / 1000)
    (hscheduled : scheduled.val = input.scheduledTime reads.now / 1000)
    (hlater : reads.now ≤ input.scheduledTime reads.now) (rowId : Uuid) (chargeId : BytesN) :
    (RefusedByContract reads input rowId chargeId → ¬ AcceptedAt host m scheduled base) ↔
      ¬ ∃ amount : I128, amount.val = base ∧ PassesAt m scheduled amount ∧
        TooEarly m (run host (genesis t₀ tok₀) steps).timestamp now amount := by
  have hpos := ((books_run hinj t₀ tok₀ steps).mandate hm).terms.period_pos
  generalize run host (genesis t₀ tok₀) steps = l at *
  have htimes : now.val ≤ scheduled.val := by
    rw [hnow, hscheduled]
    exact Int.ediv_le_ediv (by omega) hlater
  -- the route refuses what does not pass the checks now
  have hrefused : ∀ amount : I128, amount.val = base →
      (RefusedByContract reads input rowId chargeId ↔
        ¬ PassesAt { m with status := effectiveStatus m l.timestamp } now amount) := by
    intro amount hamount
    let mandate : Mandate := { m with status := effectiveStatus m l.timestamp }
    obtain ⟨verdict, hverdict⟩ := @precheckCharge_total mandate now amount hpos
    have hnull := @precheckCharge_null_iff mandate now amount hpos
    have hroute : precheckCharge (readMandate m l.timestamp) base (reads.now / 1000)
        = .ok verdict := by
      rw [← hamount, ← hnow]
      exact hverdict
    rw [refusedByContract_iff hdecimals hbase hread hmerchant hroute, ← hnull, hverdict]
    exact not_congr (Except.ok.injEq _ _).to_iff.symm
  constructor
  · rintro hdoomed ⟨amount, hamount, hpasses, hearly⟩
    have hnot := mt (passesAt_iff_not_tooEarly htimes hpasses).mp (not_not.mpr hearly)
    exact hdoomed ((hrefused amount hamount).mpr hnot)
      ⟨amount, hamount, (passesChecks_iff hpos).mpr hpasses⟩
  · rintro hnone hrefusal ⟨amount, hamount, hchecks⟩
    have hpasses : PassesAt m scheduled amount := (passesChecks_iff hpos).mp hchecks
    have hnot := (hrefused amount hamount).mp hrefusal
    rw [passesAt_iff_not_tooEarly htimes hpasses, not_not] at hnot
    exact hnone ⟨amount, hamount, hpasses, hnot⟩

end

/-! ## A charge for tomorrow

The merchant of `mockInput` has charged `5` at time `0`, and asks at time `5` for another charge, of
`3`, at time `20`. The mandate wants ten seconds between two charges. -/

def scheduledRun : List (Step MockToken) :=
  [mockCreation, .call (mockCharge ⟨1⟩ ((MachineInt.ofInt? 5).getD 0))]

/-- The record after the charge. -/
def scheduledRecord : Mandate :=
  ((run mockHost mockStart scheduledRun).storage.getMandate mockId).get (by decide)

def scheduledReads : IssueReads :=
  { mockReads with
    mandate := some (readMandate scheduledRecord (run mockHost mockStart scheduledRun).timestamp)
    now := 5000 }

def scheduledInput : CreateChargeInput := ⟨"3", ⟨0⟩, some 20000⟩

theorem scheduledRun_stored :
    (run mockHost mockStart scheduledRun).storage.getMandate mockId = some scheduledRecord :=
  (Option.some_get _).symm

/-- It is too soon for the charge now, and not when it is due. -/
theorem scheduled_refused :
    (run mockHost mockStart scheduledRun).storage.getMandate mockId = some scheduledRecord ∧
    (scheduledReads.now : ℤ) ≤ scheduledInput.scheduledTime scheduledReads.now ∧
    RefusedByContract scheduledReads scheduledInput 1 ⟨2⟩ ∧
    AcceptedAt mockHost scheduledRecord (.lit 20 (by decide)) 3 := by
  refine ⟨scheduledRun_stored, by decide, ?_, ⟨.lit 3 (by decide), rfl, _, rfl⟩⟩
  exact ⟨Relayer.decodeMandateErrorName "ChargeTooSoon", by decide⟩

theorem only_doomed_refused_iff_scheduled :
    (RefusedByContract scheduledReads scheduledInput 1 ⟨2⟩ →
      ¬ AcceptedAt mockHost scheduledRecord (.lit 20 (by decide)) 3) ↔
    ¬ ∃ amount : I128, amount.val = 3 ∧
      PassesAt scheduledRecord (.lit 20 (by decide)) amount ∧
      TooEarly scheduledRecord (run mockHost mockStart scheduledRun).timestamp
        (.lit 5 (by decide)) amount :=
  only_doomed_refused_iff encodeDigest_injective scheduledRun_stored rfl rfl rfl
    (by decide) rfl rfl (by decide) 1 ⟨2⟩

end Paymap.Api
