import Paymap.Api.CheckoutSessions
import Paymap.Api.Precheck
import Paymap.Relayer.Pipeline

set_option autoImplicit false

/-! # Charge authorizations

`POST /mandates/:id/charge-authorizations` (`apps/api/src/routes/charges.ts`) fixes the ledger at
which the merchant's signature expires: an hour's worth of ledgers after the charge is scheduled. The
relayer retries a charge six hours after its first failure, and later still after the next ones
(`apps/relayer/src/retry-schedule.ts`), and before every attempt asks whether the signature has
expired. The two are put on one time line here, and no retry is ever in time.

The request is followed from its authentication on; its `Idempotency-Key` only decides whether the
row is made now or was made before.
-/

namespace Paymap.Api

open Registry (Address BytesN)
open Relayer (Uuid Time ChargeAuthorization MandateErrorInfo PipelineDeps checkExpiration nextRetryAt
  permanentReason)
open Tx (rejectIf)

/-! ## The route -/

def ledgerSecondsEstimate : ℤ := 5

def authorizationExecutionMarginLedgers : ℤ := 720

def maxAuthorizationTtlLedgers : ℤ := 400000

/-- `CONTRACT_ERROR_HTTP_STATUS`. -/
def contractErrorHttpStatus : List (String × ℕ) :=
  [("MandateNotFound", 404), ("MandateNotActive", 409), ("MandatePaused", 409),
    ("MandateRevoked", 409), ("MandateCompleted", 409), ("MandateExpired", 409),
    ("ChargeBeforeStart", 409), ("ChargeTooSoon", 409), ("InvalidAmount", 422),
    ("AmountExceedsChargeLimit", 422), ("AmountExceedsPeriodLimit", 422),
    ("ChargeCountExceeded", 409), ("DuplicateCharge", 409), ("UnauthorizedMerchant", 403),
    ("InsufficientAllowance", 402), ("InsufficientBalance", 402), ("PaymentNotFound", 404),
    ("RefundExceedsPayment", 422), ("DuplicateRefund", 409), ("ArithmeticOverflow", 500),
    ("InvalidMandateInput", 400), ("DuplicateMandate", 409), ("InvalidStateTransition", 409),
    ("RefundNotFound", 404)]

def mandateErrorToApiError (info : MandateErrorInfo) : RouteError :=
  .api ((contractErrorHttpStatus.lookup info.name).getD 502) info.name
    ("Contract rejected the request: " ++ info.name ++ ".")

/-- `Math.ceil(a / b)`. -/
def mathCeilDiv (a b : ℤ) : ℤ := -(-a / b)

/-- The ledger at which the signature expires; times are in milliseconds. -/
def signatureExpirationLedger (latestLedger : ℕ) (scheduledFor now : ℤ) : ℤ :=
  let scheduledDelaySeconds := max 0 (mathCeilDiv (scheduledFor - now) 1000)
  latestLedger + mathCeilDiv scheduledDelaySeconds ledgerSecondsEstimate
    + authorizationExecutionMarginLedgers

/-- `CreateChargeSchema`. -/
structure CreateChargeInput where
  amount : String
  invoiceHash : BytesN
  /-- A date may be before the epoch. -/
  scheduledFor : Option ℤ

/-- What the route reads: the merchant of the request, the mandate it names (`mandateIdText` is its id
as a text), the decimals of the product behind it, the record on the chain, clock and ledger. -/
structure IssueReads where
  merchantId : Uuid
  walletAddress : Address
  mandateId : BytesN
  mandateIdText : String
  assetDecimals : Option ℤ
  mandate : Option Client.Mandate
  now : Time
  latestLedger : ℕ

def mandateNotFound (reads : IssueReads) : RouteError :=
  .api 404 "MandateNotFound" ("No mandate \"" ++ reads.mandateIdText ++ "\".")

/-- When the charge is scheduled. -/
def CreateChargeInput.scheduledTime (input : CreateChargeInput) (now : Time) : ℤ :=
  input.scheduledFor.getD now

/-- `POST /mandates/:id/charge-authorizations`: the row it makes, under a new id and a random charge
id. A date before the epoch is as due as the epoch. -/
def issueChargeAuthorization (reads : IssueReads) (input : CreateChargeInput) (id : Uuid)
    (chargeId : BytesN) : Except RouteError ChargeAuthorization := do
  let decimals ← reads.assetDecimals.elim (.error mandateNotLinkedToProduct) .ok
  let amountBaseUnits ← (Shared.decimalToPositiveBaseUnits input.amount decimals).mapError
    fun e => badRequest "INVALID_AMOUNT" e.message
  let mandate ← reads.mandate.elim (.error (mandateNotFound reads)) .ok
  rejectIf (mandate.merchant ≠ reads.walletAddress) (mandateNotFound reads)
  let precheckError ← (precheckCharge mandate amountBaseUnits (reads.now / 1000)).mapError
    fun _ => .unexpected
  precheckError.elim (.ok ()) fun info => .error (mandateErrorToApiError info)
  let scheduledFor := input.scheduledTime reads.now
  let expirationLedger := signatureExpirationLedger reads.latestLedger scheduledFor reads.now
  rejectIf (expirationLedger - reads.latestLedger > maxAuthorizationTtlLedgers)
    (badRequest "SCHEDULE_EXCEEDS_AUTHORIZATION_TTL"
      "scheduledFor is too far in the future for a bounded Soroban authorization.")
  return {
    id := id
    merchantId := reads.merchantId
    mandateId := reads.mandateId
    chargeId := chargeId
    amount := amountBaseUnits
    invoiceHash := input.invoiceHash
    scheduledFor := scheduledFor.toNat
    signedEntryCiphertext := none
    signatureExpirationLedger := expirationLedger.toNat
    status := .pending
    consumedAt := none }

theorem issueChargeAuthorization_ok {reads : IssueReads} {input : CreateChargeInput} {id : Uuid}
    {chargeId : BytesN} {authorization : ChargeAuthorization}
    (h : issueChargeAuthorization reads input id chargeId = .ok authorization) :
    authorization.scheduledFor = (input.scheduledTime reads.now).toNat ∧
      authorization.signatureExpirationLedger = (signatureExpirationLedger reads.latestLedger
        (input.scheduledTime reads.now) reads.now).toNat := by
  unfold issueChargeAuthorization at h
  simp only [Tx.bind_ok] at h
  obtain ⟨decimals, -, amount, -, mandate, -, u₁, -, precheckError, -, u₂, -, u₃, -, hret⟩ := h
  cases hret
  exact ⟨rfl, rfl⟩

/-! ## One time line -/

/-- One ledger closes every `LEDGER_SECONDS_ESTIMATE` seconds; `latest` is the latest one at a
time. -/
structure LedgerClock (latest : Time → ℕ) : Prop where
  mono : Monotone latest
  closes : ∀ t, latest (t + 5000) = latest t + 1

theorem LedgerClock.latest_add {latest : Time → ℕ} (h : LedgerClock latest) (t : Time) (n : ℕ) :
    latest (t + 5000 * n) = latest t + n := by
  induction n with
  | zero => rfl
  | succ n ih =>
      have hnext := h.closes (t + 5000 * n)
      rw [show t + 5000 * n + 5000 = t + 5000 * (n + 1) by ring, ih] at hnext
      omega

/-- At least as many ledgers close as fit between two times. -/
theorem LedgerClock.latest_le {latest : Time → ℕ} (h : LedgerClock latest) {t t' : ℕ} (hle : t ≤ t') :
    latest t + (t' - t) / 5000 ≤ latest t' := by
  have hfit : t + 5000 * ((t' - t) / 5000) ≤ t' := by omega
  rw [← h.latest_add]
  exact h.mono hfit

/-- Attempt `k` on the charge of an authorization that was completed at `completedAt` is due at a
time, when every attempt before it was claimed once it was due, and failed. -/
inductive Due (authorization : ChargeAuthorization) (completedAt : Time) : ℕ → Time → Prop
  | first : Due authorization completedAt 1 (max authorization.scheduledFor completedAt)
  | retry {k : ℕ} {due failedAt next : Time} (earlier : Due authorization completedAt k due)
      (claimed : due ≤ failedAt) (retried : nextRetryAt k failedAt = some next) :
      Due authorization completedAt (k + 1) next

/-- A retry is at least six hours after the failure. -/
theorem nextRetryAt_late {k : ℕ} {failedAt next : Time} (h : nextRetryAt k failedAt = some next) :
    failedAt + 21600000 ≤ next := by
  cases k with
  | zero => cases h
  | succ n =>
      obtain ⟨delay, hdelay, rfl⟩ := Option.map_eq_some_iff.mp h
      have hall : ∀ delay ∈ Relayer.retryDelaysMs, 21600000 ≤ delay := by decide
      exact Nat.add_le_add_left (hall delay (List.mem_of_getElem? hdelay)) failedAt

/-- No attempt is due before the charge is scheduled and its authorization complete. -/
theorem Due.late {authorization : ChargeAuthorization} {completedAt : Time} {k : ℕ} {due : Time}
    (h : Due authorization completedAt k due) :
    authorization.scheduledFor ≤ due ∧ completedAt ≤ due := by
  induction h with
  | first => exact ⟨le_max_left _ _, le_max_right _ _⟩
  | retry earlier claimed retried ih =>
      -- a retry is due after the attempt that failed
      have hlater : _ ≤ _ :=
        claimed.trans ((Nat.le_add_right _ _).trans (nextRetryAt_late retried))
      exact ⟨ih.1.trans hlater, ih.2.trans hlater⟩

/-! ## The expiry check -/

/-- Told the latest ledger, the expiry check of the pipeline lets the attempt go on. -/
def PassesExpiry (deps : PipelineDeps) (authorization : ChargeAuthorization) (latestLedger : ℕ) :
    Prop :=
  ∃ k, checkExpiration deps authorization = .call .getLatestLedgerSequence k ∧
    k (some latestLedger) = .ret (.ok ())

/-- Told the latest ledger, it ends the request for good. -/
def FailsExpired (deps : PipelineDeps) (authorization : ChargeAuthorization) (latestLedger : ℕ) :
    Prop :=
  ∃ k, checkExpiration deps authorization = .call .getLatestLedgerSequence k ∧
    k (some latestLedger) = (do
      Relayer.commit [.updateAuthorization authorization.id .expired none]
      return .error (permanentReason "MERCHANT_AUTHORIZATION_EXPIRED"))

theorem failsExpired_of_le {deps : PipelineDeps} {authorization : ChargeAuthorization}
    {latestLedger : ℕ} (hdeps : deps.offersLatestLedger = true)
    (hle : authorization.signatureExpirationLedger ≤ latestLedger) :
    FailsExpired deps authorization latestLedger := by
  unfold FailsExpired checkExpiration
  rw [if_pos hdeps]
  exact ⟨_, rfl, if_pos hle⟩

theorem passesExpiry_iff {deps : PipelineDeps} {authorization : ChargeAuthorization}
    {latestLedger : ℕ} (hdeps : deps.offersLatestLedger = true) :
    PassesExpiry deps authorization latestLedger ↔
      latestLedger < authorization.signatureExpirationLedger := by
  constructor
  · rintro ⟨k, hcheck, hpasses⟩
    -- the check goes on in one way only, and that one would fail
    by_contra hnot
    obtain ⟨k', hcheck', hfails⟩ := @failsExpired_of_le deps _ _ hdeps (not_lt.mp hnot)
    obtain ⟨-, hk⟩ := Prog.call.inj (hcheck.symm.trans hcheck')
    obtain rfl := eq_of_heq hk
    cases hpasses.symm.trans hfails
  · intro hlt
    unfold PassesExpiry checkExpiration
    rw [if_pos hdeps]
    exact ⟨_, rfl, if_neg (not_le.mpr hlt)⟩

/-! ## No retry is in time -/

/-- The signature expires less than six hours' worth of ledgers after the charge is scheduled. -/
theorem signatureExpirationLedger_le {latestLedger now next : ℕ} {scheduledFor : ℤ}
    (hscheduled : scheduledFor.toNat + 21600000 ≤ next) (hnow : now + 21600000 ≤ next) :
    (signatureExpirationLedger latestLedger scheduledFor now).toNat
      ≤ latestLedger + (next - now) / 5000 := by
  unfold signatureExpirationLedger mathCeilDiv ledgerSecondsEstimate
    authorizationExecutionMarginLedgers
  dsimp only
  omega

/-- Every attempt that the schedule retries finds the signature alive when the retry is due. -/
def OutlivesRetries (deps : PipelineDeps) (latest : Time → ℕ) (authorization : ChargeAuthorization)
    (completedAt : Time) : Prop :=
  ∀ k due failedAt next, Due authorization completedAt k due → due ≤ failedAt →
    nextRetryAt k failedAt = some next → PassesExpiry deps authorization (latest next)

/-- **No authorization outlives a retry.** Whatever it was issued for, and whenever it was completed,
each retry that the schedule gives finds it expired and ends the request for good; and the schedule
gives one after the first failure. -/
theorem never_outlives_retries {deps : PipelineDeps} (hdeps : deps.offersLatestLedger = true)
    {latest : Time → ℕ} (hclock : LedgerClock latest) {reads : IssueReads}
    (hledger : latest reads.now = reads.latestLedger) {input : CreateChargeInput} {id : Uuid}
    {chargeId : BytesN} {authorization : ChargeAuthorization}
    (hissued : issueChargeAuthorization reads input id chargeId = .ok authorization)
    {completedAt : Time} (hcompleted : reads.now ≤ completedAt) :
    ¬ OutlivesRetries deps latest authorization completedAt ∧
    ∀ k due failedAt next, Due authorization completedAt k due → due ≤ failedAt →
      nextRetryAt k failedAt = some next → FailsExpired deps authorization (latest next) := by
  obtain ⟨hscheduled, hexpiration⟩ := issueChargeAuthorization_ok hissued
  have hexpired : ∀ k due failedAt next, Due authorization completedAt k due → due ≤ failedAt →
      nextRetryAt k failedAt = some next →
        authorization.signatureExpirationLedger ≤ latest next := by
    intro k due failedAt next hdue hclaimed hretried
    -- six hours lie between the retry and the failure, and so the schedule and the issue
    obtain ⟨hafter, hcomplete⟩ := hdue.late
    have hlate := nextRetryAt_late hretried
    have hfrom : (input.scheduledTime reads.now).toNat + 21600000 ≤ next :=
      (Nat.add_le_add_right (hscheduled.symm.le.trans (hafter.trans hclaimed)) _).trans hlate
    have hnow : reads.now + 21600000 ≤ next :=
      (Nat.add_le_add_right (hcompleted.trans (hcomplete.trans hclaimed)) _).trans hlate
    have hclosed : latest reads.now + (next - reads.now) / 5000 ≤ latest next :=
      hclock.latest_le ((Nat.le_add_right _ _).trans hnow)
    rw [hledger] at hclosed
    rw [hexpiration]
    exact (signatureExpirationLedger_le hfrom hnow).trans hclosed
  refine ⟨fun houtlives => ?_, fun k due failedAt next hdue hclaimed hretried =>
    failsExpired_of_le hdeps (hexpired k due failedAt next hdue hclaimed hretried)⟩
  -- the first attempt fails as soon as it is due
  have hpasses := houtlives 1 _ _ _ .first le_rfl rfl
  exact absurd ((passesExpiry_iff hdeps).mp hpasses)
    (not_lt.mpr (hexpired 1 _ _ _ .first le_rfl rfl))

/-! ## A charge that is due at once

It is issued at ledger `0` for the mandate of `mockInput`, completed in the same second, and fails
when it is tried. The signature expires at ledger `720`; the retry is due at ledger `4320`. -/

def mockReads : IssueReads where
  merchantId := 1
  walletAddress := ⟨2⟩
  mandateId := Registry.mockId
  mandateIdText := "7"
  assetDecimals := some 0
  mandate := some (Client.toDomainMandate (Registry.newMandate Registry.mockId 0 Registry.mockInput))
  now := 0
  latestLedger := 0

def mockChargeInput : CreateChargeInput := ⟨"5", ⟨0⟩, none⟩

def mockAuthorization : ChargeAuthorization where
  id := 1
  merchantId := 1
  mandateId := Registry.mockId
  chargeId := ⟨1⟩
  amount := 5
  invoiceHash := ⟨0⟩
  scheduledFor := 0
  signedEntryCiphertext := none
  signatureExpirationLedger := 720
  status := .pending
  consumedAt := none

theorem mockAuthorization_issued :
    issueChargeAuthorization mockReads mockChargeInput 1 ⟨1⟩ = .ok mockAuthorization := by
  decide

/-- Ledgers close at whole multiples of five seconds. -/
def mockLedgers (t : Time) : ℕ := t / 5000

theorem mockLedgers_clock : LedgerClock mockLedgers where
  mono := fun _ _ h => Nat.div_le_div_right h
  closes := fun t => Nat.add_div_right t (by omega)

/-- A gateway that reads ledger numbers. -/
def mockDeps : PipelineDeps := ⟨true, some 0, fun ciphertext _ => some ciphertext⟩

theorem mockAuthorization_expires :
    issueChargeAuthorization mockReads mockChargeInput 1 ⟨1⟩ = .ok mockAuthorization ∧
      nextRetryAt 1 0 = some 21600000 ∧
      ¬ OutlivesRetries mockDeps mockLedgers mockAuthorization 0 := by
  refine ⟨mockAuthorization_issued, rfl, fun houtlives => ?_⟩
  have hpasses := houtlives 1 _ 0 21600000 .first le_rfl rfl
  have halive : mockLedgers 21600000 < 720 := (passesExpiry_iff rfl).mp hpasses
  exact absurd halive (by decide)

theorem never_outlives_retries_mock :
    ¬ OutlivesRetries mockDeps mockLedgers mockAuthorization 0 :=
  (never_outlives_retries rfl mockLedgers_clock rfl mockAuthorization_issued le_rfl).1

end Paymap.Api
