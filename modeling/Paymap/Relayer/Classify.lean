import Paymap.Relayer.Transactions

set_option autoImplicit false

/-! # Failures and retries

The relayer's one table of failures. A contract error reaches the relayer by its name only; it is
decoded in the table of `errors.ts`, whose `retryable` flag decides, and a name that is not in the
table is refused. Failures of the infrastructure are always transient. `nextRetryAt` is the retry
schedule: after the first, second and third attempt a transient failure is retried, after the
fourth it is not.
-/

namespace Paymap.Relayer

open Registry (Error)

/-! ## The error table (`errors.ts`) -/

structure MandateErrorInfo where
  code : ℤ
  name : String
  retryable : Bool
deriving DecidableEq

/-- `MANDATE_ERROR_TABLE`. -/
def mandateErrorTable : List MandateErrorInfo :=
  [ ⟨1, "MandateNotFound", false⟩,
    ⟨2, "MandateNotActive", false⟩,
    ⟨3, "MandatePaused", false⟩,
    ⟨4, "MandateRevoked", false⟩,
    ⟨5, "MandateCompleted", false⟩,
    ⟨6, "MandateExpired", false⟩,
    ⟨7, "ChargeBeforeStart", false⟩,
    ⟨8, "ChargeTooSoon", false⟩,
    ⟨9, "InvalidAmount", false⟩,
    ⟨10, "AmountExceedsChargeLimit", false⟩,
    ⟨11, "AmountExceedsPeriodLimit", false⟩,
    ⟨12, "ChargeCountExceeded", false⟩,
    ⟨13, "DuplicateCharge", false⟩,
    ⟨14, "UnauthorizedMerchant", false⟩,
    ⟨15, "InsufficientAllowance", true⟩,
    ⟨16, "InsufficientBalance", true⟩,
    ⟨17, "PaymentNotFound", false⟩,
    ⟨18, "RefundExceedsPayment", false⟩,
    ⟨19, "DuplicateRefund", false⟩,
    ⟨20, "ArithmeticOverflow", false⟩,
    ⟨21, "InvalidMandateInput", false⟩,
    ⟨22, "DuplicateMandate", false⟩,
    ⟨23, "InvalidStateTransition", false⟩,
    ⟨24, "RefundNotFound", false⟩ ]

/-- `unknown(name)`. -/
def unknownContractError (name : String) : MandateErrorInfo :=
  ⟨-1, "UnknownContractError(" ++ name ++ ")", false⟩

def decodeMandateErrorName (name : String) : MandateErrorInfo :=
  (mandateErrorTable.find? fun info => info.name = name).getD (unknownContractError name)

/-- The name under which the generated client reports an error of the contract. -/
def contractErrorName : Error → String
  | .mandateNotFound => "MandateNotFound"
  | .mandateNotActive => "MandateNotActive"
  | .mandatePaused => "MandatePaused"
  | .mandateRevoked => "MandateRevoked"
  | .mandateCompleted => "MandateCompleted"
  | .mandateExpired => "MandateExpired"
  | .chargeBeforeStart => "ChargeBeforeStart"
  | .chargeTooSoon => "ChargeTooSoon"
  | .invalidAmount => "InvalidAmount"
  | .amountExceedsChargeLimit => "AmountExceedsChargeLimit"
  | .amountExceedsPeriodLimit => "AmountExceedsPeriodLimit"
  | .chargeCountExceeded => "ChargeCountExceeded"
  | .duplicateCharge => "DuplicateCharge"
  | .unauthorizedMerchant => "UnauthorizedMerchant"
  | .insufficientAllowance => "InsufficientAllowance"
  | .insufficientBalance => "InsufficientBalance"
  | .paymentNotFound => "PaymentNotFound"
  | .refundExceedsPayment => "RefundExceedsPayment"
  | .duplicateRefund => "DuplicateRefund"
  | .arithmeticOverflow => "ArithmeticOverflow"
  | .invalidMandateInput => "InvalidMandateInput"
  | .duplicateMandate => "DuplicateMandate"
  | .invalidStateTransition => "InvalidStateTransition"
  | .refundNotFound => "RefundNotFound"

/-! ## Classification (`classify.ts`) -/

inductive FailureClass where
  | permanent
  | transient
deriving DecidableEq, Repr

structure ClassifiedFailure where
  failureClass : FailureClass
  reason : String
deriving DecidableEq

inductive InfraTransientReason where
  | rpcUnavailable
  | sendFailed
  | txNotIncluded
deriving DecidableEq, Repr

def InfraTransientReason.text : InfraTransientReason → String
  | .rpcUnavailable => "RPC_UNAVAILABLE"
  | .sendFailed => "SEND_FAILED"
  | .txNotIncluded => "TX_NOT_INCLUDED"

def classifyInfraFailure (reason : InfraTransientReason) : ClassifiedFailure :=
  ⟨.transient, reason.text⟩

def classifyContractErrorName (name : String) : Except Thrown ClassifiedFailure :=
  let decoded := decodeMandateErrorName name
  if decoded.name.startsWith "UnknownContractError(" then
    .error (.unclassifiableContractError name)
  else .ok ⟨if decoded.retryable then .transient else .permanent, decoded.name⟩

/-- `permanentReason`. -/
def permanentReason (reason : String) : ClassifiedFailure := ⟨.permanent, reason⟩

/-- **Every error of the contract is classified**, and only the two that a top-up can cure are
transient. -/
theorem classify_contractErrorName (e : Error) :
    classifyContractErrorName (contractErrorName e) = .ok
      ⟨if e = .insufficientAllowance ∨ e = .insufficientBalance then .transient else .permanent,
        contractErrorName e⟩ := by
  cases e <;> decide +kernel

/-! ## Retries (`retry-schedule.ts`) -/

/-- `RETRY_DELAYS_MS`: 6, 24 and 72 hours. -/
def retryDelaysMs : List Time := [6, 24, 72].map fun hours => hours * 60 * 60 * 1000

/-- `MAX_ATTEMPTS`. -/
def maxAttempts : ℕ := retryDelaysMs.length + 1

/-- `attemptCount` is the number of attempts already made, the one that failed included. -/
def nextRetryAt (attemptCount : ℕ) (start : Time) : Option Time :=
  match attemptCount with
  | 0 => none
  | n + 1 => retryDelaysMs[n]?.map (start + ·)

/-- When a failure is retried, if it is at all. -/
def retryAt (attemptCount : ℕ) (classified : ClassifiedFailure) (now : Time) : Option Time :=
  if classified.failureClass = .transient then nextRetryAt attemptCount now else none

theorem nextRetryAt_isSome_iff (attemptCount : ℕ) (start : Time) :
    (nextRetryAt attemptCount start).isSome ↔ 0 < attemptCount ∧ attemptCount < maxAttempts := by
  cases attemptCount with
  | zero => simp [nextRetryAt]
  | succ n =>
      have hdue : (nextRetryAt (n + 1) start).isSome ↔ n < retryDelaysMs.length := by
        simp [nextRetryAt]
      rw [hdue, maxAttempts]
      omega

end Paymap.Relayer
