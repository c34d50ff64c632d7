import Paymap.Lib.MachineInt
import Paymap.Lib.Tx

set_option autoImplicit false

/-! # Data of the mandate registry

The types of `types.rs`, the error codes of `error.rs`, the events of `events.rs` and the checked
arithmetic of `math.rs`. An invocation of the contract ends in a value, in a typed `Error`, or in
a host trap (`require_auth` of an address that did not sign, a token call that panics, a division
by zero); `Failure` is the sum of the last two.
-/

namespace Paymap.Registry

open Tx (rejectIf)

/-! ## Identifiers -/

/-- An account or contract address. -/
structure Address where
  id : Nat
deriving DecidableEq, Repr

/-- A `BytesN<32>`: a mandate, charge, payment or refund id, a nonce, a digest. The contract
compares, stores and hashes such values and never looks inside them. They are kept unbounded
because the digest is assumed injective, which no function into `2 ^ 256` values is. -/
structure BytesN where
  word : Nat
deriving DecidableEq, Repr

/-! ## Errors -/

inductive Error where
  | mandateNotFound
  | mandateNotActive
  | mandatePaused
  | mandateRevoked
  | mandateCompleted
  | mandateExpired
  | chargeBeforeStart
  | chargeTooSoon
  | invalidAmount
  | amountExceedsChargeLimit
  | amountExceedsPeriodLimit
  | chargeCountExceeded
  | duplicateCharge
  | unauthorizedMerchant
  | insufficientAllowance
  | insufficientBalance
  | paymentNotFound
  | refundExceedsPayment
  | duplicateRefund
  | arithmeticOverflow
  | invalidMandateInput
  | duplicateMandate
  | invalidStateTransition
  | refundNotFound
deriving DecidableEq, Repr

/-- Why an invocation did not return a value. -/
inductive Failure where
  | err (e : Error)
  | trap
deriving DecidableEq, Repr

/-- `Option::ok_or`. -/
def okOr {α : Type} (o : Option α) (e : Error) : Except Failure α :=
  match o with
  | some a => .ok a
  | none => .error (.err e)

@[simp] theorem okOr_ok {α : Type} {o : Option α} {e : Error} {a : α} :
    okOr o e = .ok a ↔ o = some a := by
  cases o <;> simp [okOr]

@[simp] theorem okOr_error {α : Type} {o : Option α} {e : Error} {f : Failure} :
    okOr o e = .error f ↔ o = none ∧ .err e = f := by
  cases o <;> simp [okOr]

/-! ## Mandates and receipts -/

inductive MandateStatus where
  | active
  | paused
  | revoked
  | completed
  | expired
deriving DecidableEq, Repr

/-- `fixed a`: every charge is exactly `a`. `variableUpTo a`: every charge is at most `a`. -/
inductive AmountRule where
  | fixed (amount : I128)
  | variableUpTo (maxPerCharge : I128)
deriving DecidableEq

structure Mandate where
  id : BytesN
  payer : Address
  merchant : Address
  asset : Address
  status : MandateStatus
  amountRule : AmountRule
  maxPerPeriod : I128
  periodSeconds : U64
  minIntervalSeconds : U64
  startAt : U64
  expiresAt : U64
  maxSuccessfulCharges : U32
  successfulCharges : U32
  totalCollected : I128
  currentPeriodStart : U64
  currentPeriodCollected : I128
  lastChargedAt : Option U64
  createdAt : U64
  metadataHash : BytesN
deriving DecidableEq

/-- Immutable receipt of one successful charge. -/
structure PaymentReceipt where
  paymentId : BytesN
  mandateId : BytesN
  chargeId : BytesN
  payer : Address
  merchant : Address
  asset : Address
  amount : I128
  invoiceHash : BytesN
  timestamp : U64
deriving DecidableEq

/-- Immutable receipt of one successful refund. -/
structure RefundReceipt where
  refundId : BytesN
  paymentId : BytesN
  amount : I128
  timestamp : U64
deriving DecidableEq

/-- The argument of `createMandate`. -/
structure MandateInput where
  payer : Address
  merchant : Address
  asset : Address
  amountRule : AmountRule
  maxPerPeriod : I128
  periodSeconds : U64
  minIntervalSeconds : U64
  startAt : U64
  expiresAt : U64
  maxSuccessfulCharges : U32
  metadataHash : BytesN
  clientNonce : BytesN
deriving DecidableEq

/-! ## Events -/

inductive Event where
  | mandateCreated (mandateId : BytesN) (payer merchant asset : Address) (amountRule : AmountRule)
      (maxPerPeriod : I128) (periodSeconds minIntervalSeconds startAt expiresAt : U64)
      (maxSuccessfulCharges : U32) (metadataHash : BytesN) (timestamp : U64)
  | mandatePaused (mandateId : BytesN) (payer merchant : Address) (timestamp : U64)
  | mandateResumed (mandateId : BytesN) (payer merchant : Address) (timestamp : U64)
  | mandateRevoked (mandateId : BytesN) (payer merchant : Address) (timestamp : U64)
  | mandateCompleted (mandateId : BytesN) (payer merchant : Address) (successfulCharges : U32)
      (timestamp : U64)
  | chargeSucceeded (mandateId : BytesN) (payer merchant : Address) (paymentId chargeId : BytesN)
      (asset : Address) (amount : I128) (invoiceHash : BytesN) (periodIndex : U64)
      (successfulChargeNumber : U32) (timestamp : U64)
  | refundSucceeded (mandateId : BytesN) (payer merchant : Address) (refundId paymentId : BytesN)
      (asset : Address) (amount refundedTotalAfter : I128) (timestamp : U64)
deriving DecidableEq

/-! ## Checked arithmetic

`math.rs`: overflow and underflow are the typed error `ArithmeticOverflow`. The one raw operator
the contract uses, `/` on `u64`, panics on a zero divisor. -/

/-- `.ok_or(Error::ArithmeticOverflow)`. -/
def orOverflow {α : Type} (o : Option α) : Except Failure α := okOr o .arithmeticOverflow

def checkedAddI128 (a b : I128) : Except Failure I128 := orOverflow (a.checkedAdd b)

def checkedAddU64 (a b : U64) : Except Failure U64 := orOverflow (a.checkedAdd b)

def checkedSubU64 (a b : U64) : Except Failure U64 := orOverflow (a.checkedSub b)

def checkedMulU64 (a b : U64) : Except Failure U64 := orOverflow (a.checkedMul b)

def checkedAddU32 (a b : U32) : Except Failure U32 := orOverflow (a.checkedAdd b)

/-- `a / b` on `u64`. -/
def divU64 (a b : U64) : Except Failure U64 :=
  match a.checkedDiv b with
  | some x => .ok x
  | none => .error .trap

section Arithmetic

variable {lo hi : Int}

theorem orOverflow_ofInt?_ok {n : Int} {x : MachineInt lo hi} :
    orOverflow (MachineInt.ofInt? n) = .ok x ↔ x.val = n := by
  rw [orOverflow, okOr_ok, MachineInt.ofInt?_eq_some]

theorem orOverflow_ofInt?_error {n : Int} {f : Failure} :
    orOverflow (MachineInt.ofInt? n : Option (MachineInt lo hi)) = .error f ↔
      (n < lo ∨ hi < n) ∧ f = .err .arithmeticOverflow := by
  rw [orOverflow, okOr_error, MachineInt.ofInt?_eq_none, eq_comm]

end Arithmetic

@[simp] theorem checkedAddI128_ok {a b x : I128} :
    checkedAddI128 a b = .ok x ↔ x.val = a.val + b.val := orOverflow_ofInt?_ok

@[simp] theorem checkedAddU64_ok {a b x : U64} :
    checkedAddU64 a b = .ok x ↔ x.val = a.val + b.val := orOverflow_ofInt?_ok

@[simp] theorem checkedSubU64_ok {a b x : U64} :
    checkedSubU64 a b = .ok x ↔ x.val = a.val - b.val := orOverflow_ofInt?_ok

@[simp] theorem checkedMulU64_ok {a b x : U64} :
    checkedMulU64 a b = .ok x ↔ x.val = a.val * b.val := orOverflow_ofInt?_ok

@[simp] theorem checkedAddU32_ok {a b x : U32} :
    checkedAddU32 a b = .ok x ↔ x.val = a.val + b.val := orOverflow_ofInt?_ok

@[simp] theorem divU64_ok {a b x : U64} :
    divU64 a b = .ok x ↔ b.val ≠ 0 ∧ x.val = a.val / b.val := by
  rw [← MachineInt.checkedDiv_eq_some]
  unfold divU64
  cases a.checkedDiv b <;> simp

end Paymap.Registry
