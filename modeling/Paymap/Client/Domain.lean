import Paymap.Registry.Lifecycle

set_option autoImplicit false

/-! # The contract's data outside the contract

`packages/contract-client/src/domain.ts`: records and inputs of the contract as the TypeScript
programs see them. A `bigint` and a `number` that holds an integer are integers without bounds here;
ids stay what they are, their hexadecimal form being another notation for the same bytes.
-/

namespace Paymap.Client

open Registry (BytesN Address MandateStatus)

inductive AmountRule where
  | fixed (amount : ℤ)
  | variableUpTo (maxPerCharge : ℤ)
deriving DecidableEq

structure Mandate where
  id : BytesN
  payer : Address
  merchant : Address
  asset : Address
  status : MandateStatus
  amountRule : AmountRule
  maxPerPeriod : ℤ
  periodSeconds : ℤ
  minIntervalSeconds : ℤ
  startAt : ℤ
  expiresAt : ℤ
  maxSuccessfulCharges : ℤ
  successfulCharges : ℤ
  totalCollected : ℤ
  currentPeriodStart : ℤ
  currentPeriodCollected : ℤ
  lastChargedAt : Option ℤ
  createdAt : ℤ
  metadataHash : BytesN
deriving DecidableEq

def toDomainAmountRule : Registry.AmountRule → AmountRule
  | .fixed amount => .fixed amount.val
  | .variableUpTo maxPerCharge => .variableUpTo maxPerCharge.val

def toDomainMandate (mandate : Registry.Mandate) : Mandate where
  id := mandate.id
  payer := mandate.payer
  merchant := mandate.merchant
  asset := mandate.asset
  status := mandate.status
  amountRule := toDomainAmountRule mandate.amountRule
  maxPerPeriod := mandate.maxPerPeriod.val
  periodSeconds := mandate.periodSeconds.val
  minIntervalSeconds := mandate.minIntervalSeconds.val
  startAt := mandate.startAt.val
  expiresAt := mandate.expiresAt.val
  maxSuccessfulCharges := mandate.maxSuccessfulCharges.val
  successfulCharges := mandate.successfulCharges.val
  totalCollected := mandate.totalCollected.val
  currentPeriodStart := mandate.currentPeriodStart.val
  currentPeriodCollected := mandate.currentPeriodCollected.val
  lastChargedAt := mandate.lastChargedAt.map MachineInt.val
  createdAt := mandate.createdAt.val
  metadataHash := mandate.metadataHash

/-! ## Inputs -/

structure MandateInput where
  payer : Address
  merchant : Address
  asset : Address
  amountRule : AmountRule
  maxPerPeriod : ℤ
  periodSeconds : ℤ
  minIntervalSeconds : ℤ
  startAt : ℤ
  expiresAt : ℤ
  maxSuccessfulCharges : ℤ
  metadataHash : BytesN
  clientNonce : BytesN
deriving DecidableEq

/-- `fromDomainAmountRule`, and the encoding of the amount, which throws when it does not fit. -/
def fromDomainAmountRule : AmountRule → Option Registry.AmountRule
  | .fixed amount => (MachineInt.ofInt? amount).map .fixed
  | .variableUpTo maxPerCharge => (MachineInt.ofInt? maxPerCharge).map .variableUpTo

/-- `fromDomainMandateInput`, and the encoding of the numbers. -/
def fromDomainMandateInput (input : MandateInput) : Option Registry.MandateInput := do
  let amountRule ← fromDomainAmountRule input.amountRule
  let maxPerPeriod ← MachineInt.ofInt? input.maxPerPeriod
  let periodSeconds ← MachineInt.ofInt? input.periodSeconds
  let minIntervalSeconds ← MachineInt.ofInt? input.minIntervalSeconds
  let startAt ← MachineInt.ofInt? input.startAt
  let expiresAt ← MachineInt.ofInt? input.expiresAt
  let maxSuccessfulCharges ← MachineInt.ofInt? input.maxSuccessfulCharges
  return {
    payer := input.payer
    merchant := input.merchant
    asset := input.asset
    amountRule := amountRule
    maxPerPeriod := maxPerPeriod
    periodSeconds := periodSeconds
    minIntervalSeconds := minIntervalSeconds
    startAt := startAt
    expiresAt := expiresAt
    maxSuccessfulCharges := maxSuccessfulCharges
    metadataHash := input.metadataHash
    clientNonce := input.clientNonce }

theorem toDomainAmountRule_fromDomain {rule : AmountRule} {rule' : Registry.AmountRule}
    (h : fromDomainAmountRule rule = some rule') : toDomainAmountRule rule' = rule := by
  cases rule with
  | fixed amount =>
      obtain ⟨x, hx, rfl⟩ := Option.map_eq_some_iff.mp h
      exact congrArg AmountRule.fixed (MachineInt.ofInt?_eq_some.mp hx)
  | variableUpTo maxPerCharge =>
      obtain ⟨x, hx, rfl⟩ := Option.map_eq_some_iff.mp h
      exact congrArg AmountRule.variableUpTo (MachineInt.ofInt?_eq_some.mp hx)

end Paymap.Client
