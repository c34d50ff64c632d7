import Paymap.Lib.History
import Paymap.Registry.Lifecycle

set_option autoImplicit false

/-! # Charge execution

`charge.rs`: `charge` and `getPayment`. The validation order is part of the contract, because it
decides which error a caller sees; the numbered steps below are the source's.

Steps 2 to 12 read the stored mandate, the clock, the replay guard and the amount, and nothing
else: they are one pure function, `chargeChecks`. Steps 13 and 14 and the transfer are token calls,
and the accounting that follows is `account`, which can still fail (a counter at its maximum) after
the money has moved.

`billingPeriod_ok` says what step 11 computes: the grid point at or before `now`, with no overflow
whenever `now` is not before the start.
-/

namespace Paymap.Registry

open Tx (rejectIf)
open History (gridFloor)

/-! ## Steps 2 to 12 -/

/-- Step 2. -/
def requireActive : MandateStatus → Except Failure Unit
  | .active => .ok ()
  | .paused => .error (.err .mandatePaused)
  | .revoked => .error (.err .mandateRevoked)
  | .completed => .error (.err .mandateCompleted)
  | .expired => .error (.err .mandateExpired)

@[simp] theorem requireActive_ok {st : MandateStatus} {u : Unit} :
    requireActive st = .ok u ↔ st = .active := by
  cases st <;> simp [requireActive]

/-- `amount` is one the rule lets through. -/
def AmountRule.Admits : AmountRule → I128 → Prop
  | .fixed fixedAmount, amount => amount = fixedAmount
  | .variableUpTo maxPerCharge, amount => amount ≤ maxPerCharge

instance (rule : AmountRule) (amount : I128) : Decidable (rule.Admits amount) :=
  match rule with
  | .fixed fixedAmount => inferInstanceAs (Decidable (amount = fixedAmount))
  | .variableUpTo maxPerCharge => inferInstanceAs (Decidable (amount ≤ maxPerCharge))

theorem AmountRule.Admits.le_cap {rule : AmountRule} {amount : I128} (h : rule.Admits amount) :
    amount.val ≤ rule.perChargeCap.val := by
  cases rule with
  | fixed fixedAmount => exact (congrArg MachineInt.val (h : amount = fixedAmount)).le
  | variableUpTo maxPerCharge => exact h

/-- Step 8. -/
def checkAmountRule (rule : AmountRule) (amount : I128) : Except Failure Unit :=
  match rule with
  | .fixed fixedAmount => rejectIf (amount ≠ fixedAmount) (.err .amountExceedsChargeLimit)
  | .variableUpTo maxPerCharge =>
      rejectIf (maxPerCharge < amount) (.err .amountExceedsChargeLimit)

@[simp] theorem checkAmountRule_ok {rule : AmountRule} {amount : I128} {u : Unit} :
    checkAmountRule rule amount = .ok u ↔ rule.Admits amount := by
  cases rule with
  | fixed fixedAmount => simp [checkAmountRule, AmountRule.Admits]
  | variableUpTo maxPerCharge =>
      simp [checkAmountRule, AmountRule.Admits, MachineInt.not_lt]

/-- Step 9. The very first charge has nothing to be too soon after. -/
def checkInterval (mandate : Mandate) (now : U64) : Except Failure Unit :=
  match mandate.lastChargedAt with
  | none => .ok ()
  | some lastChargedAt => do
      let nextEligibleAt ← checkedAddU64 lastChargedAt mandate.minIntervalSeconds
      rejectIf (now < nextEligibleAt) (.err .chargeTooSoon)

/-- The interval check as an inequality of integers: when the sum does not fit it is larger than
any clock value, so the overflow error rejects nothing that would have passed. -/
@[simp] theorem checkInterval_ok {m : Mandate} {now : U64} {u : Unit} :
    checkInterval m now = .ok u ↔
      ∀ t, m.lastChargedAt = some t → t.val + m.minIntervalSeconds.val ≤ now.val := by
  unfold checkInterval
  cases hlast : m.lastChargedAt with
  | none => simp
  | some last =>
      simp only [Tx.bind_ok, checkedAddU64_ok, Tx.rejectIf_ok, MachineInt.lt_def, Option.some.injEq,
        forall_eq']
      constructor
      · rintro ⟨next, hnext, hle⟩
        omega
      · intro hle
        have hlo := last.lo_le
        have hlo' := m.minIntervalSeconds.lo_le
        have hhi := now.le_hi
        exact ⟨⟨last.val + m.minIntervalSeconds.val, by omega, by omega⟩, rfl, by simpa using hle⟩

/-- Step 10. `0` means unlimited. -/
def checkCount (mandate : Mandate) : Except Failure Unit :=
  rejectIf (mandate.maxSuccessfulCharges.val ≠ 0 ∧
    mandate.maxSuccessfulCharges ≤ mandate.successfulCharges) (.err .chargeCountExceeded)

/-- The number and the left boundary of a billing period. -/
structure BillingPeriod where
  index : U64
  start : U64
deriving DecidableEq

/-- Step 11. -/
def billingPeriod (mandate : Mandate) (now : U64) : Except Failure BillingPeriod := do
  let elapsedSinceStart ← checkedSubU64 now mandate.startAt
  let periodIndex ← divU64 elapsedSinceStart mandate.periodSeconds
  let offset ← checkedMulU64 periodIndex mandate.periodSeconds
  let computedPeriodStart ← checkedAddU64 mandate.startAt offset
  return ⟨periodIndex, computedPeriodStart⟩

/-- What the period has collected so far; a boundary that is not the stored one is a new period. -/
def effectivePeriodCollected (mandate : Mandate) (period : BillingPeriod) : I128 :=
  if period.start ≠ mandate.currentPeriodStart then 0
  else mandate.currentPeriodCollected

/-- Steps 2 to 12, in order: the period the charge falls into and what that period will have
collected. `used` is the answer of the replay guard. -/
def chargeChecks {T : Type} (env : Env T) (mandate : Mandate) (now : U64) (used : Bool)
    (amount : I128) : Except Failure (BillingPeriod × I128) := do
  requireActive (effectiveStatus mandate now)
  rejectIf (now < mandate.startAt) (.err .chargeBeforeStart)
  rejectIf (mandate.expiresAt ≤ now) (.err .mandateExpired)
  env.requireAuth mandate.merchant
  rejectIf used (.err .duplicateCharge)
  rejectIf (amount.val ≤ 0) (.err .invalidAmount)
  checkAmountRule mandate.amountRule amount
  checkInterval mandate now
  checkCount mandate
  let period ← billingPeriod mandate now
  let newPeriodCollected ← checkedAddI128 (effectivePeriodCollected mandate period) amount
  rejectIf (mandate.maxPerPeriod < newPeriodCollected) (.err .amountExceedsPeriodLimit)
  return (period, newPeriodCollected)

/-! ## Accounting -/

/-- A non-zero cap completes the mandate the instant the count equals it. -/
def becameCompleted (mandate : Mandate) : Bool :=
  mandate.maxSuccessfulCharges.val ≠ 0 && mandate.successfulCharges = mandate.maxSuccessfulCharges

/-- The mandate record after a transfer of `amount` at `now`. -/
def account (mandate : Mandate) (period : BillingPeriod) (newPeriodCollected amount : I128)
    (now : U64) : Except Failure Mandate := do
  let successfulCharges ← checkedAddU32 mandate.successfulCharges (.lit 1 (by decide))
  let totalCollected ← checkedAddI128 mandate.totalCollected amount
  let mandate := { mandate with
    successfulCharges := successfulCharges
    totalCollected := totalCollected
    currentPeriodStart := period.start
    currentPeriodCollected := newPeriodCollected
    lastChargedAt := some now }
  return if becameCompleted mandate then { mandate with status := .completed } else mandate

section

variable {T : Type}

def newReceipt (host : Host T) (mandate : Mandate) (mandateId chargeId : BytesN) (amount : I128)
    (invoiceHash : BytesN) (now : U64) : PaymentReceipt where
  paymentId := host.derivePaymentId mandateId chargeId
  mandateId := mandateId
  chargeId := chargeId
  payer := mandate.payer
  merchant := mandate.merchant
  asset := mandate.asset
  amount := amount
  invoiceHash := invoiceHash
  timestamp := now

def chargeSucceededEvent (mandate : Mandate) (period : BillingPeriod) (receipt : PaymentReceipt) :
    Event :=
  .chargeSucceeded receipt.mandateId mandate.payer mandate.merchant receipt.paymentId
    receipt.chargeId mandate.asset receipt.amount receipt.invoiceHash period.index
    mandate.successfulCharges receipt.timestamp

def mandateCompletedEvent (mandateId : BytesN) (mandate : Mandate) (now : U64) : Event :=
  .mandateCompleted mandateId mandate.payer mandate.merchant mandate.successfulCharges now

/-! ## `charge` -/

/-- Everything a charge writes: the record, the replay guard, the receipt and the events. -/
def recordCharge (mandate : Mandate) (period : BillingPeriod) (receipt : PaymentReceipt) :
    HostM T Unit := do
  modifyStorage (·.setMandate mandate)
  modifyStorage (·.markChargeUsed receipt.mandateId receipt.chargeId)
  modifyStorage (·.setPayment receipt)
  publish (chargeSucceededEvent mandate period receipt)
  if becameCompleted mandate then
    publish (mandateCompletedEvent receipt.mandateId mandate receipt.timestamp)

def charge (env : Env T) (mandateId chargeId : BytesN) (amount : I128) (invoiceHash : BytesN) :
    HostM T PaymentReceipt := do
  let ledger ← get
  let mandate ← liftExcept (okOr (ledger.storage.getMandate mandateId) .mandateNotFound)
  let now := ledger.timestamp
  let used := ledger.storage.hasUsedCharge mandateId chargeId
  let checked ← liftExcept (chargeChecks env mandate now used amount)
  -- steps 13 and 14: advisory, the transfer is the authority
  let allowance ← env.allowance mandate.asset mandate.payer env.currentContractAddress
  liftExcept (rejectIf (allowance < amount) (Failure.err .insufficientAllowance))
  let balance ← env.balance mandate.asset mandate.payer
  liftExcept (rejectIf (balance < amount) (Failure.err .insufficientBalance))
  env.transferFrom mandate.asset env.currentContractAddress mandate.payer mandate.merchant amount
  let mandate' ← liftExcept (account mandate checked.1 checked.2 amount now)
  let receipt := newReceipt env.toHost mandate' mandateId chargeId amount invoiceHash now
  recordCharge mandate' checked.1 receipt
  return receipt

/-- Read-only. -/
def getPayment (ledger : Ledger T) (paymentId : BytesN) : Except Failure PaymentReceipt :=
  okOr (ledger.storage.getPayment paymentId) .paymentNotFound

/-! ## What the pure steps compute -/

/-- **Step 11 is the grid of billing periods.** From the start on it cannot overflow, underflow or
divide by zero: the quotient, the product and the boundary are all at most `now`. -/
theorem billingPeriod_ok {m : Mandate} {now : U64} {p : BillingPeriod}
    (hpos : 0 < m.periodSeconds.val) :
    billingPeriod m now = .ok p ↔
      m.startAt.val ≤ now.val ∧
      p.index.val = (now.val - m.startAt.val) / m.periodSeconds.val ∧
      p.start.val = gridFloor m.startAt.val m.periodSeconds.val now.val := by
  have hs := m.startAt.lo_le
  have hn := now.le_hi
  simp only [billingPeriod, Tx.bind_ok, checkedSubU64_ok, divU64_ok, checkedMulU64_ok,
    checkedAddU64_ok, pure, Except.pure, Except.ok.injEq]
  constructor
  · rintro ⟨elapsed, helapsed, index, ⟨-, hindex⟩, offset, hoffset, start, hstart, rfl⟩
    have hlo := elapsed.lo_le
    rw [helapsed] at hindex
    rw [hoffset, hindex] at hstart
    exact ⟨by omega, hindex, hstart⟩
  · rintro ⟨hle, hindex, hstart⟩
    have hfloor := History.gridFloor_le m.startAt.val hpos now.val
    have hq : 0 ≤ (now.val - m.startAt.val) / m.periodSeconds.val :=
      Int.ediv_nonneg (by omega) hpos.le
    have hqw := Int.mul_nonneg hq hpos.le
    unfold gridFloor at hstart hfloor
    refine ⟨⟨now.val - m.startAt.val, by omega, by omega⟩, rfl, p.index, ⟨by omega, hindex⟩,
      ⟨(now.val - m.startAt.val) / m.periodSeconds.val * m.periodSeconds.val, hqw, by omega⟩,
      by rw [hindex], p.start, hstart, rfl⟩

/-- `p` exists from the start on. -/
theorem exists_billingPeriod {m : Mandate} {now : U64} (hpos : 0 < m.periodSeconds.val)
    (hle : m.startAt.val ≤ now.val) : ∃ p, billingPeriod m now = .ok p := by
  have hs := m.startAt.lo_le
  have hn := now.le_hi
  have hfloor := History.gridFloor_le m.startAt.val hpos now.val
  have hq : 0 ≤ (now.val - m.startAt.val) / m.periodSeconds.val :=
    Int.ediv_nonneg (by omega) hpos.le
  have hq' : (now.val - m.startAt.val) / m.periodSeconds.val ≤ now.val - m.startAt.val :=
    Int.ediv_le_self _ (by omega)
  have hqw := Int.mul_nonneg hq hpos.le
  unfold gridFloor at hfloor
  refine ⟨⟨⟨(now.val - m.startAt.val) / m.periodSeconds.val, hq, by omega⟩,
    ⟨gridFloor m.startAt.val m.periodSeconds.val now.val, ?_, ?_⟩⟩,
    (billingPeriod_ok hpos).mpr ⟨hle, rfl, rfl⟩⟩
  · unfold gridFloor; omega
  · unfold gridFloor; omega

/-- What steps 2 to 12 let through, as inequalities of integers. -/
structure Chargeable (authorized : List Address) (m : Mandate) (now : U64) (used : Bool) (amount : I128)
    (period : BillingPeriod) (collected : I128) : Prop where
  active : effectiveStatus m now = .active
  started : m.startAt.val ≤ now.val
  unexpired : now.val < m.expiresAt.val
  merchant_auth : m.merchant ∈ authorized
  unused : used = false
  positive : 0 < amount.val
  admitted : m.amountRule.Admits amount
  spaced : ∀ t, m.lastChargedAt = some t → t.val + m.minIntervalSeconds.val ≤ now.val
  below_count :
    m.maxSuccessfulCharges.val ≠ 0 → m.successfulCharges.val < m.maxSuccessfulCharges.val
  period_eq : billingPeriod m now = .ok period
  collected_eq : collected.val = (effectivePeriodCollected m period).val + amount.val
  below_cap : collected.val ≤ m.maxPerPeriod.val

theorem chargeChecks_ok {env : Env T} {m : Mandate} {now : U64} {used : Bool} {amount : I128}
    {period : BillingPeriod} {collected : I128} :
    chargeChecks env m now used amount = .ok (period, collected) ↔
      Chargeable env.authorized m now used amount period collected := by
  simp only [chargeChecks, checkCount, Env.requireAuth, Tx.bind_ok, Tx.rejectIf_ok,
    requireActive_ok, checkAmountRule_ok, checkInterval_ok, checkedAddI128_ok, MachineInt.lt_def,
    MachineInt.le_def, pure, Except.pure, Except.ok.injEq, Prod.mk.injEq, exists_and_left,
    exists_const, not_not]
  constructor
  · rintro ⟨hactive, hstart, hexp, hauth, hused, hpos, hrule, hint, hcount, p, hperiod, x, hx,
      hcap, rfl, rfl⟩
    exact ⟨hactive, by omega, by omega, hauth, by simpa using hused, by omega, hrule, hint,
      by omega, hperiod, hx, by omega⟩
  · intro h
    have hcount := h.below_count
    exact ⟨h.active, not_lt.mpr h.started, not_le.mpr h.unexpired, h.merchant_auth,
      by simp [h.unused], not_le.mpr h.positive, h.admitted, h.spaced, by omega, period,
      h.period_eq, collected, h.collected_eq, not_lt.mpr h.below_cap, rfl, rfl⟩

/-- `m'` is `m` after a charge. -/
structure Accounted (m : Mandate) (period : BillingPeriod) (collected amount : I128) (now : U64)
    (m' : Mandate) : Prop where
  count_eq : m'.successfulCharges.val = m.successfulCharges.val + 1
  total_eq : m'.totalCollected.val = m.totalCollected.val + amount.val
  status_eq : m'.status = if becameCompleted m' then .completed else m.status
  frame : m' = { m with
    status := m'.status
    successfulCharges := m'.successfulCharges
    totalCollected := m'.totalCollected
    currentPeriodStart := period.start
    currentPeriodCollected := collected
    lastChargedAt := some now }

theorem account_ok {m m' : Mandate} {period : BillingPeriod} {collected amount : I128} {now : U64} :
    account m period collected amount now = .ok m' ↔
      Accounted m period collected amount now m' := by
  simp only [account, Tx.bind_ok, checkedAddU32_ok, checkedAddI128_ok, MachineInt.val_lit, pure,
    Except.pure, Except.ok.injEq]
  constructor
  · rintro ⟨count, hcount, total, htotal, rfl⟩
    split
    · rename_i hdone
      exact ⟨hcount, htotal, (if_pos hdone).symm, rfl⟩
    · rename_i hdone
      exact ⟨hcount, htotal, (if_neg hdone).symm, rfl⟩
  · rintro ⟨hcount, htotal, hstatus, hframe⟩
    refine ⟨m'.successfulCharges, hcount, m'.totalCollected, htotal, ?_⟩
    -- completion reads only the count and its cap, which the status write leaves alone
    have hdone : becameCompleted { m with
        successfulCharges := m'.successfulCharges
        totalCollected := m'.totalCollected
        currentPeriodStart := period.start
        currentPeriodCollected := collected
        lastChargedAt := some now } = becameCompleted m' := by
      rw [hframe]; rfl
    rw [hdone]
    refine Eq.trans ?_ hframe.symm
    by_cases h : becameCompleted m'
    · rw [if_pos h] at hstatus ⊢
      rw [hstatus]
    · rw [if_neg h] at hstatus ⊢
      rw [hstatus]

/-! ## What a successful charge does -/

/-- The token lets the charge through: both advisory answers are large enough and the transfer
succeeds, leaving the tokens in `t'`. -/
def ChargePaid (env : Env T) (t : T) (m : Mandate) (amount : I128) (t' : T) : Prop :=
  ∃ allowance t₁ balance t₂,
    env.token.allowance t m.asset m.payer env.currentContractAddress = some (allowance, t₁) ∧
    amount ≤ allowance ∧
    env.token.balance t₁ m.asset m.payer = some (balance, t₂) ∧ amount ≤ balance ∧
    env.token.transferFrom t₂ env.callAuth m.asset env.currentContractAddress m.payer m.merchant
      amount = some t'

/-- The ledger after a charge that made the record `m'` and left the tokens in `t`. -/
def chargedLedger (l : Ledger T) (m' : Mandate) (period : BillingPeriod)
    (receipt : PaymentReceipt) (t : T) : Ledger T :=
  { l with
    storage := ((l.storage.setMandate m').markChargeUsed receipt.mandateId
      receipt.chargeId).setPayment receipt
    events := l.events ++ chargeSucceededEvent m' period receipt ::
      if becameCompleted m' then [mandateCompletedEvent receipt.mandateId m' receipt.timestamp]
      else []
    token := t }

section

variable (l : Ledger T) (m' : Mandate) (period : BillingPeriod) (receipt : PaymentReceipt) (t : T)

theorem getMandate_chargedLedger (id : BytesN) :
    (chargedLedger l m' period receipt t).storage.getMandate id
      = if id = m'.id then some m' else l.storage.getMandate id :=
  Storage.getMandate_setMandate l.storage m' id

theorem getPayment_chargedLedger (pid : BytesN) :
    (chargedLedger l m' period receipt t).storage.getPayment pid
      = if pid = receipt.paymentId then some receipt else l.storage.getPayment pid :=
  Storage.getPayment_setPayment ((l.storage.setMandate m').markChargeUsed _ _) receipt pid

theorem hasUsedCharge_chargedLedger (mandateId chargeId : BytesN) :
    (chargedLedger l m' period receipt t).storage.hasUsedCharge mandateId chargeId ↔
      (mandateId = receipt.mandateId ∧ chargeId = receipt.chargeId) ∨
        l.storage.hasUsedCharge mandateId chargeId :=
  Storage.hasUsedCharge_markChargeUsed (l.storage.setMandate m') _ _ _ _

end

theorem run_recordCharge (m' : Mandate) (period : BillingPeriod) (receipt : PaymentReceipt)
    (l : Ledger T) :
    (recordCharge m' period receipt).run l
      = .ok () (chargedLedger l m' period receipt l.token) := by
  unfold recordCharge chargedLedger
  by_cases h : becameCompleted m'
  · rw [if_pos h, if_pos h]
    simp [modifyStorage, publish]
  · rw [if_neg h, if_neg h]
    simp [modifyStorage, publish]

/-- **Everything a successful charge is and does.** -/
theorem charge_ok {env : Env T} {mandateId chargeId : BytesN} {amount : I128}
    {invoiceHash : BytesN} {l l' : Ledger T} {r : PaymentReceipt} :
    (charge env mandateId chargeId amount invoiceHash).run l = .ok r l' ↔
      ∃ m period collected t m',
        l.storage.getMandate mandateId = some m ∧
        Chargeable env.authorized m l.timestamp (l.storage.hasUsedCharge mandateId chargeId) amount period
          collected ∧
        ChargePaid env l.token m amount t ∧
        Accounted m period collected amount l.timestamp m' ∧
        r = newReceipt env.toHost m' mandateId chargeId amount invoiceHash l.timestamp ∧
        l' = chargedLedger l m' period r t := by
  constructor
  · intro h
    unfold charge at h
    obtain ⟨_, _, hget, h⟩ := Tx.run_bind_ok.mp h
    cases hget
    obtain ⟨m, _, hm, h⟩ := Tx.run_bind_ok.mp h
    obtain ⟨hstored, rfl⟩ := Tx.run_liftExcept_ok.mp hm
    obtain ⟨⟨period, collected⟩, _, hchecked, h⟩ := Tx.run_bind_ok.mp h
    obtain ⟨hchecks, rfl⟩ := Tx.run_liftExcept_ok.mp hchecked
    obtain ⟨allowance, _, hquery, h⟩ := Tx.run_bind_ok.mp h
    obtain ⟨t₁, hallowance, rfl⟩ := run_query_ok.mp hquery
    obtain ⟨_, _, henough, h⟩ := Tx.run_bind_ok.mp h
    obtain ⟨hale, rfl⟩ := Tx.run_liftExcept_ok.mp henough
    obtain ⟨balance, _, hquery, h⟩ := Tx.run_bind_ok.mp h
    obtain ⟨t₂, hbalance, rfl⟩ := run_query_ok.mp hquery
    obtain ⟨_, _, henough, h⟩ := Tx.run_bind_ok.mp h
    obtain ⟨hble, rfl⟩ := Tx.run_liftExcept_ok.mp henough
    obtain ⟨_, _, hexecute, h⟩ := Tx.run_bind_ok.mp h
    obtain ⟨t, htransfer, rfl⟩ := run_execute_ok.mp hexecute
    obtain ⟨m', _, haccount, h⟩ := Tx.run_bind_ok.mp h
    obtain ⟨haccounted, rfl⟩ := Tx.run_liftExcept_ok.mp haccount
    obtain ⟨_, _, hrecord, h⟩ := Tx.run_bind_ok.mp h
    rw [run_recordCharge] at hrecord
    cases hrecord
    cases h
    rw [Tx.rejectIf_ok, MachineInt.not_lt] at hale hble
    exact ⟨m, period, collected, t, m', okOr_ok.mp hstored, chargeChecks_ok.mp hchecks,
      ⟨allowance, t₁, balance, t₂, hallowance, hale, hbalance, hble, htransfer⟩,
      account_ok.mp haccounted, rfl, rfl⟩
  · rintro ⟨m, period, collected, t, m', hm, hchecks, ⟨a, t₁, b, t₂, ha, hale, hb, hble, ht⟩, hacc,
      rfl, rfl⟩
    simp only [charge, Env.allowance, Env.balance, Env.transferFrom, Tx.run_bind_ok,
      Tx.run_liftExcept_ok, EStateM.run_get, EStateM.run_pure, EStateM.Result.ok.injEq, okOr_ok,
      run_query_ok, run_execute_ok, run_recordCharge, Tx.rejectIf_ok, account_ok, MachineInt.not_lt]
    exact ⟨l, l, ⟨rfl, rfl⟩, m, l, ⟨hm, rfl⟩, (period, collected), l,
      ⟨chargeChecks_ok.mpr hchecks, rfl⟩, a, _, ⟨t₁, ha, rfl⟩, (), _, ⟨hale, rfl⟩, b, _,
      ⟨t₂, hb, rfl⟩, (), _, ⟨hble, rfl⟩, (), _, ⟨t, ht, rfl⟩, m', _, ⟨hacc, rfl⟩, (), _,
      ⟨trivial, rfl⟩, rfl, rfl⟩

/-! ## What a failing charge is -/

/-- Why a charge fails. Only the checks answer anything of their own choosing. -/
inductive ChargeFailure (env : Env T) (l : Ledger T) (mandateId chargeId : BytesN) (amount : I128) :
    Failure → Prop where
  | notFound (missing : l.storage.getMandate mandateId = none) :
      ChargeFailure env l mandateId chargeId amount (.err .mandateNotFound)
  | checks (m : Mandate) (f : Failure) (stored : l.storage.getMandate mandateId = some m)
      (answer : chargeChecks env m l.timestamp (l.storage.hasUsedCharge mandateId chargeId) amount
        = .error f) : ChargeFailure env l mandateId chargeId amount f
  | allowance (m : Mandate) (x : I128) (t : T) (stored : l.storage.getMandate mandateId = some m)
      (answer : env.token.allowance l.token m.asset m.payer env.currentContractAddress = some (x, t))
      (lt : x < amount) : ChargeFailure env l mandateId chargeId amount (.err .insufficientAllowance)
  | balance : ChargeFailure env l mandateId chargeId amount (.err .insufficientBalance)
  | overflow : ChargeFailure env l mandateId chargeId amount (.err .arithmeticOverflow)
  | trap : ChargeFailure env l mandateId chargeId amount .trap

theorem account_error {m : Mandate} {period : BillingPeriod} {collected amount : I128} {now : U64}
    {f : Failure} (h : account m period collected amount now = .error f) :
    f = .err .arithmeticOverflow := by
  unfold account at h
  rcases Tx.bind_error.mp h with h | ⟨count, -, h⟩
  · exact (okOr_error.mp h).2.symm
  · rcases Tx.bind_error.mp h with h | ⟨total, -, h⟩
    · exact (okOr_error.mp h).2.symm
    · cases h

theorem charge_error {env : Env T} {mandateId chargeId invoiceHash : BytesN} {amount : I128}
    {l l' : Ledger T} {f : Failure}
    (h : (charge env mandateId chargeId amount invoiceHash).run l = .error f l') :
    ChargeFailure env l mandateId chargeId amount f := by
  unfold charge at h
  rcases Tx.run_bind_error.mp h with h | ⟨_, _, hget, h⟩
  · cases h
  cases hget
  rcases Tx.run_bind_error.mp h with h | ⟨m, _, hm, h⟩
  · obtain ⟨hmissing, rfl⟩ := okOr_error.mp (Tx.run_liftExcept_error.mp h).1
    exact .notFound hmissing
  obtain ⟨hstored, rfl⟩ := Tx.run_liftExcept_ok.mp hm
  rw [okOr_ok] at hstored
  rcases Tx.run_bind_error.mp h with h | ⟨checked, _, hchecked, h⟩
  · exact .checks m f hstored (Tx.run_liftExcept_error.mp h).1
  obtain ⟨-, rfl⟩ := Tx.run_liftExcept_ok.mp hchecked
  rcases Tx.run_bind_error.mp h with h | ⟨x, _, hx, h⟩
  · obtain ⟨rfl, -⟩ := run_query_error h
    exact .trap
  obtain ⟨t, hanswer, rfl⟩ := run_query_ok.mp hx
  rcases Tx.run_bind_error.mp h with h | ⟨_, _, -, h⟩
  · obtain ⟨hlt, rfl⟩ := Tx.rejectIf_error.mp (Tx.run_liftExcept_error.mp h).1
    exact .allowance m x t hstored hanswer hlt
  rcases Tx.run_bind_error.mp h with h | ⟨_, _, -, h⟩
  · obtain ⟨rfl, -⟩ := run_query_error h
    exact .trap
  rcases Tx.run_bind_error.mp h with h | ⟨_, _, -, h⟩
  · obtain ⟨-, rfl⟩ := Tx.rejectIf_error.mp (Tx.run_liftExcept_error.mp h).1
    exact .balance
  rcases Tx.run_bind_error.mp h with h | ⟨_, _, -, h⟩
  · obtain ⟨rfl, -⟩ := run_execute_error h
    exact .trap
  rcases Tx.run_bind_error.mp h with h | ⟨m', _, -, h⟩
  · obtain rfl := account_error (Tx.run_liftExcept_error.mp h).1
    exact .overflow
  rcases Tx.run_bind_error.mp h with h | ⟨_, _, -, h⟩
  · rw [run_recordCharge] at h
    cases h
  · cases h

/-! ## Failing runs write nothing

Also those that fail after the transfer: the accounting is computed before anything is written. -/

theorem recordCharge_neverFails (m : Mandate) (period : BillingPeriod) (receipt : PaymentReceipt) :
    Tx.NeverFails (recordCharge (T := T) m period receipt) := by
  intro l e l' h
  rw [run_recordCharge] at h
  cases h

theorem charge_failKeeps (env : Env T) (mandateId chargeId : BytesN) (amount : I128)
    (invoiceHash : BytesN) :
    Tx.FailKeeps SameBooks (charge env mandateId chargeId amount invoiceHash) := by
  unfold charge
  refine .bind .trans (Tx.keeps_get SameBooks.refl) fun l => ?_
  refine .bind .trans (Tx.keeps_liftExcept SameBooks.refl _) fun m => ?_
  refine .bind .trans (Tx.keeps_liftExcept SameBooks.refl _) fun checked => ?_
  refine .bind .trans (keeps_query _) fun allowance => ?_
  refine .bind .trans (Tx.keeps_liftExcept SameBooks.refl _) fun _ => ?_
  refine .bind .trans (keeps_query _) fun balance => ?_
  refine .bind .trans (Tx.keeps_liftExcept SameBooks.refl _) fun _ => ?_
  refine .bind .trans (keeps_execute _) fun _ => ?_
  refine .bind .trans (Tx.keeps_liftExcept SameBooks.refl _) fun m' => ?_
  -- once the record is made nothing fails any more
  exact ((recordCharge_neverFails _ _ _).bind fun _ => Tx.neverFails_pure _).failKeeps

end

end Paymap.Registry
