import Paymap.Registry.Charge

set_option autoImplicit false

/-! # Refund execution

`refund.rs`: `refund`, `getRefund` and `getRefundedTotal`. A refund is checked against the payment
receipt and moves money between the parties of the receipt; the mandate record is read for the
merchant's authorisation and never written.
-/

namespace Paymap.Registry

open Tx (rejectIf)

/-! ## Steps 3 to 7 -/

/-- Steps 3 to 7: the payment belongs to the mandate, the merchant signed, the refund id is unused,
the amount is positive and what is left of the payment covers it. Answers the new total. -/
def refundChecks {T : Type} (env : Env T) (mandate : Mandate) (mandateId : BytesN)
    (payment : PaymentReceipt) (used : Bool) (refundedSoFar amount : I128) :
    Except Failure I128 := do
  rejectIf (payment.mandateId ≠ mandateId) (.err .paymentNotFound)
  env.requireAuth mandate.merchant
  rejectIf used (.err .duplicateRefund)
  rejectIf (amount.val ≤ 0) (.err .invalidAmount)
  let newRefundedTotal ← checkedAddI128 refundedSoFar amount
  rejectIf (payment.amount < newRefundedTotal) (.err .refundExceedsPayment)
  return newRefundedTotal

/-- What steps 3 to 7 let through. -/
structure Refundable (authorized : List Address) (m : Mandate) (mandateId : BytesN)
    (payment : PaymentReceipt) (used : Bool) (refundedSoFar amount total : I128) : Prop where
  belongs : payment.mandateId = mandateId
  merchant_auth : m.merchant ∈ authorized
  unused : used = false
  positive : 0 < amount.val
  total_eq : total.val = refundedSoFar.val + amount.val
  covered : total.val ≤ payment.amount.val

theorem refundChecks_ok {T : Type} {env : Env T} {m : Mandate} {mandateId : BytesN}
    {payment : PaymentReceipt} {used : Bool} {refundedSoFar amount total : I128} :
    refundChecks env m mandateId payment used refundedSoFar amount = .ok total ↔
      Refundable env.authorized m mandateId payment used refundedSoFar amount total := by
  simp only [refundChecks, Env.requireAuth, Tx.bind_ok, Tx.rejectIf_ok, checkedAddI128_ok,
    MachineInt.lt_def, pure, Except.pure, Except.ok.injEq, exists_and_left, exists_const, not_not]
  constructor
  · rintro ⟨hbelongs, hauth, hused, hpos, x, hx, hcover, rfl⟩
    exact ⟨hbelongs, hauth, by simpa using hused, by omega, hx, by omega⟩
  · intro h
    exact ⟨h.belongs, h.merchant_auth, by simp [h.unused], not_le.mpr h.positive, total,
      h.total_eq, not_lt.mpr h.covered, rfl⟩

section

variable {T : Type}

def newRefundReceipt (refundId paymentId : BytesN) (amount : I128) (now : U64) : RefundReceipt where
  refundId := refundId
  paymentId := paymentId
  amount := amount
  timestamp := now

def refundSucceededEvent (payment : PaymentReceipt) (mandateId : BytesN) (receipt : RefundReceipt)
    (refundedTotalAfter : I128) : Event :=
  .refundSucceeded mandateId payment.payer payment.merchant receipt.refundId receipt.paymentId
    payment.asset receipt.amount refundedTotalAfter receipt.timestamp

/-! ## `refund` -/

/-- Everything a refund writes. -/
def recordRefund (payment : PaymentReceipt) (mandateId : BytesN) (receipt : RefundReceipt)
    (newRefundedTotal : I128) : HostM T Unit := do
  modifyStorage (·.setRefundedTotal receipt.paymentId newRefundedTotal)
  modifyStorage (·.markRefundUsed receipt.refundId)
  modifyStorage (·.setRefund receipt)
  publish (refundSucceededEvent payment mandateId receipt newRefundedTotal)

def refund (env : Env T) (mandateId paymentId : BytesN) (amount : I128) (refundId : BytesN) :
    HostM T RefundReceipt := do
  let ledger ← get
  let mandate ← liftExcept (okOr (ledger.storage.getMandate mandateId) .mandateNotFound)
  let payment ← liftExcept (okOr (ledger.storage.getPayment paymentId) .paymentNotFound)
  let used := ledger.storage.hasUsedRefund refundId
  let refundedSoFar := ledger.storage.getRefundedTotal paymentId
  let newRefundedTotal ←
    liftExcept (refundChecks env mandate mandateId payment used refundedSoFar amount)
  -- step 8: advisory, the transfer is the authority
  let merchantBalance ← env.balance payment.asset payment.merchant
  liftExcept (rejectIf (merchantBalance < amount) (Failure.err .insufficientBalance))
  env.transfer payment.asset payment.merchant payment.payer amount
  let receipt := newRefundReceipt refundId paymentId amount ledger.timestamp
  recordRefund payment mandateId receipt newRefundedTotal
  return receipt

/-- Read-only. -/
def getRefund (ledger : Ledger T) (refundId : BytesN) : Except Failure RefundReceipt :=
  okOr (ledger.storage.getRefund refundId) .refundNotFound

/-- Read-only; `0` when nothing has been refunded. -/
def getRefundedTotal (ledger : Ledger T) (paymentId : BytesN) : I128 :=
  ledger.storage.getRefundedTotal paymentId

/-! ## What a successful refund does -/

/-- The token lets the refund through, leaving the tokens in `t'`. -/
def RefundPaid (env : Env T) (t : T) (payment : PaymentReceipt) (amount : I128) (t' : T) : Prop :=
  ∃ balance t₁,
    env.token.balance t payment.asset payment.merchant = some (balance, t₁) ∧ amount ≤ balance ∧
    env.token.transfer t₁ env.callAuth payment.asset payment.merchant payment.payer amount
      = some t'

/-- The ledger after a refund that left the tokens in `t`. -/
def refundedLedger (l : Ledger T) (payment : PaymentReceipt) (mandateId : BytesN)
    (receipt : RefundReceipt) (total : I128) (t : T) : Ledger T :=
  { l with
    storage := ((l.storage.setRefundedTotal receipt.paymentId total).markRefundUsed
      receipt.refundId).setRefund receipt
    events := l.events ++ [refundSucceededEvent payment mandateId receipt total]
    token := t }

section

variable (l : Ledger T) (payment : PaymentReceipt) (mandateId : BytesN) (receipt : RefundReceipt)
  (total : I128) (t : T)

theorem getRefund_refundedLedger (rid : BytesN) :
    (refundedLedger l payment mandateId receipt total t).storage.getRefund rid
      = if rid = receipt.refundId then some receipt else l.storage.getRefund rid :=
  Storage.getRefund_setRefund
    ((l.storage.setRefundedTotal receipt.paymentId total).markRefundUsed receipt.refundId) receipt
    rid

theorem hasUsedRefund_refundedLedger (rid : BytesN) :
    (refundedLedger l payment mandateId receipt total t).storage.hasUsedRefund rid ↔
      rid = receipt.refundId ∨ l.storage.hasUsedRefund rid :=
  Storage.hasUsedRefund_markRefundUsed (l.storage.setRefundedTotal receipt.paymentId total)
    receipt.refundId rid

theorem getRefundedTotal_refundedLedger (pid : BytesN) :
    (refundedLedger l payment mandateId receipt total t).storage.getRefundedTotal pid
      = if pid = receipt.paymentId then total else l.storage.getRefundedTotal pid :=
  Storage.getRefundedTotal_setRefundedTotal l.storage receipt.paymentId total pid

end

theorem run_recordRefund (payment : PaymentReceipt) (mandateId : BytesN) (receipt : RefundReceipt)
    (total : I128) (l : Ledger T) :
    (recordRefund payment mandateId receipt total).run l
      = .ok () (refundedLedger l payment mandateId receipt total l.token) := by
  simp [recordRefund, refundedLedger, modifyStorage, publish]

/-- **Everything a successful refund is and does.** -/
theorem refund_ok {env : Env T} {mandateId paymentId refundId : BytesN} {amount : I128}
    {l l' : Ledger T} {r : RefundReceipt} :
    (refund env mandateId paymentId amount refundId).run l = .ok r l' ↔
      ∃ m payment total t,
        l.storage.getMandate mandateId = some m ∧
        l.storage.getPayment paymentId = some payment ∧
        Refundable env.authorized m mandateId payment (l.storage.hasUsedRefund refundId)
          (l.storage.getRefundedTotal paymentId) amount total ∧
        RefundPaid env l.token payment amount t ∧
        r = newRefundReceipt refundId paymentId amount l.timestamp ∧
        l' = refundedLedger l payment mandateId r total t := by
  simp only [refund, Env.balance, Env.transfer, Tx.run_bind_ok, Tx.run_liftExcept_ok,
    EStateM.run_get, EStateM.run_pure, EStateM.Result.ok.injEq, okOr_ok, run_query_ok,
    run_execute_ok, run_recordRefund, Tx.rejectIf_ok, refundChecks_ok, MachineInt.not_lt,
    RefundPaid]
  constructor
  · rintro ⟨_, _, ⟨rfl, rfl⟩, m, _, ⟨hm, rfl⟩, payment, _, ⟨hp, rfl⟩, total, _, ⟨hchecks, rfl⟩,
      b, _, ⟨t₁, hb, rfl⟩, _, _, ⟨hble, rfl⟩, _, _, ⟨t, ht, rfl⟩, _, _, ⟨-, rfl⟩, rfl, rfl⟩
    exact ⟨m, payment, total, t, hm, hp, hchecks, ⟨b, t₁, hb, hble, ht⟩, rfl, rfl⟩
  · rintro ⟨m, payment, total, t, hm, hp, hchecks, ⟨b, t₁, hb, hble, ht⟩, rfl, rfl⟩
    exact ⟨l, l, ⟨rfl, rfl⟩, m, l, ⟨hm, rfl⟩, payment, l, ⟨hp, rfl⟩, total, l, ⟨hchecks, rfl⟩,
      b, _, ⟨t₁, hb, rfl⟩, (), _, ⟨hble, rfl⟩, (), _, ⟨t, ht, rfl⟩, (), _, ⟨trivial, rfl⟩, rfl,
      rfl⟩

/-! ## Failing runs write nothing -/

theorem recordRefund_neverFails (payment : PaymentReceipt) (mandateId : BytesN)
    (receipt : RefundReceipt) (total : I128) :
    Tx.NeverFails (recordRefund (T := T) payment mandateId receipt total) := by
  intro l e l' h
  rw [run_recordRefund] at h
  cases h

theorem refund_failKeeps (env : Env T) (mandateId paymentId : BytesN) (amount : I128)
    (refundId : BytesN) :
    Tx.FailKeeps SameBooks (refund env mandateId paymentId amount refundId) := by
  unfold refund
  refine .bind .trans (Tx.keeps_get SameBooks.refl) fun l => ?_
  refine .bind .trans (Tx.keeps_liftExcept SameBooks.refl _) fun m => ?_
  refine .bind .trans (Tx.keeps_liftExcept SameBooks.refl _) fun payment => ?_
  refine .bind .trans (Tx.keeps_liftExcept SameBooks.refl _) fun total => ?_
  refine .bind .trans (keeps_query _) fun balance => ?_
  refine .bind .trans (Tx.keeps_liftExcept SameBooks.refl _) fun _ => ?_
  refine .bind .trans (keeps_execute _) fun _ => ?_
  exact ((recordRefund_neverFails _ _ _ _).bind fun _ => Tx.neverFails_pure _).failKeeps

end

end Paymap.Registry
