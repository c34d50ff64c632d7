import Paymap.Registry.Books

set_option autoImplicit false

/-! # Receipts stay

What somebody outside the contract may rely on: the only call that answers with a payment receipt
is a charge, it does so once for a mandate and a charge id, and the receipt it stores is never
changed or removed.
-/

namespace Paymap.Registry

section

variable {T : Type} {host : Host T} {l : Ledger T}

/-- The call `c` took the ledger `l` to `l'` and left the receipt `r`. -/
structure NewReceipt (host : Host T) (l l' : Ledger T) (c : Call) (r : PaymentReceipt) : Prop where
  op_eq : c.op = .charge r.mandateId r.chargeId r.amount r.invoiceHash
  unused : l.storage.hasUsedCharge r.mandateId r.chargeId = false
  paymentId_eq : r.paymentId = host.derivePaymentId r.mandateId r.chargeId
  getPayment_eq : ∀ pid, l'.storage.getPayment pid
    = if pid = r.paymentId then some r else l.storage.getPayment pid
  hasUsedCharge_iff : ∀ m c, l'.storage.hasUsedCharge m c ↔
    (m = r.mandateId ∧ c = r.chargeId) ∨ l.storage.hasUsedCharge m c

theorem newReceipt_charged {authorized : List Address} {m m' : Mandate} {mandateId chargeId : BytesN}
    {amount collected : I128} {period : BillingPeriod} (invoiceHash : BytesN) (t : T)
    (hc : Chargeable authorized m l.timestamp (l.storage.hasUsedCharge mandateId chargeId) amount
      period collected) :
    NewReceipt host l
      (chargedLedger l m' period
        (newReceipt host m' mandateId chargeId amount invoiceHash l.timestamp) t)
      ⟨.charge mandateId chargeId amount invoiceHash, authorized⟩
      (newReceipt host m' mandateId chargeId amount invoiceHash l.timestamp) where
  op_eq := rfl
  unused := hc.unused
  paymentId_eq := rfl
  getPayment_eq pid := getPayment_chargedLedger l m' period _ t pid
  hasUsedCharge_iff m c := hasUsedCharge_chargedLedger l m' period _ t m c

/-- **Only a charge answers with a payment receipt**, and it stores what it answers. -/
theorem newReceipt_of_payment {c : Call} {r : PaymentReceipt}
    (h : (invoke host c l).1 = .ok (.payment r)) :
    NewReceipt host l (invoke host c l).2 c r := by
  obtain ⟨op, authorized⟩ := c
  obtain ⟨l', hl', heffect⟩ := exists_effect h
  rw [hl']
  cases heffect with
  | charged mandateId chargeId amount invoiceHash m period collected t m' _ hc _ _ =>
      exact newReceipt_charged invoiceHash t hc

/-- A step leaves the receipts as they are, or it is a charge. -/
theorem receipts_exec (host : Host T) (l : Ledger T) (step : Step T) :
    ((∀ pid, (exec host l step).storage.getPayment pid = l.storage.getPayment pid) ∧
      ∀ m c, (exec host l step).storage.hasUsedCharge m c = l.storage.hasUsedCharge m c) ∨
    ∃ c r, step = .call c ∧ (invoke host c l).1 = .ok (.payment r) ∧
      NewReceipt host l (exec host l step) c r := by
  have hmoved := moved_exec host l step
  generalize hl' : exec host l step = l' at hmoved
  cases hmoved with
  | closed t now _ => exact .inl ⟨fun _ => rfl, fun _ _ => rfl⟩
  | tokens t => exact .inl ⟨fun _ => rfl, fun _ _ => rfl⟩
  | rejected c f _ => exact .inl ⟨fun _ => rfl, fun _ _ => rfl⟩
  | done c v l' hout heffect =>
      obtain ⟨op, authorized⟩ := c
      cases heffect with
      | created input _ _ _ => exact .inl ⟨fun _ => rfl, fun _ _ => rfl⟩
      | statusChanged op mandateId m _ _ _ => exact .inl ⟨fun _ => rfl, fun _ _ => rfl⟩
      | charged mandateId chargeId amount invoiceHash m period collected t m' _ hc _ _ =>
          refine .inr ⟨_, _, rfl, ?_, newReceipt_charged invoiceHash t hc⟩
          rw [hout]
      | refunded mandateId paymentId amount refundId m payment total t _ _ _ _ =>
          exact .inl ⟨fun _ => rfl, fun _ _ => rfl⟩

/-- **A stored receipt stays.** -/
theorem getPayment_exec (hb : Books host l) {pid : BytesN} {r : PaymentReceipt}
    (h : l.storage.getPayment pid = some r) (step : Step T) :
    (exec host l step).storage.getPayment pid = some r := by
  rcases receipts_exec host l step with ⟨hsame, -⟩ | ⟨c, r', -, -, hnew⟩
  · rw [hsame, h]
  · have hne : pid ≠ r'.paymentId := by
      rintro rfl
      rw [hnew.paymentId_eq, hb.getPayment_eq_none hnew.unused] at h
      cases h
    rw [hnew.getPayment_eq, if_neg hne, h]

/-- A charge id that a step has used was used before, or the step is a charge under it. -/
theorem hasUsedCharge_of_exec {m c : BytesN} {step : Step T}
    (h : (exec host l step).storage.hasUsedCharge m c) :
    l.storage.hasUsedCharge m c ∨ ∃ call r, step = .call call ∧
      (invoke host call l).1 = .ok (.payment r) ∧ r.mandateId = m ∧ r.chargeId = c := by
  rcases receipts_exec host l step with ⟨-, hsame⟩ | ⟨call, r, hstep, hout, hnew⟩
  · rw [hsame] at h
    exact .inl h
  · rcases (hnew.hasUsedCharge_iff m c).mp h with ⟨rfl, rfl⟩ | h
    · exact .inr ⟨call, r, hstep, hout, rfl, rfl⟩
    · exact .inl h

end

end Paymap.Registry
