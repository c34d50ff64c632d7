import Paymap.Registry.Books
import Paymap.Token.Mock

set_option autoImplicit false

/-! # Refund books, and runs with the refunds deleted

Refunds are books of their own: the total refunded of a payment is the sum of its refund receipts
and never more than the payment, and a refund id is used exactly when its receipt is stored
(`RefundBooks`). They never touch the records or the payment receipts.

So a run can be compared with the same run without its refunds. Deleting refunds changes what the
tokens hold, and with it what they would answer; `RefundsErased` therefore lets the second run have
other tokens, in other states, as long as they give every charge the answers it got in the first
run. `run_refundsErased` says the records, receipts and replay guards of both runs are the same at
the end, and `eraseRefunds` is such a second run for every first one.
-/

namespace Paymap.Registry

/-! ## The books of refunds -/

/-- The refund receipts of a payment, newest first. -/
def Storage.refundsOf (s : Storage) (paymentId : BytesN) : List RefundReceipt :=
  (FinMap.values s.refunds).filter fun r => r.paymentId = paymentId

structure RefundBooks (s : Storage) : Prop where
  refund_id : ∀ {rid r}, s.getRefund rid = some r → r.refundId = rid
  payment : ∀ {rid r}, s.getRefund rid = some r → ∃ p, s.getPayment r.paymentId = some p
  used_iff : ∀ rid, s.hasUsedRefund rid ↔ ∃ r, s.getRefund rid = some r
  total_eq : ∀ pid, (s.getRefundedTotal pid).val = ((s.refundsOf pid).map fun r => r.amount.val).sum
  total_le : ∀ {pid p}, s.getPayment pid = some p →
    (s.getRefundedTotal pid).val ≤ p.amount.val

theorem mem_refundsOf {s : Storage} {pid : BytesN} {r : RefundReceipt} :
    r ∈ s.refundsOf pid ↔ (∃ rid, s.getRefund rid = some r) ∧ r.paymentId = pid := by
  unfold Storage.refundsOf Storage.getRefund
  rw [List.mem_filter, FinMap.mem_values]
  simp

theorem refundsOf_setRefund {s : Storage} {r : RefundReceipt} {pid : BytesN}
    (hfresh : s.getRefund r.refundId = none) :
    (s.setRefund r).refundsOf pid
      = if r.paymentId = pid then r :: s.refundsOf pid else s.refundsOf pid := by
  unfold Storage.refundsOf Storage.setRefund
  rw [FinMap.values_insert hfresh, List.filter_cons]
  simp

theorem refundBooks_empty : RefundBooks Storage.empty where
  refund_id h := by cases h
  payment h := by cases h
  used_iff rid := by
    constructor
    · intro h; cases h
    · rintro ⟨r, h⟩; cases h
  total_eq _ := rfl
  total_le h := by cases h

section

variable {T : Type} {host : Host T} {l : Ledger T}

theorem RefundBooks.refundsOf_eq_nil (hr : RefundBooks l.storage) {pid : BytesN}
    (hfresh : l.storage.getPayment pid = none) : l.storage.refundsOf pid = [] := by
  refine List.eq_nil_iff_forall_not_mem.mpr fun r hr₁ => ?_
  obtain ⟨⟨rid, hrid⟩, hpid⟩ := mem_refundsOf.mp hr₁
  obtain ⟨p, hp⟩ := hr.payment hrid
  rw [hpid, hfresh] at hp
  cases hp

/-- A new payment has no refunds. -/
theorem RefundBooks.charged (hr : RefundBooks l.storage) {m' : Mandate} {period : BillingPeriod}
    {r : PaymentReceipt} {t : T} (hpos : 0 < r.amount.val)
    (hfresh : l.storage.getPayment r.paymentId = none) :
    RefundBooks (chargedLedger l m' period r t).storage where
  refund_id := hr.refund_id
  payment {rid r₁} h := by
    obtain ⟨p, hp⟩ := hr.payment h
    rw [getPayment_chargedLedger]
    split
    · exact ⟨r, rfl⟩
    · exact ⟨p, hp⟩
  used_iff := hr.used_iff
  total_eq := hr.total_eq
  total_le {pid p} h := by
    rw [getPayment_chargedLedger] at h
    split at h
    · rename_i heq
      cases h
      subst heq
      have htotal := hr.total_eq r.paymentId
      rw [hr.refundsOf_eq_nil hfresh] at htotal
      show (l.storage.getRefundedTotal r.paymentId).val ≤ r.amount.val
      rw [htotal]
      exact hpos.le
    · exact hr.total_le h

/-- While a refund id is unused, no receipt is stored under it. -/
theorem RefundBooks.getRefund_eq_none (hr : RefundBooks l.storage) {refundId : BytesN}
    (hunused : l.storage.hasUsedRefund refundId = false) :
    l.storage.getRefund refundId = none := by
  by_contra hne
  obtain ⟨r, hr'⟩ := Option.ne_none_iff_exists'.mp hne
  rw [(hr.used_iff refundId).mpr ⟨r, hr'⟩] at hunused
  cases hunused

theorem refundsOf_refundedLedger {payment : PaymentReceipt} {mandateId : BytesN}
    {r : RefundReceipt} {total : I128} {t : T} (hfresh : l.storage.getRefund r.refundId = none)
    (pid : BytesN) :
    (refundedLedger l payment mandateId r total t).storage.refundsOf pid
      = if r.paymentId = pid then r :: l.storage.refundsOf pid else l.storage.refundsOf pid :=
  refundsOf_setRefund
    (s := (l.storage.setRefundedTotal r.paymentId total).markRefundUsed r.refundId) hfresh

theorem RefundBooks.refunded (hr : RefundBooks l.storage) {authorized : List Address} {m : Mandate}
    {mandateId paymentId refundId : BytesN} {payment : PaymentReceipt} {amount total : I128} {t : T}
    (hp : l.storage.getPayment paymentId = some payment)
    (hc : Refundable authorized m mandateId payment (l.storage.hasUsedRefund refundId)
      (l.storage.getRefundedTotal paymentId) amount total) :
    RefundBooks (refundedLedger l payment mandateId
      (newRefundReceipt refundId paymentId amount l.timestamp) total t).storage := by
  set r := newRefundReceipt refundId paymentId amount l.timestamp
  have hfresh : l.storage.getRefund r.refundId = none := hr.getRefund_eq_none hc.unused
  refine ⟨?_, ?_, ?_, ?_, ?_⟩
  · intro rid r₁ h
    rw [getRefund_refundedLedger] at h
    split at h
    · rename_i heq; cases h; exact heq.symm
    · exact hr.refund_id h
  · intro rid r₁ h
    rw [getRefund_refundedLedger] at h
    split at h
    · cases h; exact ⟨payment, hp⟩
    · exact hr.payment h
  · intro rid
    rw [hasUsedRefund_refundedLedger, getRefund_refundedLedger]
    by_cases heq : rid = r.refundId
    · rw [if_pos heq]
      exact ⟨fun _ => ⟨r, rfl⟩, fun _ => Or.inl heq⟩
    · rw [if_neg heq, hr.used_iff]
      exact or_iff_right heq
  · intro pid
    rw [getRefundedTotal_refundedLedger, refundsOf_refundedLedger hfresh]
    by_cases heq : pid = r.paymentId
    · -- the new total is the old one and the amount, and so is the sum
      rw [if_pos heq, if_pos heq.symm, List.map_cons, List.sum_cons, heq, ← hr.total_eq]
      have hsum := hc.total_eq
      show total.val = amount.val + (l.storage.getRefundedTotal paymentId).val
      omega
    · rw [if_neg heq, if_neg (Ne.symm heq)]
      exact hr.total_eq pid
  · intro pid p h
    change l.storage.getPayment pid = some p at h
    rw [getRefundedTotal_refundedLedger]
    split
    · rename_i heq
      rw [heq, show r.paymentId = paymentId from rfl, hp] at h
      cases h
      exact hc.covered
    · exact hr.total_le h

theorem refundBooks_exec (hb : Books host l) (hr : RefundBooks l.storage) (step : Step T) :
    RefundBooks (exec host l step).storage := by
  have hmoved := moved_exec host l step
  generalize exec host l step = l' at hmoved
  cases hmoved with
  | closed t now _ => exact hr
  | tokens t => exact hr
  | rejected c f _ => exact hr
  | done c v l' _ heffect =>
      generalize c.op = op at heffect
      cases heffect with
      | created input _ _ _ => exact ⟨hr.refund_id, hr.payment, hr.used_iff, hr.total_eq, hr.total_le⟩
      | statusChanged op mandateId m _ _ _ =>
          exact ⟨hr.refund_id, hr.payment, hr.used_iff, hr.total_eq, hr.total_le⟩
      | charged mandateId chargeId amount invoiceHash m period collected t m' hm hc _ _ =>
          exact hr.charged hc.positive (hb.getPayment_eq_none hc.unused)
      | refunded mandateId paymentId amount refundId m payment total t _ hp hc _ =>
          exact hr.refunded hp hc

/-- Both books, as one invariant. -/
def FullBooks (host : Host T) (l : Ledger T) : Prop := Books host l ∧ RefundBooks l.storage

theorem fullBooks_genesis (host : Host T) (t₀ : U64) (tok₀ : T) :
    FullBooks host (genesis t₀ tok₀) :=
  ⟨books_genesis host t₀ tok₀, refundBooks_empty⟩

theorem fullBooks_exec (hinj : Function.Injective host.sha256) (l : Ledger T) (step : Step T)
    (h : FullBooks host l) : FullBooks host (exec host l step) :=
  ⟨books_exec hinj h.1 step, refundBooks_exec h.1 h.2 step⟩

/-- **Every state a run can reach has its books in order.** -/
theorem fullBooks_run (hinj : Function.Injective host.sha256) (t₀ : U64) (tok₀ : T)
    (steps : List (Step T)) : FullBooks host (run host (genesis t₀ tok₀) steps) :=
  Runs.run_invariant (fullBooks_exec hinj) (fullBooks_genesis host t₀ tok₀) steps

/-! ## A refund id succeeds at most once -/

/-- The entry is a successful refund under `refundId`. -/
def Entry.refunds (e : Entry T) (refundId : BytesN) : Bool :=
  match e.call.op, e.outcome with
  | .refund _ _ _ r, .ok _ => r = refundId
  | _, _ => false

theorem hasUsedRefund_exec {refundId : BytesN} (hused : l.storage.hasUsedRefund refundId)
    (step : Step T) : (exec host l step).storage.hasUsedRefund refundId := by
  have hmoved := moved_exec host l step
  generalize exec host l step = l' at hmoved
  cases hmoved with
  | closed t now _ => exact hused
  | tokens t => exact hused
  | rejected c f _ => exact hused
  | done c v l' _ heffect =>
      generalize c.op = op at heffect
      cases heffect with
      | created input _ _ _ => exact hused
      | statusChanged op mandateId m _ _ _ => exact hused
      | charged mandateId chargeId amount invoiceHash m period collected t m' _ _ _ _ => exact hused
      | refunded mandateId paymentId amount refundId m payment total t _ _ _ _ =>
          exact (hasUsedRefund_refundedLedger l payment mandateId _ total t _).mpr (Or.inr hused)

/-- A successful refund finds its id unused and leaves it used. -/
theorem used_of_refunds {c : Call} {refundId : BytesN}
    (h : Entry.refunds ⟨l, c, (invoke host c l).1, (invoke host c l).2⟩ refundId = true) :
    l.storage.hasUsedRefund refundId = false ∧
      (invoke host c l).2.storage.hasUsedRefund refundId := by
  obtain ⟨op, authorized⟩ := c
  cases hout : (invoke host ⟨op, authorized⟩ l).1 with
  | error f =>
      rw [hout] at h
      cases op <;> cases h
  | ok v =>
      obtain ⟨l', hl', heffect⟩ := exists_effect hout
      rw [hout] at h
      rw [hl']
      cases heffect with
      | created input _ _ _ => cases h
      | statusChanged op mandateId m _ _ _ => cases h
      | charged mandateId chargeId amount invoiceHash m period collected t m' _ _ _ _ => cases h
      | refunded mandateId paymentId amount rid m payment total t _ _ hc _ =>
          obtain rfl : rid = refundId := by simpa [Entry.refunds] using h
          refine ⟨hc.unused, ?_⟩
          exact (hasUsedRefund_refundedLedger l payment mandateId _ total t _).mpr (Or.inl rfl)

/-- From a ledger where it is used, an id never succeeds; from any other, at most once. -/
theorem countP_refunds_le (refundId : BytesN) (steps : List (Step T)) (l : Ledger T) :
    (log host l steps).countP (·.refunds refundId)
      ≤ if l.storage.hasUsedRefund refundId then 0 else 1 := by
  induction steps generalizing l with
  | nil => exact Nat.zero_le _
  | cons step steps ih =>
      have hrest := ih (exec host l step)
      have hkeep : l.storage.hasUsedRefund refundId →
          (exec host l step).storage.hasUsedRefund refundId := fun h => hasUsedRefund_exec h step
      -- what follows the step succeeds no more often than before it
      have hmono : (if (exec host l step).storage.hasUsedRefund refundId then 0 else 1)
          ≤ if l.storage.hasUsedRefund refundId then 0 else 1 := by
        by_cases hused : l.storage.hasUsedRefund refundId
        · rw [if_pos hused, if_pos (hkeep hused)]
        · rw [if_neg hused]
          split <;> omega
      cases step with
      | close t => exact hrest.trans hmono
      | token t => exact hrest.trans hmono
      | call c =>
          rw [log]
          by_cases hrefunds :
              Entry.refunds ⟨l, c, (invoke host c l).1, (invoke host c l).2⟩ refundId = true
          · obtain ⟨hunused, hused⟩ := used_of_refunds hrefunds
            rw [show exec host l (.call c) = (invoke host c l).2 from rfl, if_pos hused] at hrest
            rw [List.countP_cons_of_pos (p := fun e : Entry T => e.refunds refundId) hrefunds,
              hunused]
            exact Nat.succ_le_succ hrest
          · rw [List.countP_cons_of_neg (p := fun e : Entry T => e.refunds refundId) hrefunds]
            exact hrest.trans hmono

/-! ## Deleting the refunds of a run -/

def Op.isRefund : Op → Bool
  | .refund _ _ _ _ => true
  | _ => false

/-- A refund, whatever it answers, leaves the records, the receipts and the replay guards alone. -/
theorem sameCharges_refund {c : Call} (hop : c.op.isRefund = true) :
    SameCharges l (invoke host c l).2 := by
  obtain ⟨op, authorized⟩ := c
  cases hout : (invoke host ⟨op, authorized⟩ l).1 with
  | error f =>
      rw [invoke_error hout]
      exact ⟨rfl, rfl, rfl, rfl⟩
  | ok v =>
      obtain ⟨l', hl', heffect⟩ := exists_effect hout
      rw [hl']
      cases heffect with
      | created input _ _ _ => cases hop
      | statusChanged op mandateId m _ _ _ => cases hop
      | charged mandateId chargeId amount invoiceHash m period collected t m' _ _ _ _ => cases hop
      | refunded mandateId paymentId amount refundId m payment total t _ _ _ _ =>
          exact sameCharges_refunded _ _ _ _ _

/-- What the tokens answer to a charge: its two queries, as far as it asks them, and whether the
transfer succeeds. -/
def chargeAnswers (env : Env T) (t : T) (m : Mandate) (amount : I128) :
    Option I128 × Option I128 × Bool :=
  match env.token.allowance t m.asset m.payer env.currentContractAddress with
  | none => (none, none, false)
  | some (allowance, t₁) =>
      if allowance < amount then (some allowance, none, false)
      else match env.token.balance t₁ m.asset m.payer with
        | none => (some allowance, none, false)
        | some (balance, t₂) =>
            if balance < amount then (some allowance, some balance, false)
            else (some allowance, some balance, (env.token.transferFrom t₂ env.callAuth m.asset
              env.currentContractAddress m.payer m.merchant amount).isSome)

/-- The answers decide whether the charge is paid. -/
theorem chargeAnswers_paid {env : Env T} {t : T} {m : Mandate} {amount : I128} :
    (chargeAnswers env t m amount).2.2 = true ↔ ∃ t', ChargePaid env t m amount t' := by
  unfold chargeAnswers ChargePaid
  constructor
  · intro h
    split at h
    · cases h
    · rename_i allowance t₁ hallowance
      split at h
      · cases h
      · rename_i hle
        split at h
        · cases h
        · rename_i balance t₂ hbalance
          split at h
          · cases h
          · rename_i hle'
            obtain ⟨t', ht'⟩ := Option.isSome_iff_exists.mp h
            exact ⟨t', allowance, t₁, balance, t₂, hallowance, MachineInt.not_lt.mp hle, hbalance,
              MachineInt.not_lt.mp hle', ht'⟩
  · rintro ⟨t', allowance, t₁, balance, t₂, hallowance, hle, hbalance, hle', ht'⟩
    rw [hallowance]
    dsimp only
    rw [if_neg (MachineInt.not_lt.mpr hle), hbalance]
    dsimp only
    rw [if_neg (MachineInt.not_lt.mpr hle'), ht']
    rfl

end

section

variable {T T' : Type}

/-- The same deployment on other tokens. -/
def Host.withToken (host : Host T) (token' : Token T') : Host T' :=
  { host with token := token' }

/-- The call, when it is a charge, gets the same token answers in both ledgers. -/
def Call.SameAnswers (c : Call) (host : Host T) (l : Ledger T) (host' : Host T')
    (l' : Ledger T') : Prop :=
  ∀ mandateId chargeId amount invoiceHash m,
    c.op = .charge mandateId chargeId amount invoiceHash →
    l.storage.getMandate mandateId = some m →
    chargeAnswers (host.env c.authorized) l.token m amount
      = chargeAnswers (host'.env c.authorized) l'.token m amount

/-- The run `steps'` from `l'` is the run `steps` from `l` without its refunds. Between the calls
the tokens of either run may do anything. -/
inductive RefundsErased (host : Host T) (token' : Token T') :
    Ledger T → List (Step T) → Ledger T' → List (Step T') → Prop where
  | nil (l : Ledger T) (l' : Ledger T') : RefundsErased host token' l [] l' []
  | refund {l : Ledger T} {l' : Ledger T'} {steps : List (Step T)} {steps' : List (Step T')}
      (c : Call) (hop : c.op.isRefund = true)
      (rest : RefundsErased host token' (exec host l (.call c)) steps l' steps') :
      RefundsErased host token' l (.call c :: steps) l' steps'
  | call {l : Ledger T} {l' : Ledger T'} {steps : List (Step T)} {steps' : List (Step T')}
      (c : Call) (hop : c.op.isRefund = false)
      (answers : c.SameAnswers host l (host.withToken token') l')
      (rest : RefundsErased host token' (exec host l (.call c)) steps
        (exec (host.withToken token') l' (.call c)) steps') :
      RefundsErased host token' l (.call c :: steps) l' (.call c :: steps')
  | close {l : Ledger T} {l' : Ledger T'} {steps : List (Step T)} {steps' : List (Step T')}
      (t : U64)
      (rest : RefundsErased host token' (exec host l (.close t)) steps
        (exec (host.withToken token') l' (.close t)) steps') :
      RefundsErased host token' l (.close t :: steps) l' (.close t :: steps')
  | token {l : Ledger T} {l' : Ledger T'} {steps : List (Step T)} {steps' : List (Step T')} (t : T)
      (rest : RefundsErased host token' (exec host l (.token t)) steps l' steps') :
      RefundsErased host token' l (.token t :: steps) l' steps'
  | token' {l : Ledger T} {l' : Ledger T'} {steps : List (Step T)} {steps' : List (Step T')}
      (t : T') (rest : RefundsErased host token' l steps
        (exec (host.withToken token') l' (.token t)) steps') :
      RefundsErased host token' l steps l' (.token t :: steps')

theorem SameCharges.symm {l : Ledger T} {l' : Ledger T'} (h : SameCharges l l') :
    SameCharges l' l :=
  ⟨h.timestamp.symm, h.mandates.symm, h.payments.symm, h.usedCharges.symm⟩

theorem Call.SameAnswers.symm {c : Call} {host : Host T} {l : Ledger T} {host' : Host T'}
    {l' : Ledger T'} (h : c.SameAnswers host l host' l') (hs : SameCharges l l') :
    c.SameAnswers host' l' host l := by
  intro mandateId chargeId amount invoiceHash m hop hm
  rw [hs.getMandate_eq] at hm
  exact (h mandateId chargeId amount invoiceHash m hop hm).symm

/-- A call other than a refund that succeeds in one ledger succeeds, with the same value, in any
ledger with the same charges and answers, and leaves them the same charges. -/
theorem effect_sameCharges {host : Host T} {token' : Token T'} {l l₁ : Ledger T} {l' : Ledger T'}
    {c : Call} {v : Value} (hs : SameCharges l l') (hop : c.op.isRefund = false)
    (ha : c.SameAnswers host l (host.withToken token') l')
    (h : Effect host c.authorized l c.op v l₁) :
    ∃ l₁', Effect (host.withToken token') c.authorized l' c.op v l₁' ∧ SameCharges l₁ l₁' := by
  obtain ⟨op, authorized⟩ := c
  cases h with
  | created input hauth hfresh hvalid =>
      rw [← hs.getMandate_eq] at hfresh
      rw [← hs.timestamp] at hvalid
      refine ⟨_, .created input hauth hfresh hvalid, hs.timestamp, ?_, hs.payments, hs.usedCharges⟩
      show AList.insert _ (newMandate _ l'.timestamp input) l'.storage.mandates
        = AList.insert _ (newMandate _ l.timestamp input) l.storage.mandates
      rw [hs.timestamp, hs.mandates]
      rfl
  | statusChanged op mandateId m hm hauth hallowed =>
      rw [← hs.getMandate_eq] at hm
      rw [← hs.timestamp] at hallowed
      refine ⟨_, .statusChanged op mandateId m hm hauth hallowed, hs.timestamp, ?_, hs.payments,
        hs.usedCharges⟩
      show AList.insert m.id { m with status := op.target } l'.storage.mandates
        = AList.insert m.id { m with status := op.target } l.storage.mandates
      rw [hs.mandates]
  | charged mandateId chargeId amount invoiceHash m period collected t m' hm hc hpaid hacc =>
      -- the other token lets the charge through, as this one did
      have hanswers := ha mandateId chargeId amount invoiceHash m rfl hm
      have hyes := chargeAnswers_paid.mpr ⟨t, hpaid⟩
      rw [hanswers] at hyes
      obtain ⟨t', hpaid'⟩ := chargeAnswers_paid.mp hyes
      rw [← hs.getMandate_eq] at hm
      rw [← hs.timestamp] at hc hacc ⊢
      rw [← hs.hasUsedCharge_eq] at hc
      refine ⟨_, .charged mandateId chargeId amount invoiceHash m period collected t' m' hm hc
        hpaid' hacc, hs.timestamp, ?_, ?_, ?_⟩
      · show AList.insert _ m' l'.storage.mandates = AList.insert _ m' l.storage.mandates
        rw [hs.mandates]
      · show AList.insert _ _ l'.storage.payments = AList.insert _ _ l.storage.payments
        rw [hs.payments]
        rfl
      · show AList.insert _ true l'.storage.usedCharges = AList.insert _ true l.storage.usedCharges
        rw [hs.usedCharges]
        rfl
  | refunded mandateId paymentId amount refundId m payment total t _ _ _ _ => cases hop

theorem call_sameCharges {host : Host T} {token' : Token T'} {l : Ledger T} {l' : Ledger T'}
    {c : Call} (hs : SameCharges l l') (hop : c.op.isRefund = false)
    (ha : c.SameAnswers host l (host.withToken token') l') :
    SameCharges (exec host l (.call c)) (exec (host.withToken token') l' (.call c)) := by
  show SameCharges (invoke host c l).2 (invoke (host.withToken token') c l').2
  cases hout : (invoke host c l).1 with
  | ok v =>
      obtain ⟨l₁, hl₁, heffect⟩ := exists_effect hout
      obtain ⟨l₁', heffect', hs'⟩ := effect_sameCharges hs hop ha heffect
      rw [hl₁, invoke_ok.mpr heffect']
      exact hs'
  | error f =>
      cases hout' : (invoke (host.withToken token') c l').1 with
      | error f' =>
          rw [invoke_error hout, invoke_error hout']
          exact hs
      | ok v =>
          -- a success in the second run would be one in the first
          obtain ⟨l₁', -, heffect'⟩ := exists_effect hout'
          obtain ⟨l₁, heffect, -⟩ := @effect_sameCharges T' T (host.withToken token') host.token
            _ _ _ _ _ hs.symm hop (ha.symm hs) heffect'
          have hok : (invoke host c l).1 = .ok v := congrArg Prod.fst (invoke_ok.mpr heffect)
          rw [hout] at hok
          cases hok

/-- **Deleting the refunds changes no record, no receipt and no replay guard.** -/
theorem run_refundsErased {host : Host T} {token' : Token T'} {l : Ledger T} {l' : Ledger T'}
    {steps : List (Step T)} {steps' : List (Step T')} (hs : SameCharges l l')
    (h : RefundsErased host token' l steps l' steps') :
    SameCharges (run host l steps) (run (host.withToken token') l' steps') := by
  induction h with
  | nil l l' => exact hs
  | @refund l₁ l₁' _ _ c hop rest ih =>
      have hkeep : SameCharges l₁ (exec host l₁ (.call c)) := sameCharges_refund hop
      exact ih ⟨hs.timestamp.trans hkeep.timestamp.symm, hs.mandates.trans hkeep.mandates.symm,
        hs.payments.trans hkeep.payments.symm, hs.usedCharges.trans hkeep.usedCharges.symm⟩
  | call c hop answers rest ih => exact ih (call_sameCharges hs hop answers)
  | close t rest ih =>
      refine ih ⟨?_, hs.mandates, hs.payments, hs.usedCharges⟩
      show advance _ t = advance _ t
      rw [hs.timestamp]
  | token t rest ih => exact ih ⟨hs.timestamp, hs.mandates, hs.payments, hs.usedCharges⟩
  | token' t rest ih => exact ih ⟨hs.timestamp, hs.mandates, hs.payments, hs.usedCharges⟩

/-- One way to delete the refunds: every call that stays finds the tokens as it found them in the
original run. -/
def eraseRefunds (host : Host T) : Ledger T → List (Step T) → List (Step T)
  | _, [] => []
  | l, .call c :: steps =>
      if c.op.isRefund then eraseRefunds host (exec host l (.call c)) steps
      else .token l.token :: .call c :: eraseRefunds host (exec host l (.call c)) steps
  | l, step :: steps => step :: eraseRefunds host (exec host l step) steps

theorem refundsErased_eraseRefunds (host : Host T) (steps : List (Step T)) (l l' : Ledger T) :
    RefundsErased host host.token l steps l' (eraseRefunds host l steps) := by
  induction steps generalizing l l' with
  | nil => exact .nil l l'
  | cons step steps ih =>
      cases step with
      | close t => exact .close t (ih _ _)
      | token t => exact .token t (.token' t (ih _ _))
      | call c =>
          rw [eraseRefunds]
          by_cases hop : c.op.isRefund = true
          · rw [if_pos hop]
            exact .refund c hop (ih _ _)
          · rw [if_neg hop]
            refine .token' l.token (.call c (by simpa using hop) ?_ (ih _ _))
            intro mandateId chargeId amount invoiceHash m _ _
            rfl

/-- **The refund books.** In every reachable state the refunded total of a payment is the sum of its
refund receipts and at most the payment, and refund ids are used exactly when their receipt is
stored; over the whole run each succeeds at most once; refunds change no record and no payment
receipt, so the run with the refunds deleted, its charges getting the same token answers, ends with
the same clock, records, receipts and replay guards. -/
theorem refund_books {host : Host T} (hinj : Function.Injective host.sha256) (t₀ : U64) (tok₀ : T)
    (steps : List (Step T)) :
    let l := run host (genesis t₀ tok₀) steps
    (∀ pid p, l.storage.getPayment pid = some p →
      (l.storage.getRefundedTotal pid).val
        = ((l.storage.refundsOf pid).map fun r => r.amount.val).sum ∧
      (l.storage.getRefundedTotal pid).val ≤ p.amount.val) ∧
    (∀ rid, l.storage.hasUsedRefund rid ↔ ∃ r, l.storage.getRefund rid = some r) ∧
    (∀ rid, (log host (genesis t₀ tok₀) steps).countP (·.refunds rid) ≤ 1) ∧
    (∀ c : Call, c.op.isRefund = true →
      (invoke host c l).2.storage.mandates = l.storage.mandates ∧
      (invoke host c l).2.storage.payments = l.storage.payments) ∧
    RefundsErased host host.token (genesis t₀ tok₀) steps (genesis t₀ tok₀)
      (eraseRefunds host (genesis t₀ tok₀) steps) ∧
    ∀ (T' : Type) (token' : Token T') (tok₀' : T') (steps' : List (Step T')),
      RefundsErased host token' (genesis t₀ tok₀) steps (genesis t₀ tok₀') steps' →
      SameCharges l (run (host.withToken token') (genesis t₀ tok₀') steps') := by
  intro l
  have hr : RefundBooks l.storage := (fullBooks_run hinj t₀ tok₀ steps).2
  refine ⟨fun pid p hp => ⟨hr.total_eq pid, hr.total_le hp⟩, hr.used_iff, fun rid => ?_,
    fun c hop => ?_, refundsErased_eraseRefunds host steps _ _, fun T' token' tok₀' steps' h => ?_⟩
  · exact countP_refunds_le rid steps (genesis t₀ tok₀)
  · have hsame : SameCharges l (invoke host c l).2 := sameCharges_refund hop
    exact ⟨hsame.mandates, hsame.payments⟩
  · exact run_refundsErased ⟨rfl, rfl, rfl, rfl⟩ h

end

theorem refund_books_mock :
    (log mockHost mockStart mockRun).countP (·.refunds ⟨9⟩) = 1 ∧
    ∀ rid, (log mockHost mockStart mockRun).countP (·.refunds rid) ≤ 1 :=
  ⟨by decide, (refund_books encodeDigest_injective _ _ mockRun).2.2.1⟩

end Paymap.Registry
