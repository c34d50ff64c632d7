import Paymap.Registry.RefundBooks

set_option autoImplicit false

/-! # One mandate among others

What the storage holds for one mandate: its record, its payment receipts, its replay guards
(`SameMandate` says two storages agree on these), the refunded totals of its payments and the refund
receipts for them (`SameRefunds`). A call on another mandate leaves all of it alone. Receipts are
keyed by a digest of the mandate and the charge, so no charge of another mandate finds its way into
them; refund ids are one namespace for the whole contract, and the guard of a refund id is the one
thing another mandate can take away (`ConsumedElsewhere`).

A call on the mandate itself ends alike in two ledgers that agree on it and whose tokens show the
parties the same, up to that guard.
-/

namespace Paymap.Registry

/-! ## What is stored for a mandate -/

section

variable {T : Type}

/-- The mandate an operation is on. -/
def Op.mandateId (host : Host T) : Op → BytesN
  | .createMandate input => host.inputId input
  | .changeStatus _ mandateId => mandateId
  | .charge mandateId _ _ _ => mandateId
  | .refund mandateId _ _ _ => mandateId

end

namespace Storage

/-- The payment, when it is one of mandate `id`. -/
def paymentOf (s : Storage) (id paymentId : BytesN) : Option PaymentReceipt :=
  (s.getPayment paymentId).filter fun r => r.mandateId = id

/-- The refund, when it is one of a payment of mandate `id`. -/
def refundOf (s : Storage) (id refundId : BytesN) : Option RefundReceipt :=
  (s.getRefund refundId).filter fun r => (s.paymentOf id r.paymentId).isSome

/-- The refund id is used up by a refund on another mandate than `id`. -/
def ConsumedElsewhere (s : Storage) (id refundId : BytesN) : Prop :=
  ∃ r p, s.getRefund refundId = some r ∧ s.getPayment r.paymentId = some p ∧ p.mandateId ≠ id

theorem paymentOf_eq_some {s : Storage} {id pid : BytesN} {r : PaymentReceipt} :
    s.paymentOf id pid = some r ↔ s.getPayment pid = some r ∧ r.mandateId = id := by
  simp [paymentOf, Option.filter_eq_some_iff]

theorem refundOf_eq_some {s : Storage} {id rid : BytesN} {r : RefundReceipt} :
    s.refundOf id rid = some r ↔
      s.getRefund rid = some r ∧ (s.paymentOf id r.paymentId).isSome := by
  simp [refundOf, Option.filter_eq_some_iff]

theorem paymentOf_setPayment (s : Storage) (r : PaymentReceipt) (id pid : BytesN) :
    (s.setPayment r).paymentOf id pid
      = if pid = r.paymentId then (some r).filter (fun r => r.mandateId = id)
        else s.paymentOf id pid := by
  unfold paymentOf
  rw [getPayment_setPayment]
  split <;> rfl

end Storage

structure SameMandate (id : BytesN) (s s' : Storage) : Prop where
  record : s'.getMandate id = s.getMandate id
  payment : ∀ pid, s'.paymentOf id pid = s.paymentOf id pid
  used : ∀ c, s'.hasUsedCharge id c = s.hasUsedCharge id c

structure SameRefunds (id : BytesN) (s s' : Storage) : Prop where
  total : ∀ pid, (s.paymentOf id pid).isSome → s'.getRefundedTotal pid = s.getRefundedTotal pid
  refund : ∀ rid, s'.refundOf id rid = s.refundOf id rid

/-- Everything about the mandate is the same. -/
def SameOf (id : BytesN) (s s' : Storage) : Prop := SameMandate id s s' ∧ SameRefunds id s s'

section

variable {id : BytesN} {s s₁ s' s₁' : Storage}

theorem SameMandate.refl (s : Storage) : SameMandate id s s := ⟨rfl, fun _ => rfl, fun _ => rfl⟩

theorem SameRefunds.refl (s : Storage) : SameRefunds id s s := ⟨fun _ _ => rfl, fun _ => rfl⟩

theorem SameMandate.trans (h : SameMandate id s s₁) (h₁ : SameMandate id s₁ s') :
    SameMandate id s s' :=
  ⟨h₁.record.trans h.record, fun pid => (h₁.payment pid).trans (h.payment pid),
    fun c => (h₁.used c).trans (h.used c)⟩

theorem SameMandate.symm (h : SameMandate id s s') : SameMandate id s' s :=
  ⟨h.record.symm, fun pid => (h.payment pid).symm, fun c => (h.used c).symm⟩

theorem SameOf.refl (s : Storage) : SameOf id s s := ⟨.refl s, .refl s⟩

theorem SameOf.trans (h : SameOf id s s₁) (h₁ : SameOf id s₁ s') : SameOf id s s' := by
  refine ⟨h.1.trans h₁.1, fun pid hpid => ?_, fun rid => (h₁.2.refund rid).trans (h.2.refund rid)⟩
  have hpid₁ : (s₁.paymentOf id pid).isSome := by rwa [h.1.payment pid]
  exact (h₁.2.total pid hpid₁).trans (h.2.total pid hpid)

theorem SameOf.symm (h : SameOf id s s') : SameOf id s' s := by
  refine ⟨h.1.symm, fun pid hpid => ?_, fun rid => (h.2.refund rid).symm⟩
  rw [h.1.payment pid] at hpid
  exact (h.2.total pid hpid).symm

/-- A used refund id is used by the mandate or elsewhere. -/
theorem RefundBooks.used_cases (hr : RefundBooks s) {rid : BytesN} :
    s.hasUsedRefund rid ↔ (s.refundOf id rid).isSome ∨ s.ConsumedElsewhere id rid := by
  rw [hr.used_iff]
  constructor
  · rintro ⟨r, hrid⟩
    obtain ⟨p, hp⟩ := hr.payment hrid
    by_cases hmine : p.mandateId = id
    · have hpaid : s.paymentOf id r.paymentId = some p := Storage.paymentOf_eq_some.mpr ⟨hp, hmine⟩
      have hrefund : s.refundOf id rid = some r :=
        Storage.refundOf_eq_some.mpr ⟨hrid, by rw [hpaid]; rfl⟩
      exact .inl (by rw [hrefund]; rfl)
    · exact .inr ⟨r, p, hrid, hp, hmine⟩
  · rintro (h | ⟨r, p, hrid, -⟩)
    · obtain ⟨r, hrefund⟩ := Option.isSome_iff_exists.mp h
      exact ⟨r, (Storage.refundOf_eq_some.mp hrefund).1⟩
    · exact ⟨r, hrid⟩

end

/-! ## What one write changes -/

section

variable {id : BytesN} {s s' : Storage}

theorem sameOf_setMandate {m : Mandate} (hne : m.id ≠ id) : SameOf id s (s.setMandate m) := by
  refine ⟨⟨?_, fun _ => rfl, fun _ => rfl⟩, fun _ _ => rfl, fun _ => rfl⟩
  rw [Storage.getMandate_setMandate, if_neg hne.symm]

theorem sameOf_markChargeUsed {mandateId chargeId : BytesN} (hne : mandateId ≠ id) :
    SameOf id s (s.markChargeUsed mandateId chargeId) := by
  refine ⟨⟨rfl, fun _ => rfl, fun c => ?_⟩, fun _ _ => rfl, fun _ => rfl⟩
  have hiff := Storage.hasUsedCharge_markChargeUsed s mandateId chargeId id c
  rw [or_iff_right fun h => hne h.1.symm] at hiff
  exact Bool.eq_iff_iff.mpr hiff

theorem sameOf_setPayment {r : PaymentReceipt} (hfresh : s.getPayment r.paymentId = none)
    (hne : r.mandateId ≠ id) : SameOf id s (s.setPayment r) := by
  have hpayment : ∀ pid, (s.setPayment r).paymentOf id pid = s.paymentOf id pid := by
    intro pid
    rw [Storage.paymentOf_setPayment]
    split
    · rename_i heq
      rw [heq, Storage.paymentOf, hfresh]
      simp [hne]
    · rfl
  refine ⟨⟨rfl, hpayment, fun _ => rfl⟩, fun _ _ => rfl, fun rid => ?_⟩
  unfold Storage.refundOf
  simp only [hpayment]
  rfl

theorem sameOf_setRefundedTotal {pid : BytesN} {total : I128} (hnone : s.paymentOf id pid = none) :
    SameOf id s (s.setRefundedTotal pid total) := by
  refine ⟨⟨rfl, fun _ => rfl, fun _ => rfl⟩, fun pid' hpid' => ?_, fun _ => rfl⟩
  have hne : pid' ≠ pid := by
    rintro rfl
    rw [hnone] at hpid'
    cases hpid'
  rw [Storage.getRefundedTotal_setRefundedTotal, if_neg hne]

theorem sameOf_markRefundUsed (rid : BytesN) : SameOf id s (s.markRefundUsed rid) :=
  ⟨⟨rfl, fun _ => rfl, fun _ => rfl⟩, fun _ _ => rfl, fun _ => rfl⟩

theorem sameOf_setRefund {r : RefundReceipt} (hfresh : s.getRefund r.refundId = none)
    (hnone : s.paymentOf id r.paymentId = none) : SameOf id s (s.setRefund r) := by
  refine ⟨⟨rfl, fun _ => rfl, fun _ => rfl⟩, fun _ _ => rfl, fun rid => ?_⟩
  show ((s.setRefund r).getRefund rid).filter (fun r => (s.paymentOf id r.paymentId).isSome) = _
  rw [Storage.getRefund_setRefund]
  split
  · rename_i heq
    rw [heq, Storage.refundOf, hfresh]
    simp [hnone]
  · rfl

/-! Two storages that agree, after the same write. -/

theorem SameMandate.setMandate (h : SameMandate id s s') (m : Mandate) :
    SameMandate id (s.setMandate m) (s'.setMandate m) := by
  refine ⟨?_, h.payment, h.used⟩
  rw [Storage.getMandate_setMandate, Storage.getMandate_setMandate, h.record]

theorem SameMandate.markChargeUsed (h : SameMandate id s s') (mandateId chargeId : BytesN) :
    SameMandate id (s.markChargeUsed mandateId chargeId) (s'.markChargeUsed mandateId chargeId) := by
  refine ⟨h.record, h.payment, fun c => Bool.eq_iff_iff.mpr ?_⟩
  rw [Storage.hasUsedCharge_markChargeUsed, Storage.hasUsedCharge_markChargeUsed, h.used c]

theorem SameMandate.setPayment (h : SameMandate id s s') (r : PaymentReceipt) :
    SameMandate id (s.setPayment r) (s'.setPayment r) := by
  refine ⟨h.record, fun pid => ?_, h.used⟩
  rw [Storage.paymentOf_setPayment, Storage.paymentOf_setPayment, h.payment pid]

/-- A new payment has no refunds yet. -/
theorem RefundBooks.refundOf_setPayment (hr : RefundBooks s) {r : PaymentReceipt}
    (hfresh : s.getPayment r.paymentId = none) (rid : BytesN) :
    (s.setPayment r).refundOf id rid = s.refundOf id rid := by
  show (s.getRefund rid).filter (fun x => ((s.setPayment r).paymentOf id x.paymentId).isSome) = _
  unfold Storage.refundOf
  cases hrid : s.getRefund rid with
  | none => rfl
  | some x =>
      obtain ⟨p, hp⟩ := hr.payment hrid
      have hne : x.paymentId ≠ r.paymentId := by
        intro heq
        rw [heq, hfresh] at hp
        cases hp
      simp only [Option.filter_some, Storage.paymentOf_setPayment, if_neg hne]

theorem RefundBooks.getRefundedTotal_eq_zero {T : Type} {l : Ledger T} (hr : RefundBooks l.storage)
    {pid : BytesN} (hfresh : l.storage.getPayment pid = none) :
    l.storage.getRefundedTotal pid = 0 := by
  refine MachineInt.ext ?_
  rw [hr.total_eq, hr.refundsOf_eq_nil hfresh]
  rfl

theorem SameMandate.charged (h : SameMandate id s s') (m : Mandate) (r : PaymentReceipt) :
    SameMandate id (((s.setMandate m).markChargeUsed r.mandateId r.chargeId).setPayment r)
      (((s'.setMandate m).markChargeUsed r.mandateId r.chargeId).setPayment r) :=
  ((h.setMandate m).markChargeUsed _ _).setPayment r

theorem SameRefunds.charged {T : Type} {l l' : Ledger T} (hr : RefundBooks l.storage)
    (hr' : RefundBooks l'.storage) {m : Mandate} {r : PaymentReceipt}
    (hfresh : l.storage.getPayment r.paymentId = none)
    (hfresh' : l'.storage.getPayment r.paymentId = none)
    (h : SameRefunds id l.storage l'.storage) :
    SameRefunds id
      (((l.storage.setMandate m).markChargeUsed r.mandateId r.chargeId).setPayment r)
      (((l'.storage.setMandate m).markChargeUsed r.mandateId r.chargeId).setPayment r) := by
  constructor
  · intro pid hpid
    show l'.storage.getRefundedTotal pid = l.storage.getRefundedTotal pid
    by_cases heq : pid = r.paymentId
    · rw [heq, hr.getRefundedTotal_eq_zero hfresh, hr'.getRefundedTotal_eq_zero hfresh']
    · rw [Storage.paymentOf_setPayment, if_neg heq] at hpid
      exact h.total pid hpid
  · intro rid
    show (l'.storage.setPayment r).refundOf id rid = (l.storage.setPayment r).refundOf id rid
    rw [hr.refundOf_setPayment hfresh, hr'.refundOf_setPayment hfresh', h.refund rid]

theorem SameRefunds.refunded (hm : SameMandate id s s') (h : SameRefunds id s s')
    (r : RefundReceipt) (total : I128) :
    SameRefunds id (((s.setRefundedTotal r.paymentId total).markRefundUsed r.refundId).setRefund r)
      (((s'.setRefundedTotal r.paymentId total).markRefundUsed r.refundId).setRefund r) := by
  constructor
  · intro pid hpid
    show (s'.setRefundedTotal r.paymentId total).getRefundedTotal pid
      = (s.setRefundedTotal r.paymentId total).getRefundedTotal pid
    rw [Storage.getRefundedTotal_setRefundedTotal, Storage.getRefundedTotal_setRefundedTotal]
    split
    · rfl
    · exact h.total pid hpid
  · intro rid
    have hrefund := h.refund rid
    unfold Storage.refundOf at hrefund ⊢
    rw [Storage.getRefund_setRefund, Storage.getRefund_setRefund]
    split
    · show (some r).filter (fun x => (s'.paymentOf id x.paymentId).isSome)
        = (some r).filter (fun x => (s.paymentOf id x.paymentId).isSome)
      simp only [hm.payment]
    · exact hrefund

end

/-! ## Calls on other mandates -/

section

variable {T : Type} {host : Host T} {l : Ledger T} {id : BytesN}

theorem sameOf_effect (hb : FullBooks host l) {authorized : List Address} {op : Op} {v : Value}
    {l' : Ledger T} (hne : op.mandateId host ≠ id) (h : Effect host authorized l op v l') :
    SameOf id l.storage l'.storage := by
  obtain ⟨hb, hr⟩ := hb
  cases h with
  | created input _ _ _ => exact sameOf_setMandate hne
  | statusChanged op mandateId m hm _ _ =>
      have hid : m.id ≠ id := (hb.mandate_id hm).trans_ne hne
      exact sameOf_setMandate hid
  | charged mandateId chargeId amount invoiceHash m period collected t m' hm hc _ ha =>
      have hid : m'.id ≠ id :=
        ((congrArg Terms.id ha.terms_eq).trans (hb.mandate_id hm)).trans_ne hne
      have hfresh := hb.getPayment_eq_none hc.unused
      exact (sameOf_setMandate hid).trans
        ((sameOf_markChargeUsed hne).trans (sameOf_setPayment hfresh hne))
  | refunded mandateId paymentId amount refundId m payment total t hm hp hc _ =>
      have hnone : l.storage.paymentOf id paymentId = none := by
        have hother : mandateId ≠ id := hne
        simp [Storage.paymentOf, hp, hc.belongs, hother]
      have hfresh := hr.getRefund_eq_none hc.unused
      exact (sameOf_setRefundedTotal hnone).trans
        ((sameOf_markRefundUsed refundId).trans (sameOf_setRefund hfresh hnone))

/-- **A call on another mandate leaves the mandate alone.** -/
theorem sameOf_call (hb : FullBooks host l) {c : Call} (hne : c.op.mandateId host ≠ id) :
    SameOf id l.storage (invoke host c l).2.storage := by
  cases hout : (invoke host c l).1 with
  | error f =>
      rw [invoke_error hout]
      exact .refl _
  | ok v =>
      obtain ⟨l', hl', heffect⟩ := exists_effect hout
      rw [hl']
      exact sameOf_effect hb hne heffect

end

/-! ## Calls on the mandate itself -/

section

variable {T V : Type} {host : Host T} {sees : T → Address → Address → Address → V} {id : BytesN}
  {l l' : Ledger T}

/-- The two ledgers agree on the time and the mandate, and the tokens show its parties the same. -/
structure Alike (sees : T → Address → Address → Address → V) (id : BytesN) (l l' : Ledger T) :
    Prop where
  timestamp : l'.timestamp = l.timestamp
  mandate : SameMandate id l.storage l'.storage
  tokens : ∀ m ∈ l.storage.getMandate id,
    sees l.token m.asset m.payer m.merchant = sees l'.token m.asset m.payer m.merchant

/-- `u` and `u'` are `l` and `l'` but for the tokens, which look the same. -/
structure Beside (look : T → V) (l l' u u' : Ledger T) : Prop where
  books : SameBooks l u
  books' : SameBooks l' u'
  same : look u.token = look u'.token

theorem sameEnd_query {look : T → V} {u u' : Ledger T} (hu : Beside look l l' u u')
    {call : T → Option (I128 × T)}
    (h : Option.Rel (SameAnswer look) (call u.token) (call u'.token)) :
    Tx.SameEnd (Beside look l l') ((Env.query call).run u) ((Env.query call).run u') := by
  show Tx.SameEnd _ (Env.query call u) (Env.query call u')
  unfold Env.query
  generalize call u.token = o at h
  generalize call u'.token = o' at h
  cases h with
  | none => exact .error _ u u'
  | @some p p' hp =>
      obtain ⟨x, t⟩ := p
      obtain ⟨x', t'⟩ := p'
      obtain ⟨rfl, hlook⟩ : x = x' ∧ look t = look t' := hp
      exact .ok x ⟨hu.books, hu.books', hlook⟩

theorem sameEnd_execute {u u' : Ledger T} (hu : SameBooks l u) (hu' : SameBooks l' u')
    {call : T → Option T} (h : (call u.token).isSome ↔ (call u'.token).isSome) :
    Tx.SameEnd (fun v v' => SameBooks l v ∧ SameBooks l' v') ((Env.execute call).run u)
      ((Env.execute call).run u') := by
  show Tx.SameEnd _ (Env.execute call u) (Env.execute call u')
  unfold Env.execute
  generalize call u.token = o at h
  generalize call u'.token = o' at h
  cases o with
  | none =>
      cases o' with
      | none => exact .error _ u u'
      | some t' => simp at h
  | some t =>
      cases o' with
      | none => simp at h
      | some t' => exact .ok () ⟨hu, hu'⟩

/-- What the ends of a call on the mandate have in common. -/
def CommonEnd (id : BytesN) (l l' u u' : Ledger T) : Prop :=
  SameMandate id u.storage u'.storage ∧
    (SameRefunds id l.storage l'.storage → SameRefunds id u.storage u'.storage)

theorem sameEnd_createMandate (h : Alike sees id l l') {authorized : List Address}
    {input : MandateInput} (hid : host.inputId input = id) :
    Tx.SameEnd (CommonEnd id l l') ((createMandate (host.env authorized) input).run l)
      ((createMandate (host.env authorized) input).run l') := by
  have hrecord : l'.storage.getMandate (host.inputId input)
      = l.storage.getMandate (host.inputId input) := by
    rw [hid]
    exact h.mandate.record
  unfold createMandate
  refine .check rfl fun _ _ => ?_
  rw [Tx.run_get_bind, Tx.run_get_bind]
  refine .check ?_ fun _ _ => .check ?_ fun _ _ => ?_
  · exact congrArg (fun o : Option Mandate => Tx.rejectIf o.isSome (Failure.err .duplicateMandate))
      hrecord
  · rw [h.timestamp]
  · rw [h.timestamp]
    exact .ok _ ⟨h.mandate.setMandate _, fun hr => ⟨hr.total, hr.refund⟩⟩

theorem sameEnd_changeStatus (h : Alike sees id l l') {authorized : List Address} (op : StatusOp) :
    Tx.SameEnd (CommonEnd id l l') ((changeStatus (host.env authorized) op id).run l)
      ((changeStatus (host.env authorized) op id).run l') := by
  unfold changeStatus
  rw [Tx.run_get_bind, Tx.run_get_bind]
  refine .check (by rw [h.mandate.record]) fun m _ => .check rfl fun _ _ => ?_
  refine .check (by rw [h.timestamp]) fun _ _ => ?_
  exact .ok _ ⟨h.mandate.setMandate _, fun hr => ⟨hr.total, hr.refund⟩⟩

theorem sameEnd_charge (hsees : host.token.DependsOn host.currentContractAddress sees)
    (hb : FullBooks host l) (hb' : FullBooks host l') (h : Alike sees id l l')
    {authorized : List Address} (chargeId : BytesN) (amount : I128) (invoiceHash : BytesN) :
    Tx.SameEnd (CommonEnd id l l')
      ((charge (host.env authorized) id chargeId amount invoiceHash).run l)
      ((charge (host.env authorized) id chargeId amount invoiceHash).run l') := by
  unfold charge
  rw [Tx.run_get_bind, Tx.run_get_bind]
  -- the record, then the checks on it and on the replay guard
  refine .check (by rw [h.mandate.record]) fun m hm => ?_
  refine .check (by rw [h.timestamp, h.mandate.used]) fun checked hchecked => ?_
  obtain ⟨period, collected⟩ := checked
  have hm : l.storage.getMandate id = some m := okOr_ok.mp hm
  have hunused := (chargeChecks_ok.mp hchecked).unused
  have hbeside : Beside (fun t => sees t m.asset m.payer m.merchant) l l' l l' :=
    ⟨.refl l, .refl l', h.tokens m hm⟩
  -- the token answers the three calls alike, since it shows the parties the same
  refine .bind (sameEnd_query hbeside (hsees.allowance hbeside.same)) fun allowance u u' hu => ?_
  refine .check rfl fun _ _ => ?_
  refine .bind (sameEnd_query hu (hsees.balance (.inl rfl) hu.same)) fun balance u u' hu => ?_
  refine .check rfl fun _ _ => ?_
  refine .bind (sameEnd_execute hu.books hu.books' (hsees.transferFrom _ _ hu.same))
    fun _ u u' hu => ?_
  refine .check (by rw [h.timestamp]) fun m' _ => ?_
  rw [h.timestamp]
  set r := newReceipt (host.env authorized).toHost m' id chargeId amount invoiceHash l.timestamp
  have hfresh : l.storage.getPayment r.paymentId = none := hb.1.getPayment_eq_none hunused
  have hfresh' : l'.storage.getPayment r.paymentId = none := by
    rw [← h.mandate.used] at hunused
    exact hb'.1.getPayment_eq_none hunused
  -- the same is recorded in storages that agree
  have hend : CommonEnd id l l' (chargedLedger u m' period r u.token)
      (chargedLedger u' m' period r u'.token) := by
    unfold CommonEnd chargedLedger
    rw [hu.1.2.1, hu.2.2.1]
    exact ⟨h.mandate.charged m' r, .charged hb.2 hb'.2 hfresh hfresh'⟩
  show Tx.SameEnd _ ((recordCharge m' period r >>= fun _ => pure r).run u)
    ((recordCharge m' period r >>= fun _ => pure r).run u')
  rw [EStateM.run_bind, EStateM.run_bind, run_recordCharge, run_recordCharge]
  exact .ok r hend

/-- A payment of the mandate has the parties and the asset of its record. -/
theorem Books.paymentOf_allowed (hb : Books host l) {pid : BytesN} {p : PaymentReceipt} {m : Mandate}
    (hp : l.storage.paymentOf id pid = some p) (hm : l.storage.getMandate id = some m) :
    m.terms.Allows p := by
  obtain ⟨hpid, hid⟩ := Storage.paymentOf_eq_some.mp hp
  exact (hb.mandate hm).each p (mem_receiptsOf.mpr ⟨⟨pid, hpid⟩, hid⟩)

/-- A refund of a payment of the mandate, when the refund id is used in both ledgers or in none. -/
theorem sameEnd_refund (hsees : host.token.DependsOn host.currentContractAddress sees)
    (hb : FullBooks host l) (h : Alike sees id l l') (hr : SameRefunds id l.storage l'.storage)
    {authorized : List Address} {paymentId refundId : BytesN} {p : PaymentReceipt} (amount : I128)
    (hp : l.storage.paymentOf id paymentId = some p)
    (hused : l'.storage.hasUsedRefund refundId = l.storage.hasUsedRefund refundId) :
    Tx.SameEnd (fun u u' => SameOf id u.storage u'.storage)
      ((refund (host.env authorized) id paymentId amount refundId).run l)
      ((refund (host.env authorized) id paymentId amount refundId).run l') := by
  have hstored := (Storage.paymentOf_eq_some.mp hp).1
  have hstored' : l'.storage.getPayment paymentId = some p := by
    rw [← h.mandate.payment] at hp
    exact (Storage.paymentOf_eq_some.mp hp).1
  have htotal := hr.total paymentId (by rw [hp]; rfl)
  unfold refund
  rw [Tx.run_get_bind, Tx.run_get_bind]
  refine .check (by rw [h.mandate.record]) fun m hm => ?_
  have hm : l.storage.getMandate id = some m := okOr_ok.mp hm
  have hallows := hb.1.paymentOf_allowed hp hm
  refine .check (by rw [hstored, hstored']) fun payment hpayment => ?_
  obtain rfl : p = payment := Option.some.inj (hstored.symm.trans (okOr_ok.mp hpayment))
  refine .check (by rw [hused, htotal]) fun total _ => ?_
  have hbeside : Beside (fun t => sees t p.asset p.payer p.merchant) l l' l l' := by
    refine ⟨.refl l, .refl l', ?_⟩
    rw [hallows.asset_eq, hallows.payer_eq, hallows.merchant_eq]
    exact h.tokens m hm
  -- the token answers alike, and then the same is recorded
  refine .bind (sameEnd_query hbeside (hsees.balance (.inr rfl) hbeside.same))
    fun balance u u' hu => ?_
  refine .check rfl fun _ _ => ?_
  refine .bind (sameEnd_execute hu.books hu.books' (hsees.transfer _ _ hu.same))
    fun _ u u' hu => ?_
  rw [h.timestamp]
  set r := newRefundReceipt refundId paymentId amount l.timestamp
  have hend : SameOf id (refundedLedger u p id r total u.token).storage
      (refundedLedger u' p id r total u'.token).storage := by
    unfold refundedLedger
    rw [hu.1.2.1, hu.2.2.1]
    exact ⟨⟨h.mandate.record, h.mandate.payment, h.mandate.used⟩, hr.refunded h.mandate r total⟩
  show Tx.SameEnd _ ((recordRefund p id r total >>= fun _ => pure r).run u)
    ((recordRefund p id r total >>= fun _ => pure r).run u')
  rw [EStateM.run_bind, EStateM.run_bind, run_recordRefund, run_recordRefund]
  exact .ok r hend

/-! ### What a call answers -/

theorem call_alike (hsees : host.token.DependsOn host.currentContractAddress sees)
    (hb : FullBooks host l) (hb' : FullBooks host l') (h : Alike sees id l l') {c : Call}
    (hid : c.op.mandateId host = id) (hop : c.op.isRefund = false) :
    (invoke host c l).1 = (invoke host c l').1 ∧
      CommonEnd id l l' (invoke host c l).2 (invoke host c l').2 := by
  obtain ⟨op, authorized⟩ := c
  refine Tx.SameEnd.atomic ?_ ⟨h.mandate, fun hr => hr⟩
  cases op with
  | createMandate input =>
      exact .bind (sameEnd_createMandate h hid) fun a u u' hu => .ok _ hu
  | changeStatus op mandateId =>
      obtain rfl : mandateId = id := hid
      exact .bind (sameEnd_changeStatus h op) fun a u u' hu => .ok _ hu
  | charge mandateId chargeId amount invoiceHash =>
      obtain rfl : mandateId = id := hid
      exact .bind (sameEnd_charge hsees hb hb' h chargeId amount invoiceHash)
        fun a u u' hu => .ok _ hu
  | refund mandateId paymentId amount refundId => cases hop

/-- A refund that steps 3 to 7 refuse. -/
theorem invoke_refund_refused {authorized : List Address} {m : Mandate} {p : PaymentReceipt}
    {paymentId refundId : BytesN} {amount : I128} {f : Failure}
    (hm : l.storage.getMandate id = some m) (hp : l.storage.getPayment paymentId = some p)
    (hf : refundChecks (host.env authorized) m id p (l.storage.hasUsedRefund refundId)
      (l.storage.getRefundedTotal paymentId) amount = .error f) :
    invoke host ⟨.refund id paymentId amount refundId, authorized⟩ l = (.error f, l) := by
  refine Tx.atomic_error.mpr ⟨rfl, l, Tx.run_bind_error.mpr (.inl ?_)⟩
  unfold refund
  rw [Tx.run_get_bind, Tx.run_check_ok (okOr_ok.mpr hm), Tx.run_check_ok (okOr_ok.mpr hp),
    Tx.run_check_error hf]

theorem invoke_refund_no_mandate {authorized : List Address} {paymentId refundId : BytesN}
    {amount : I128} (hm : l.storage.getMandate id = none) :
    invoke host ⟨.refund id paymentId amount refundId, authorized⟩ l
      = (.error (.err .mandateNotFound), l) := by
  refine Tx.atomic_error.mpr ⟨rfl, l, Tx.run_bind_error.mpr (.inl ?_)⟩
  unfold refund
  rw [Tx.run_get_bind, Tx.run_check_error (okOr_error.mpr ⟨hm, rfl⟩)]

theorem invoke_refund_no_payment {authorized : List Address} {m : Mandate}
    {paymentId refundId : BytesN} {amount : I128} (hm : l.storage.getMandate id = some m)
    (hp : l.storage.paymentOf id paymentId = none) :
    invoke host ⟨.refund id paymentId amount refundId, authorized⟩ l
      = (.error (.err .paymentNotFound), l) := by
  cases hstored : l.storage.getPayment paymentId with
  | none =>
      refine Tx.atomic_error.mpr ⟨rfl, l, Tx.run_bind_error.mpr (.inl ?_)⟩
      unfold refund
      rw [Tx.run_get_bind, Tx.run_check_ok (okOr_ok.mpr hm),
        Tx.run_check_error (okOr_error.mpr ⟨hstored, rfl⟩)]
  | some p =>
      refine invoke_refund_refused hm hstored ?_
      have hother : p.mandateId ≠ id := by
        rintro rfl
        rw [Storage.paymentOf, hstored] at hp
        simp at hp
      simp [refundChecks, Tx.bind_error, hother]

/-- Step 4, then step 5. -/
theorem refundChecks_used {authorized : List Address} {m : Mandate} {p : PaymentReceipt}
    {total amount : I128} (hp : p.mandateId = id) :
    refundChecks (host.env authorized) m id p true total amount
      = .error (if m.merchant ∈ authorized then .err .duplicateRefund else .trap) := by
  by_cases hauth : m.merchant ∈ authorized
  · simp [refundChecks, Env.requireAuth, Host.env, Tx.bind_error, hp, hauth]
  · simp [refundChecks, Env.requireAuth, Host.env, Tx.bind_error, hp, hauth]

theorem refundChecks_unauthorized {authorized : List Address} {m : Mandate} {p : PaymentReceipt}
    {used : Bool} {total amount : I128} (hp : p.mandateId = id) (hauth : m.merchant ∉ authorized) :
    refundChecks (host.env authorized) m id p used total amount = .error .trap := by
  simp [refundChecks, Env.requireAuth, Host.env, Tx.bind_error, hp, hauth]

/-- A refund on the mandate whose refund id another mandate has used up. -/
def Op.Taken (id : BytesN) (op : Op) (s : Storage) : Prop :=
  ∃ paymentId amount refundId, op = .refund id paymentId amount refundId ∧
    s.ConsumedElsewhere id refundId

/-- The call is refused because of it. -/
def Displaced (host : Host T) (id : BytesN) (c : Call) (l : Ledger T) : Prop :=
  c.op.Taken id l.storage ∧ (invoke host c l).1 = .error (.err .duplicateRefund)

theorem consumedElsewhere_of_used (hr : RefundBooks l.storage) (hr' : RefundBooks l'.storage)
    (hsame : SameRefunds id l.storage l'.storage) {refundId : BytesN}
    (hused : l.storage.hasUsedRefund refundId = true)
    (hunused : l'.storage.hasUsedRefund refundId = false) :
    l.storage.ConsumedElsewhere id refundId := by
  have hcases : (l.storage.refundOf id refundId).isSome ∨ l.storage.ConsumedElsewhere id refundId :=
    hr.used_cases.mp hused
  rcases hcases with hmine | helse
  · rw [← hsame.refund] at hmine
    have hused' : l'.storage.hasUsedRefund refundId = true := hr'.used_cases.mpr (.inl hmine)
    rw [hused'] at hunused
    cases hunused
  · exact helse

/-- Used in one ledger only: refused there, unless both calls are refused before. -/
theorem refund_displaced (hr : RefundBooks l.storage) (hr' : RefundBooks l'.storage)
    (h : SameOf id l.storage l'.storage) (authorized : List Address) {m : Mandate}
    {p : PaymentReceipt} {paymentId refundId : BytesN} (amount : I128)
    (hm : l.storage.getMandate id = some m) (hp : l.storage.paymentOf id paymentId = some p)
    (hused : l.storage.hasUsedRefund refundId = true)
    (hunused : l'.storage.hasUsedRefund refundId = false) :
    (∃ f, (invoke host ⟨.refund id paymentId amount refundId, authorized⟩ l).1 = .error f) ∧
    ((invoke host ⟨.refund id paymentId amount refundId, authorized⟩ l).1
        = (invoke host ⟨.refund id paymentId amount refundId, authorized⟩ l').1 ∨
      Displaced host id ⟨.refund id paymentId amount refundId, authorized⟩ l) := by
  obtain ⟨hstored, hbelongs⟩ := Storage.paymentOf_eq_some.mp hp
  have hchecks : refundChecks (host.env authorized) m id p (l.storage.hasUsedRefund refundId)
      (l.storage.getRefundedTotal paymentId) amount
        = .error (if m.merchant ∈ authorized then .err .duplicateRefund else .trap) := by
    rw [hused]
    exact refundChecks_used hbelongs
  have hout := invoke_refund_refused hm hstored hchecks
  refine ⟨⟨_, congrArg Prod.fst hout⟩, ?_⟩
  by_cases hauth : m.merchant ∈ authorized
  · -- step 5 refuses it, as it is used
    right
    rw [if_pos hauth] at hout
    refine ⟨⟨paymentId, amount, refundId, rfl, ?_⟩, congrArg Prod.fst hout⟩
    exact consumedElsewhere_of_used hr hr' h.2 hused hunused
  · -- step 4 refuses both calls before they come to the guard
    left
    have hm' : l'.storage.getMandate id = some m := h.1.record.trans hm
    have hstored' : l'.storage.getPayment paymentId = some p :=
      (Storage.paymentOf_eq_some.mp ((h.1.payment paymentId).trans hp)).1
    have hchecks' : refundChecks (host.env authorized) m id p
        (l'.storage.hasUsedRefund refundId) (l'.storage.getRefundedTotal paymentId) amount
          = .error .trap := refundChecks_unauthorized hbelongs hauth
    rw [hout, invoke_refund_refused hm' hstored' hchecks', if_neg hauth]

/-- Used in both or in none. -/
theorem refund_same (hsees : host.token.DependsOn host.currentContractAddress sees)
    (hb : FullBooks host l) (h : Alike sees id l l') (hr : SameRefunds id l.storage l'.storage)
    (authorized : List Address) {paymentId refundId : BytesN} {p : PaymentReceipt} (amount : I128)
    (hp : l.storage.paymentOf id paymentId = some p)
    (hused : l'.storage.hasUsedRefund refundId = l.storage.hasUsedRefund refundId) :
    (invoke host ⟨.refund id paymentId amount refundId, authorized⟩ l).1
        = (invoke host ⟨.refund id paymentId amount refundId, authorized⟩ l').1 ∧
      SameRefunds id (invoke host ⟨.refund id paymentId amount refundId, authorized⟩ l).2.storage
        (invoke host ⟨.refund id paymentId amount refundId, authorized⟩ l').2.storage := by
  have hend : Tx.SameEnd (fun u u' => SameOf id u.storage u'.storage)
      (((Op.refund id paymentId amount refundId).body (host.env authorized)).run l)
      (((Op.refund id paymentId amount refundId).body (host.env authorized)).run l') :=
    .bind (sameEnd_refund hsees hb h hr amount hp hused) fun a u u' hu => .ok _ hu
  obtain ⟨hout, hsame⟩ := hend.atomic ⟨h.mandate, hr⟩
  exact ⟨hout, hsame.2⟩

theorem refund_alike (hsees : host.token.DependsOn host.currentContractAddress sees)
    (hb : FullBooks host l) (hb' : FullBooks host l') (h : Alike sees id l l')
    (hr : SameRefunds id l.storage l'.storage) {c : Call} (hid : c.op.mandateId host = id)
    (hop : c.op.isRefund = true) :
    ((invoke host c l).1 = (invoke host c l').1 ∨
      Displaced host id c l ∨ Displaced host id c l') ∧
    ((invoke host c l).1 = (invoke host c l').1 →
      SameRefunds id (invoke host c l).2.storage (invoke host c l').2.storage) := by
  -- calls that are refused alike leave the refunds as they were
  have hrefused : ∀ f, (invoke host c l).1 = .error f →
      (invoke host c l).1 = (invoke host c l').1 →
      SameRefunds id (invoke host c l).2.storage (invoke host c l').2.storage := by
    intro f hout hsame
    rw [invoke_error hout, invoke_error (hsame.symm.trans hout)]
    exact hr
  obtain ⟨op, authorized⟩ := c
  cases op with
  | createMandate input => cases hop
  | changeStatus op mandateId => cases hop
  | charge mandateId chargeId amount invoiceHash => cases hop
  | refund mandateId paymentId amount refundId =>
      obtain rfl : mandateId = id := hid
      cases hm : l.storage.getMandate mandateId with
      | none =>
          have hm' := h.mandate.record.trans hm
          refine ⟨.inl ?_, hrefused (.err .mandateNotFound) ?_⟩
          · rw [invoke_refund_no_mandate hm, invoke_refund_no_mandate hm']
          · rw [invoke_refund_no_mandate hm]
      | some m =>
          have hm' := h.mandate.record.trans hm
          cases hp : l.storage.paymentOf mandateId paymentId with
          | none =>
              have hp' := (h.mandate.payment paymentId).trans hp
              refine ⟨.inl ?_, hrefused (.err .paymentNotFound) ?_⟩
              · rw [invoke_refund_no_payment hm hp, invoke_refund_no_payment hm' hp']
              · rw [invoke_refund_no_payment hm hp]
          | some p =>
              have hp' := (h.mandate.payment paymentId).trans hp
              have hsame : SameOf mandateId l.storage l'.storage := ⟨h.mandate, hr⟩
              by_cases hused : l'.storage.hasUsedRefund refundId = l.storage.hasUsedRefund refundId
              · have hstep := refund_same hsees hb h hr authorized amount hp hused
                exact ⟨.inl hstep.1, fun _ => hstep.2⟩
              · -- one of the two ledgers has consumed the id, and it is refused there
                cases hhere : l.storage.hasUsedRefund refundId with
                | false =>
                    have hthere : l'.storage.hasUsedRefund refundId = true := by
                      simpa [hhere] using hused
                    obtain ⟨⟨f, hf⟩, hcases⟩ := refund_displaced hb'.2 hb.2 hsame.symm authorized
                      amount hm' hp' hthere hhere
                    exact ⟨hcases.imp Eq.symm .inr, fun heq => hrefused f (heq.trans hf) heq⟩
                | true =>
                    have hthere : l'.storage.hasUsedRefund refundId = false := by
                      simpa [hhere] using hused
                    obtain ⟨⟨f, hf⟩, hcases⟩ := refund_displaced hb.2 hb'.2 hsame authorized amount
                      hm hp hhere hthere
                    exact ⟨hcases.imp_right .inl, hrefused f hf⟩

end

end Paymap.Registry
