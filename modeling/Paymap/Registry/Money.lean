import Mathlib.Algebra.Order.BigOperators.Group.List
import Paymap.Registry.RefundBooks

set_option autoImplicit false

/-! # Money conservation

With faithful tokens, what registry calls move is what the receipts say. Movements are *measured*
on the balances before and after each call (`moved`), not read off the receipts, and added up over
the run by `Runs.total`. Each total is then compared with a sum over the stored receipts; since both
change by the same amount at every step, the comparison is the telescoping rule `Runs.total_eq`,
and the work is in one lemma for each step and each quantity.
-/

namespace Paymap.Registry

/-! ## What the receipts say -/

/-- The payments from `payer` to `merchant` in `asset`. -/
def Storage.paymentsBetween (s : Storage) (asset payer merchant : Address) : List PaymentReceipt :=
  (FinMap.values s.payments).filter fun p =>
    p.asset = asset ∧ p.payer = payer ∧ p.merchant = merchant

/-- The payments `payer` made in `asset`. -/
def Storage.paymentsFrom (s : Storage) (asset payer : Address) : List PaymentReceipt :=
  (FinMap.values s.payments).filter fun p => p.asset = asset ∧ p.payer = payer

/-- What payments add up to. -/
def collectedOf (payments : List PaymentReceipt) : Int :=
  (payments.map fun p => p.amount.val).sum

/-- What the refund receipts of payments add up to. -/
def Storage.refundedOf (s : Storage) (payments : List PaymentReceipt) : Int :=
  (payments.map fun p => ((s.refundsOf p.paymentId).map fun r => r.amount.val).sum).sum

/-! ## What the balances say -/

section

variable {T : Type} (view : Holdings T)

/-- What has moved from `source` to `dest` between two states of the tokens: as much as the one has
lost and the other has gained. -/
def moved (t t' : T) (asset source dest : Address) : Int :=
  max 0 (min (view.balanceOf t asset source - view.balanceOf t' asset source)
    (view.balanceOf t' asset dest - view.balanceOf t asset dest))

def Op.isCharge : Op → Bool
  | .charge _ _ _ _ => true
  | _ => false

/-- What a step moves from `source` to `dest`, when it is a call of the selected kind. -/
def callFlow (kind : Op → Bool) (host : Host T) (asset source dest : Address) (l : Ledger T) :
    Step T → Int
  | .call c =>
      if kind c.op then moved view l.token (invoke host c l).2.token asset source dest else 0
  | _ => 0

/-- What a step, when it is a registry call, takes off the allowance `owner` gives the registry. -/
def allowanceFlow (host : Host T) (asset owner : Address) (l : Ledger T) : Step T → Int
  | .call c => view.allowanceOf l.token asset owner host.currentContractAddress
      - view.allowanceOf (invoke host c l).2.token asset owner host.currentContractAddress
  | _ => 0

variable {view}

theorem moved_self (t : T) (asset source dest : Address) : moved view t t asset source dest = 0 := by
  unfold moved
  omega

/-- A transfer is measured between its two ends, and nowhere else. -/
theorem moved_of_moves {t t' : T} {asset source dest : Address} {amount : Int}
    (h : Moves view t t' asset source dest amount) (hpos : 0 < amount) (hne : source ≠ dest)
    (a x y : Address) :
    moved view t t' a x y = if a = asset ∧ x = source ∧ y = dest then amount else 0 := by
  have hx := h a x
  have hy := h a y
  unfold moved
  by_cases ha : a = asset
  · by_cases hxs : x = source
    · have hxd : x ≠ dest := fun heq => hne (hxs.symm.trans heq)
      by_cases hyd : y = dest
      · have hys : y ≠ source := fun heq => hne (heq.symm.trans hyd)
        rw [if_neg fun h => hxd h.2, if_pos ⟨ha, hxs⟩] at hx
        rw [if_pos ⟨ha, hyd⟩, if_neg fun h => hys h.2] at hy
        rw [if_pos ⟨ha, hxs, hyd⟩]
        omega
      · rw [if_neg fun h => hyd h.2] at hy
        rw [if_neg fun h => hyd h.2.2]
        split at hy <;> omega
    · rw [if_neg fun h : _ ∧ x = source => hxs h.2] at hx
      rw [if_neg fun h => hxs h.2.1]
      split at hx <;> omega
  · rw [if_neg fun h => ha h.1, if_neg fun h => ha h.1] at hx
    rw [if_neg fun h => ha h.1]
    omega

/-- The money of a charge. -/
theorem ChargePaid.moves {host : Host T} (hf : Faithful view host.token) {authorized : List Address}
    {t t' : T} {m : Mandate} {amount : I128} (h : ChargePaid (host.env authorized) t m amount t')
    (hne : m.payer ≠ m.merchant) :
    Moves view t t' m.asset m.payer m.merchant amount.val ∧
      Spends view t t' m.asset m.payer host.currentContractAddress amount.val := by
  obtain ⟨allowance, t₁, balance, t₂, hallowance, -, hbalance, -, htransfer⟩ := h
  have hsame := (hf.allowance_ok hallowance).trans (hf.balance_ok hbalance)
  obtain ⟨hmoves, hspends⟩ := hf.transferFrom_ok htransfer hne
  exact ⟨hmoves.of_same hsame, hspends.of_same hsame⟩

/-- The money of a refund. -/
theorem RefundPaid.moves {host : Host T} (hf : Faithful view host.token) {authorized : List Address}
    {t t' : T} {p : PaymentReceipt} {amount : I128}
    (h : RefundPaid (host.env authorized) t p amount t') (hne : p.merchant ≠ p.payer) :
    Moves view t t' p.asset p.merchant p.payer amount.val ∧
      ∀ a o s, view.allowanceOf t' a o s = view.allowanceOf t a o s := by
  obtain ⟨balance, t₁, hbalance, -, htransfer⟩ := h
  have hsame := hf.balance_ok hbalance
  obtain ⟨hmoves, hkeep⟩ := hf.transfer_ok htransfer hne
  exact ⟨hmoves.of_same hsame, fun a o s => (hkeep a o s).trans (hsame.2 a o s)⟩

/-- The parties of a stored payment are distinct. -/
theorem Books.payer_ne {host : Host T} {l : Ledger T} (hb : Books host l) {pid : BytesN}
    {p : PaymentReceipt} (hp : l.storage.getPayment pid = some p) : p.merchant ≠ p.payer := by
  obtain ⟨m, hm⟩ := hb.payment_mandate hp
  have hbooks := hb.mandate hm
  have hallows := hbooks.each p (mem_receiptsOf.mpr ⟨⟨pid, hp⟩, rfl⟩)
  rw [hallows.payer_eq, hallows.merchant_eq]
  exact hbooks.terms.payer_ne.symm

/-! ## Charges -/

section

variable {host : Host T} {l : Ledger T}

/-- One more payment, when it is one of the selected. -/
theorem collectedOf_filter_cons {q : PaymentReceipt → Prop} [DecidablePred q] (r : PaymentReceipt)
    (ps : List PaymentReceipt) :
    collectedOf ((r :: ps).filter q)
      = collectedOf (ps.filter q) + if q r then r.amount.val else 0 := by
  unfold collectedOf
  by_cases h : q r
  · rw [List.filter_cons_of_pos (by simpa using h), if_pos h, List.map_cons, List.sum_cons,
      add_comm]
  · rw [List.filter_cons_of_neg (by simpa using h), if_neg h, add_zero]

theorem values_payments_chargedLedger {m' : Mandate} {period : BillingPeriod} {r : PaymentReceipt}
    {t : T} (hfresh : l.storage.getPayment r.paymentId = none) :
    FinMap.values (chargedLedger l m' period r t).storage.payments
      = r :: FinMap.values l.storage.payments :=
  FinMap.values_insert hfresh

/-- A call that fails changes neither the storage nor the token, so a quantity of the one follows a
measure of the other when it does over every effect. -/
theorem follows_of_effects {g : Storage → Int} {f : T → Int} {c : Call} (hzero : f l.token = 0)
    (heffects : ∀ v l', Effect host c.authorized l c.op v l' →
      g l'.storage = g l.storage + f l'.token) :
    g (invoke host c l).2.storage = g l.storage + f (invoke host c l).2.token := by
  cases hout : (invoke host c l).1 with
  | error err => rw [invoke_error hout, hzero, add_zero]
  | ok v =>
      obtain ⟨l', hl', heffect⟩ := exists_effect hout
      rw [hl']
      exact heffects v l' heffect

/-- A charge is measured between the parties of the receipt it stores. -/
theorem callFlow_charge (hb : Books host l) (hf : Faithful view host.token)
    (asset payer merchant : Address) (step : Step T) :
    collectedOf ((exec host l step).storage.paymentsBetween asset payer merchant)
      = collectedOf (l.storage.paymentsBetween asset payer merchant)
        + callFlow view Op.isCharge host asset payer merchant l step := by
  cases step with
  | close t => exact (add_zero _).symm
  | token t => exact (add_zero _).symm
  | call c =>
      obtain ⟨op, authorized⟩ := c
      refine follows_of_effects (g := fun s => collectedOf (s.paymentsBetween asset payer merchant))
        (f := fun t => if op.isCharge then moved view l.token t asset payer merchant else 0) ?_
        fun v l' heffect => ?_
      · show (if _ then _ else _) = _
        rw [moved_self, ite_self]
      cases heffect with
      | created input _ _ _ => exact (add_zero _).symm
      | statusChanged op mandateId m _ _ _ => exact (add_zero _).symm
      | refunded mandateId paymentId amount refundId m payment total t _ _ _ _ =>
          exact (add_zero _).symm
      | charged mandateId chargeId amount invoiceHash m period collected t m' hm hc hpaid ha =>
          obtain rfl := hb.mandate_id hm
          have hallows : m.terms.Allows
              (newReceipt host m' m.id chargeId amount invoiceHash l.timestamp) := hc.allows ha
          set r := newReceipt host m' m.id chargeId amount invoiceHash l.timestamp
          have hne := (hb.mandate hm).terms.payer_ne
          have hflow := moved_of_moves (hpaid.moves hf hne).1 hc.positive hne asset payer merchant
          show collectedOf ((chargedLedger l m' period r t).storage.paymentsBetween asset payer
            merchant) = _ + moved view l.token t asset payer merchant
          rw [hflow]
          -- the new receipt is between the parties that the money has moved between
          have hparties : (r.asset = asset ∧ r.payer = payer ∧ r.merchant = merchant) ↔
              asset = m.asset ∧ payer = m.payer ∧ merchant = m.merchant := by
            rw [hallows.asset_eq, hallows.payer_eq, hallows.merchant_eq]
            exact and_congr eq_comm (and_congr eq_comm eq_comm)
          unfold Storage.paymentsBetween
          rw [values_payments_chargedLedger (hb.getPayment_eq_none hc.unused),
            collectedOf_filter_cons, if_congr hparties rfl rfl]
          rfl

/-- A charge takes its amount off the allowance of its payer, and no other call touches what the
registry is allowed. -/
theorem allowanceFlow_eq (hb : Books host l) (hf : Faithful view host.token)
    (asset owner : Address) (step : Step T) :
    collectedOf ((exec host l step).storage.paymentsFrom asset owner)
      = collectedOf (l.storage.paymentsFrom asset owner)
        + allowanceFlow view host asset owner l step := by
  cases step with
  | close t => exact (add_zero _).symm
  | token t => exact (add_zero _).symm
  | call c =>
      obtain ⟨op, authorized⟩ := c
      refine follows_of_effects (g := fun s => collectedOf (s.paymentsFrom asset owner))
        (f := fun t => view.allowanceOf l.token asset owner host.currentContractAddress
          - view.allowanceOf t asset owner host.currentContractAddress) (sub_self _)
        fun v l' heffect => ?_
      cases heffect with
      | created input _ _ _ =>
          show _ = _ + (view.allowanceOf l.token asset owner _ - view.allowanceOf l.token _ _ _)
          rw [sub_self, add_zero]
          rfl
      | statusChanged op mandateId m _ _ _ =>
          show _ = _ + (view.allowanceOf l.token asset owner _ - view.allowanceOf l.token _ _ _)
          rw [sub_self, add_zero]
          rfl
      | refunded mandateId paymentId amount refundId m payment total t _ hp _ hpaid =>
          -- a refund is a transfer of the merchant's own money
          have hkeep := (hpaid.moves hf (hb.payer_ne hp)).2 asset owner
            host.currentContractAddress
          show _ = _ + (view.allowanceOf l.token asset owner _ - view.allowanceOf t _ _ _)
          rw [hkeep, sub_self, add_zero]
          rfl
      | charged mandateId chargeId amount invoiceHash m period collected t m' hm hc hpaid ha =>
          obtain rfl := hb.mandate_id hm
          have hallows : m.terms.Allows
              (newReceipt host m' m.id chargeId amount invoiceHash l.timestamp) := hc.allows ha
          set r := newReceipt host m' m.id chargeId amount invoiceHash l.timestamp
          have hspent := (hpaid.moves hf (hb.mandate hm).terms.payer_ne).2 asset owner
            host.currentContractAddress
          have hparties : (r.asset = asset ∧ r.payer = owner) ↔ asset = m.asset ∧
              owner = m.payer ∧ host.currentContractAddress = host.currentContractAddress := by
            rw [hallows.asset_eq, hallows.payer_eq]
            simp only [and_true]
            exact and_congr eq_comm eq_comm
          show collectedOf ((chargedLedger l m' period r t).storage.paymentsFrom asset owner)
            = _ + (view.allowanceOf l.token asset owner _ - view.allowanceOf t asset owner _)
          unfold Storage.paymentsFrom
          rw [hspent, sub_sub_cancel,
            values_payments_chargedLedger (hb.getPayment_eq_none hc.unused),
            collectedOf_filter_cons, if_congr hparties rfl rfl]
          rfl

/-! ## Refunds -/

theorem mem_paymentsBetween {s : Storage} {asset payer merchant : Address} {p : PaymentReceipt} :
    p ∈ s.paymentsBetween asset payer merchant ↔ (∃ pid, s.getPayment pid = some p) ∧
      p.asset = asset ∧ p.payer = payer ∧ p.merchant = merchant := by
  unfold Storage.paymentsBetween Storage.getPayment
  rw [List.mem_filter, FinMap.mem_values]
  simp

/-- No payment id occurs twice. -/
theorem Books.nodup_paymentsBetween (hb : Books host l) (asset payer merchant : Address) :
    ((l.storage.paymentsBetween asset payer merchant).map PaymentReceipt.paymentId).Nodup := by
  have hall := FinMap.nodup_map_values (s := l.storage.payments)
    fun pid p hp => (hb.payment_id hp).1
  exact hall.sublist (List.filter_sublist.map _)

/-- A new payment has nothing refunded. -/
theorem refundedOf_chargedLedger (hr : RefundBooks l.storage) {m' : Mandate}
    {period : BillingPeriod} {r : PaymentReceipt} {t : T}
    (hfresh : l.storage.getPayment r.paymentId = none) (asset payer merchant : Address) :
    (chargedLedger l m' period r t).storage.refundedOf
        ((chargedLedger l m' period r t).storage.paymentsBetween asset payer merchant)
      = l.storage.refundedOf (l.storage.paymentsBetween asset payer merchant) := by
  show l.storage.refundedOf _ = _
  unfold Storage.paymentsBetween
  rw [values_payments_chargedLedger hfresh, List.filter_cons]
  split
  · unfold Storage.refundedOf
    rw [List.map_cons, List.sum_cons, hr.refundsOf_eq_nil hfresh]
    exact zero_add _
  · rfl

/-- A refund adds its amount to what is refunded between the parties of its payment, and changes
nothing between others. -/
theorem refundedOf_refundedLedger (hb : Books host l) {payment : PaymentReceipt}
    {mandateId : BytesN} {r : RefundReceipt} {total : I128} {t : T}
    (hp : l.storage.getPayment r.paymentId = some payment)
    (hfresh : l.storage.getRefund r.refundId = none) (asset payer merchant : Address) :
    (refundedLedger l payment mandateId r total t).storage.refundedOf
        (l.storage.paymentsBetween asset payer merchant)
      = l.storage.refundedOf (l.storage.paymentsBetween asset payer merchant)
        + if payment.asset = asset ∧ payment.payer = payer ∧ payment.merchant = merchant
          then r.amount.val else 0 := by
  have hrefunds : ∀ pid, (refundedLedger l payment mandateId r total t).storage.refundsOf pid
      = if r.paymentId = pid then r :: l.storage.refundsOf pid else l.storage.refundsOf pid :=
    refundsOf_refundedLedger hfresh
  have hid := (hb.payment_id hp).1
  -- what another payment has had refunded stays as it is
  have hother : ∀ p : PaymentReceipt, p.paymentId ≠ payment.paymentId →
      (((refundedLedger l payment mandateId r total t).storage.refundsOf p.paymentId).map
        fun r => r.amount.val).sum
        = ((l.storage.refundsOf p.paymentId).map fun r => r.amount.val).sum := by
    intro p hne
    rw [hrefunds, if_neg fun heq => hne (heq.symm.trans hid.symm)]
  unfold Storage.refundedOf
  by_cases h : payment.asset = asset ∧ payment.payer = payer ∧ payment.merchant = merchant
  · rw [if_pos h]
    refine FinMap.sum_map_update (hb.nodup_paymentsBetween asset payer merchant)
      (mem_paymentsBetween.mpr ⟨⟨_, hp⟩, h⟩) (fun p _ hne => hother p hne) ?_
    rw [hrefunds, if_pos hid.symm, List.map_cons, List.sum_cons, add_comm]
  · rw [if_neg h, add_zero]
    refine congrArg List.sum (List.map_congr_left fun p hmem => hother p fun heq => ?_)
    obtain ⟨⟨pid, hpid⟩, hparties⟩ := mem_paymentsBetween.mp hmem
    -- a payment with that id is the refunded one, which is of other parties
    have hpid' := (hb.payment_id hpid).1
    rw [← hpid', heq, hid, hp] at hpid
    cases hpid
    exact h hparties

/-- A refund is measured between the parties of the payment it refunds. -/
theorem callFlow_refund (hb : Books host l) (hr : RefundBooks l.storage)
    (hf : Faithful view host.token) (asset payer merchant : Address) (step : Step T) :
    (exec host l step).storage.refundedOf
        ((exec host l step).storage.paymentsBetween asset payer merchant)
      = l.storage.refundedOf (l.storage.paymentsBetween asset payer merchant)
        + callFlow view Op.isRefund host asset merchant payer l step := by
  cases step with
  | close t => exact (add_zero _).symm
  | token t => exact (add_zero _).symm
  | call c =>
      obtain ⟨op, authorized⟩ := c
      refine follows_of_effects
        (g := fun s => s.refundedOf (s.paymentsBetween asset payer merchant))
        (f := fun t => if op.isRefund then moved view l.token t asset merchant payer else 0) ?_
        fun v l' heffect => ?_
      · show (if _ then _ else _) = _
        rw [moved_self, ite_self]
      cases heffect with
      | created input _ _ _ => exact (add_zero _).symm
      | statusChanged op mandateId m _ _ _ => exact (add_zero _).symm
      | charged mandateId chargeId amount invoiceHash m period collected t m' hm hc _ ha =>
          -- nothing of a new payment is refunded yet
          have hfresh := hb.getPayment_eq_none hc.unused
          exact (refundedOf_chargedLedger hr hfresh asset payer merchant).trans (add_zero _).symm
      | refunded mandateId paymentId amount refundId m payment total t _ hp hc hpaid =>
          have hne := hb.payer_ne hp
          have hflow := moved_of_moves (hpaid.moves hf hne).1 hc.positive hne asset merchant payer
          have hparties : (asset = payment.asset ∧ merchant = payment.merchant ∧
              payer = payment.payer) ↔ payment.asset = asset ∧ payment.payer = payer ∧
              payment.merchant = merchant :=
            and_congr eq_comm (and_comm.trans (and_congr eq_comm eq_comm))
          show (refundedLedger l payment mandateId _ total t).storage.refundedOf
              (l.storage.paymentsBetween asset payer merchant)
            = _ + moved view l.token t asset merchant payer
          rw [hflow, if_congr hparties rfl rfl]
          exact refundedOf_refundedLedger hb hp (hr.getRefund_eq_none hc.unused) asset payer merchant

/-- What is refunded of payments is at most what they collected. -/
theorem refundedOf_le_collectedOf (hb : Books host l) (hr : RefundBooks l.storage)
    (asset payer merchant : Address) :
    l.storage.refundedOf (l.storage.paymentsBetween asset payer merchant)
      ≤ collectedOf (l.storage.paymentsBetween asset payer merchant) := by
  unfold Storage.refundedOf collectedOf
  refine List.sum_le_sum fun p hp => ?_
  obtain ⟨⟨pid, hpid⟩, -⟩ := mem_paymentsBetween.mp hp
  rw [← hr.total_eq, (hb.payment_id hpid).1]
  exact hr.total_le hpid

/-! ## Whose balances change -/

/-- An address that is the payer of no mandate and a party of no payment. -/
structure NotParty (a : Address) (l : Ledger T) : Prop where
  mandate : ∀ {id m}, l.storage.getMandate id = some m → m.payer ≠ a
  payment : ∀ {pid p}, l.storage.getPayment pid = some p → p.payer ≠ a ∧ p.merchant ≠ a

/-- Who authorises nothing becomes no party. -/
theorem notParty_exec {a : Address} (h : NotParty a l) {step : Step T}
    (hquiet : ∀ c, step = .call c → a ∉ c.authorized) : NotParty a (exec host l step) := by
  have hmoved := moved_exec host l step
  generalize exec host l step = l' at hmoved
  cases hmoved with
  | closed t now _ => exact ⟨h.mandate, h.payment⟩
  | tokens t => exact ⟨h.mandate, h.payment⟩
  | rejected c f _ => exact h
  | done c v l' _ heffect =>
      obtain ⟨op, authorized⟩ := c
      have hnot : a ∉ authorized := hquiet _ rfl
      cases heffect with
      | created input hauth _ _ =>
          refine ⟨fun {id m} hm => ?_, h.payment⟩
          rw [getMandate_createdLedger] at hm
          split at hm
          · -- the payer of the new mandate has authorised the call
            cases hm
            exact fun heq => hnot (heq ▸ hauth)
          · exact h.mandate hm
      | statusChanged op mandateId m₁ hm₁ hauth _ =>
          refine ⟨fun {id m} hm => ?_, h.payment⟩
          rw [getMandate_statusLedger] at hm
          split at hm
          · cases hm
            exact (h.mandate hm₁ : m₁.payer ≠ a)
          · exact h.mandate hm
      | charged mandateId chargeId amount invoiceHash m₁ period collected t m' hm₁ hc _ ha =>
          -- the payer was one before, and the merchant has authorised the call
          have hpayer : m'.payer ≠ a := by
            rw [show m'.payer = m₁.payer from congrArg Terms.payer ha.terms_eq]
            exact h.mandate hm₁
          have hmerchant : m'.merchant ≠ a := by
            rw [show m'.merchant = m₁.merchant from congrArg Terms.merchant ha.terms_eq]
            exact fun heq => hnot (heq ▸ hc.merchant_auth)
          refine ⟨fun {id m} hm => ?_, fun {pid p} hp => ?_⟩
          · rw [getMandate_chargedLedger] at hm
            split at hm
            · cases hm; exact hpayer
            · exact h.mandate hm
          · rw [getPayment_chargedLedger] at hp
            split at hp
            · cases hp; exact ⟨hpayer, hmerchant⟩
            · exact h.payment hp
      | refunded mandateId paymentId amount refundId m payment total t _ _ _ _ =>
          exact ⟨h.mandate, h.payment⟩

theorem notParty_run {a : Address} (t₀ : U64) (tok₀ : T) {steps : List (Step T)}
    (hquiet : ∀ c, .call c ∈ steps → a ∉ c.authorized) :
    NotParty a (run host (genesis t₀ tok₀) steps) := by
  refine Runs.run_invariant_of (P := NotParty a) (A := fun step => ∀ c, step = .call c →
    a ∉ c.authorized) (fun l step hq h => notParty_exec h hq) ?_ fun step hstep c heq => ?_
  · exact ⟨fun hm => (by cases hm), fun hp => (by cases hp)⟩
  · exact hquiet c (heq ▸ hstep)

/-- Where a transfer changes a balance: at its two ends. -/
theorem Moves.changed {t t' : T} {asset source dest : Address} {amount : Int}
    (h : Moves view t t' asset source dest amount) {a x : Address}
    (hne : view.balanceOf t' a x ≠ view.balanceOf t a x) :
    asset = a ∧ (x = source ∨ x = dest) := by
  have hx := h a x
  by_cases hd : a = asset ∧ x = dest
  · exact ⟨hd.1.symm, Or.inr hd.2⟩
  · by_cases hs : a = asset ∧ x = source
    · exact ⟨hs.1.symm, Or.inl hs.2⟩
    · rw [if_neg hd, if_neg hs] at hx
      omega

/-- A registry call changes the balances of the parties of the payment it makes or refunds, and no
others. -/
theorem balance_changed (hb : Books host l) (hf : Faithful view host.token) {c : Call}
    {asset x : Address}
    (h : view.balanceOf (invoke host c l).2.token asset x ≠ view.balanceOf l.token asset x) :
    ∃ pid p, (invoke host c l).2.storage.getPayment pid = some p ∧ p.asset = asset ∧
      (x = p.payer ∨ x = p.merchant) ∧
      ((invoke host c l).1 = .ok (.payment p) ∨
        ∃ mandateId amount refundId, c.op = .refund mandateId pid amount refundId) := by
  obtain ⟨op, authorized⟩ := c
  cases hout : (invoke host ⟨op, authorized⟩ l).1 with
  | error f =>
      rw [invoke_error hout] at h
      exact absurd rfl h
  | ok v =>
      obtain ⟨l', hl', heffect⟩ := exists_effect hout
      rw [hl'] at h ⊢
      cases heffect with
      | created input _ _ _ => exact absurd rfl h
      | statusChanged op mandateId m _ _ _ => exact absurd rfl h
      | charged mandateId chargeId amount invoiceHash m period collected t m' hm hc hpaid ha =>
          obtain rfl := hb.mandate_id hm
          have hallows : m.terms.Allows
              (newReceipt host m' m.id chargeId amount invoiceHash l.timestamp) := hc.allows ha
          set r := newReceipt host m' m.id chargeId amount invoiceHash l.timestamp
          obtain ⟨hasset, hends⟩ := (hpaid.moves hf (hb.mandate hm).terms.payer_ne).1.changed h
          have hstored : (chargedLedger l m' period r t).storage.getPayment r.paymentId = some r :=
            (getPayment_chargedLedger l m' period r t _).trans (if_pos rfl)
          refine ⟨r.paymentId, r, hstored, hallows.asset_eq.trans hasset, ?_, Or.inl rfl⟩
          rw [hallows.payer_eq, hallows.merchant_eq]
          exact hends
      | refunded mandateId paymentId amount refundId m payment total t _ hp hc hpaid =>
          obtain ⟨hasset, hends⟩ := (hpaid.moves hf (hb.payer_ne hp)).1.changed h
          exact ⟨paymentId, payment, hp, hasset, hends.symm, Or.inr ⟨_, _, _, rfl⟩⟩

end

/-! ## Conservation over runs -/

/-- What every step adds to a quantity of the storage that is zero at first sums up to it. -/
theorem total_eq_of_genesis {host : Host T} (hinj : Function.Injective host.sha256)
    {f : Ledger T → Step T → ℤ} {g : Storage → ℤ} (hzero : g Storage.empty = 0)
    (hstep : ∀ l step, FullBooks host l →
      g (exec host l step).storage = g l.storage + f l step)
    (t₀ : U64) (tok₀ : T) (steps : List (Step T)) :
    Runs.total (exec host) f (genesis t₀ tok₀) steps
      = g (run host (genesis t₀ tok₀) steps).storage := by
  have htotal := Runs.total_eq (g := fun l : Ledger T => g l.storage) (fullBooks_exec hinj) hstep
    (fullBooks_genesis host t₀ tok₀) steps
  rw [htotal]
  show _ = g Storage.empty + _
  rw [hzero, zero_add]

/-- **Money conservation.** Over every run with faithful tokens in which the registry itself
authorises nothing: what charges move from a payer to a merchant is the sum of the payment receipts
between them; what refunds move back is the sum of the refund receipts of those payments, and never
more; the allowances a payer gives the registry are used up by exactly that payer's receipts; and a
registry call changes no balance but those of the parties of its payment, in particular not the
registry's. -/
theorem money_conserved {host : Host T} (hinj : Function.Injective host.sha256)
    (hf : Faithful view host.token) (t₀ : U64) (tok₀ : T) (steps : List (Step T))
    (hself : ∀ c, .call c ∈ steps → host.currentContractAddress ∉ c.authorized) :
    let start := genesis t₀ tok₀
    let s := (run host start steps).storage
    (∀ asset payer merchant,
      Runs.total (exec host) (callFlow view Op.isCharge host asset payer merchant) start steps
        = collectedOf (s.paymentsBetween asset payer merchant) ∧
      Runs.total (exec host) (callFlow view Op.isRefund host asset merchant payer) start steps
        = s.refundedOf (s.paymentsBetween asset payer merchant) ∧
      s.refundedOf (s.paymentsBetween asset payer merchant)
        ≤ collectedOf (s.paymentsBetween asset payer merchant)) ∧
    (∀ asset payer,
      Runs.total (exec host) (allowanceFlow view host asset payer) start steps
        = collectedOf (s.paymentsFrom asset payer)) ∧
    ∀ (before after : List (Step T)) (c : Call), steps = before ++ .call c :: after →
      let l := run host start before
      ∀ asset x, view.balanceOf (invoke host c l).2.token asset x
          ≠ view.balanceOf l.token asset x →
        x ≠ host.currentContractAddress ∧
        ∃ pid p, (invoke host c l).2.storage.getPayment pid = some p ∧ p.asset = asset ∧
          (x = p.payer ∨ x = p.merchant) ∧
          ((invoke host c l).1 = .ok (.payment p) ∨
            ∃ mandateId amount refundId, c.op = .refund mandateId pid amount refundId) := by
  intro start s
  obtain ⟨hbooks, hrefunds⟩ : FullBooks host (run host start steps) :=
    fullBooks_run hinj t₀ tok₀ steps
  -- each flow changes at every step by what the receipts change, and both start at zero
  refine ⟨fun asset payer merchant => ⟨?_, ?_, ?_⟩, fun asset payer => ?_, ?_⟩
  · exact total_eq_of_genesis hinj
      (g := fun s => collectedOf (s.paymentsBetween asset payer merchant)) rfl
      (fun l step h => callFlow_charge h.1 hf asset payer merchant step) t₀ tok₀ steps
  · exact total_eq_of_genesis hinj
      (g := fun s => s.refundedOf (s.paymentsBetween asset payer merchant)) rfl
      (fun l step h => callFlow_refund h.1 h.2 hf asset payer merchant step) t₀ tok₀ steps
  · exact refundedOf_le_collectedOf hbooks hrefunds asset payer merchant
  · exact total_eq_of_genesis hinj (g := fun s => collectedOf (s.paymentsFrom asset payer)) rfl
      (fun l step h => allowanceFlow_eq h.1 hf asset payer step) t₀ tok₀ steps
  · rintro before after c rfl l asset x hne
    have hb : Books host l := books_run hinj t₀ tok₀ before
    obtain ⟨pid, p, hp, hasset, hx, hcall⟩ := balance_changed hb hf hne
    have hquiet : ∀ c', .call c' ∈ before ++ [Step.call c] →
        host.currentContractAddress ∉ c'.authorized := by
      intro c' hc'
      refine hself c' ?_
      rw [List.append_cons]
      exact List.mem_append_left _ hc'
    have hout : NotParty host.currentContractAddress (invoke host c l).2 := by
      have h : NotParty host.currentContractAddress
          (run host (genesis t₀ tok₀) (before ++ [.call c])) := notParty_run t₀ tok₀ hquiet
      rwa [run, Runs.run_concat] at h
    refine ⟨?_, pid, p, hp, hasset, hx, hcall⟩
    obtain ⟨hpayer, hmerchant⟩ := hout.payment hp
    rcases hx with rfl | rfl
    · exact hpayer
    · exact hmerchant

end

theorem money_conserved_mock :
    Runs.total (exec mockHost) (callFlow mockHoldings Op.isRefund mockHost ⟨3⟩ ⟨2⟩ ⟨1⟩) mockStart
      mockRun = 3 ∧
    collectedOf ((run mockHost mockStart mockRun).storage.paymentsBetween ⟨3⟩ ⟨1⟩ ⟨2⟩) = 5 ∧
    Runs.total (exec mockHost) (callFlow mockHoldings Op.isCharge mockHost ⟨3⟩ ⟨1⟩ ⟨2⟩) mockStart
      mockRun = collectedOf ((run mockHost mockStart mockRun).storage.paymentsBetween ⟨3⟩ ⟨1⟩ ⟨2⟩) :=
  ⟨by decide, by decide,
    ((money_conserved encodeDigest_injective mockToken_faithful (.lit 0 (by decide)) mockFunds
      mockRun mockRun_authorized).1 ⟨3⟩ ⟨1⟩ ⟨2⟩).1⟩

end Paymap.Registry
