import Paymap.Api.Refunds
import Paymap.Registry.Receipts
import Paymap.Registry.RefundBooks

set_option autoImplicit false

/-! # What is refunded and what is requested

The route compares a request with the total that is refunded on the chain at that moment. What is still
pending is not taken into account, and further refunds may come before the request is committed. So each
request on its own fits into its payment (`refunds_within_payment`), and all of them together do when
nothing comes between; else they may not (`over_requested`).
-/

namespace Paymap.Api

open Idempotency
open Registry (BytesN Books FullBooks Host Ledger)
open Relayer (Uuid)

variable {T : Type} {host : Host T}

/-! ## The totals -/

/-- The request may still be submitted. -/
def RefundRequest.isPending (r : RefundRequest) : Bool :=
  r.status ≠ .succeeded && r.status ≠ .permanentlyFailed

/-- What these requests ask for of a payment, as far as they are pending. -/
def pendingOf (paymentId : BytesN) (requests : List RefundRequest) : ℤ :=
  ((requests.filter fun r => r.paymentId = paymentId && r.isPending).map RefundRequest.amount).sum

namespace RefundShared

def pending (s : RefundShared T) (paymentId : BytesN) : ℤ := pendingOf paymentId s.refundRequests

/-- A request for the payment is pending. -/
def HasPending (s : RefundShared T) (paymentId : BytesN) : Prop :=
  ∃ r ∈ s.refundRequests, r.paymentId = paymentId ∧ r.isPending = true

instance (s : RefundShared T) (paymentId : BytesN) : Decidable (s.HasPending paymentId) := by
  unfold HasPending
  infer_instance

/-- Refunded and requested, every payment stays within its amount. -/
def WithinPayments (s : RefundShared T) : Prop :=
  ∀ paymentId row, s.payments.lookup paymentId = some row →
    s.refundedTotal paymentId + s.pending paymentId ≤ row.amount

end RefundShared

/-- What a step of the chain refunds of a payment. -/
def refundedBy (host : Host T) (l : Ledger T) (step : Registry.Step T) (paymentId : BytesN) : ℤ :=
  ((Registry.exec host l step).storage.getRefundedTotal paymentId).val
    - (l.storage.getRefundedTotal paymentId).val

/-- The total that a call of the route reads in the step, with the payment. -/
def readTotal (s : RefundSystem T) : RefundAction T → List (BytesN × ℤ)
  | .route worker (.served _) =>
      match s.running[worker]? with
      | some (.call (.getRefundedTotal paymentId) _) =>
          [(paymentId, s.shared.refundedTotal paymentId)]
      | _ => []
  | _ => []

/-- When a request is committed none is pending for its payment, and nothing has been refunded since the
comparison; and nothing is refunded while one is pending. -/
def Undisturbed (host : Host T) (s : RefundSystem T) : RefundAction T → Prop
  | .work worker reply =>
      ∀ q ∈ committing s.shared.idempotency (.work worker reply), q.2.statements ≠ [] →
        ∀ a ∈ s.shared.accepted[q.1]?, ¬ s.shared.HasPending a.payment.paymentId ∧
          s.shared.refundedTotal a.payment.paymentId = a.refundedTotal
  | .chain step => ∀ r ∈ s.shared.refundRequests, r.isPending = true →
      refundedBy host s.shared.ledger step r.paymentId = 0
  | _ => True

instance (host : Host T) (s : RefundSystem T) (action : RefundAction T) :
    Decidable (Undisturbed host s action) := by
  cases action with
  | work worker reply => unfold Undisturbed; infer_instance
  | chain step => unfold Undisturbed; infer_instance
  | _ => exact .isTrue trivial

/-! ## What a commit adds -/

/-- What is committed with statements is a whole run of the call's handler. -/
theorem committing_yields {σ : Handling} {s : System σ} (h : TrackedSettled s) {action : Action σ}
    {i : ℕ} {t : Transaction σ} (hcommit : committing s action = some (i, t))
    (hwork : t.statements ≠ []) : ∃ c, s.shared.calls[i]? = some c ∧ c.Yields t := by
  obtain ⟨phases, -, hsettled⟩ := tracked_exec s action h
  have hmem : (i, t) ∈ (exec s action).shared.committed := by
    rw [exec_committed, hcommit]
    exact List.mem_append_right _ List.mem_cons_self
  rcases hsettled.consistent.whole (i, t) hmem with rfl | ⟨c, hc, hyields⟩
  · exact absurd rfl hwork
  · cases action with
    | work worker reply =>
        rw [exec_calls] at hc
        exact ⟨c, by simpa [Action.call?] using hc, hyields⟩
    | _ => cases hcommit

/-- A refund handler that has ended has made its row. -/
theorem statements_of_yields {a : Accepted} {t : Transaction refundHandling}
    (h : a.call.Yields t) : t.statements = [a.row] := by
  obtain ⟨result, -, hreaches⟩ := h
  have hstages : ∀ statements rest, Handler.Reaches a.handler statements rest →
      (statements = [] ∧ rest = a.handler) ∨
        (statements = [a.row] ∧ ∀ statement k, rest ≠ .call statement k) := by
    intro statements rest hreaches
    induction hreaches with
    | start => exact .inl ⟨rfl, rfl⟩
    | @statement statements statement k _ answer ih =>
        rcases ih with ⟨rfl, hrest⟩ | ⟨-, hend⟩
        · obtain ⟨rfl, hk⟩ := Prog.call.inj hrest
          refine .inr ⟨rfl, fun statement' k' hcall => ?_⟩
          rw [eq_of_heq hk] at hcall
          dsimp only at hcall
          split at hcall <;> cases hcall
        · exact absurd rfl (hend statement k)
  rcases hstages _ _ hreaches with ⟨-, hrest⟩ | ⟨hone, -⟩
  · cases hrest
  · exact hone

/-! ## The route as an automaton -/

inductive RefundPhase where
  | posted (post : RefundPost)
  | found (post : RefundPost) (payment : PaymentRow)
  | priced (post : RefundPost) (payment : PaymentRow)
  | compared (a : Accepted)
  | ended

/-- What the route knows of a refund when the total on the chain was `onChain`. -/
structure Accepted.Priced (a : Accepted) (onChain : ℤ) : Prop where
  refundedTotal_eq : a.refundedTotal = max onChain a.payment.refundedTotal
  positive : 0 < a.amountBaseUnits

inductive RefundMove : RefundPhase → (e : RefundEffect) → RefundAnswer e → RefundPhase → Prop where
  | failed (p : RefundPhase) (e : RefundEffect) (answer : RefundAnswer e)
      (read : ∀ a, e ≠ .runIdempotent a) : RefundMove p e answer .ended
  | find (post : RefundPost) (payment : PaymentRow) :
      RefundMove (.posted post) (.findPayment post.paymentId post.merchantId) (some (some payment))
        (.found post payment)
  | price (post : RefundPost) (payment : PaymentRow) (decimals : ℤ) :
      RefundMove (.found post payment)
        (.resolveAssetDecimalsForMandate post.merchantId payment.mandateId) (some (some decimals))
        (.priced post payment)
  | compare (a : Accepted) (onChain : ℤ) (priced : a.Priced onChain)
      (covered : a.refundedTotal + a.amountBaseUnits ≤ a.payment.amount) :
      RefundMove (.priced a.post a.payment) (.getRefundedTotal a.post.paymentId) (some onChain)
        (.compared a)
  | runIdempotent (a : Accepted) : RefundMove (.compared a) (.runIdempotent a) () .ended

theorem submitRefund_obeys (a : Accepted) (onChain : ℤ) (hpriced : a.Priced onChain) :
    ∃ p', RefundMove (.priced a.post a.payment) (.getRefundedTotal a.post.paymentId) (some onChain) p' ∧
      (submitRefund a).Follows RefundMove (fun _ _ => True) p' := by
  unfold submitRefund
  by_cases hexceeds : a.refundedTotal + a.amountBaseUnits > a.payment.amount
  · rw [if_pos hexceeds]
    exact ⟨.ended, .failed _ _ _ (by simp), trivial⟩
  · rw [if_neg hexceeds]
    exact ⟨.compared a, .compare a onChain hpriced (not_lt.mp hexceeds),
      fun _ => ⟨_, .runIdempotent a, trivial⟩⟩

theorem acceptRefund_obeys (post : RefundPost) (payment : PaymentRow) (decimals : ℤ) :
    (acceptRefund post payment decimals).Follows RefundMove (fun _ _ => True)
      (.priced post payment) := by
  unfold acceptRefund
  split
  · trivial
  · rename_i amount hamount
    rintro (_ | onChain)
    · exact ⟨.ended, .failed _ _ _ (by simp), trivial⟩
    · refine submitRefund_obeys ⟨post, payment, decimals, amount, _⟩ onChain ⟨?_, ?_⟩
      · show (if onChain > payment.refundedTotal then onChain else payment.refundedTotal)
          = max onChain payment.refundedTotal
        split <;> omega
      · exact (Shared.decimalToPositiveBaseUnits_ok.mp hamount).2

theorem postRefund_obeys (post : RefundPost) (paymentIdText : String) :
    (postRefund post paymentIdText).Follows RefundMove (fun _ _ => True) (.posted post) := by
  rintro (_ | _ | payment)
  · exact ⟨.ended, .failed _ _ _ (by simp), trivial⟩
  · exact ⟨.ended, .failed _ _ _ (by simp), trivial⟩
  · refine ⟨_, .find post payment, ?_⟩
    rintro (_ | _ | decimals)
    · exact ⟨.ended, .failed _ _ _ (by simp), trivial⟩
    · exact ⟨.ended, .failed _ _ _ (by simp), trivial⟩
    · exact ⟨_, .price post payment decimals, acceptRefund_obeys post payment decimals⟩

/-! ## The invariant -/

/-- A refund that has passed the comparison: its payment is there, and since then the total on the chain
has not become less. -/
structure Accepted.Sound (s : RefundShared T) (a : Accepted) : Prop where
  payment : s.payments.lookup a.payment.paymentId = some a.payment
  refundedTotal_le : a.refundedTotal ≤ s.refundedTotal a.payment.paymentId
  positive : 0 < a.amountBaseUnits
  covered : a.refundedTotal + a.amountBaseUnits ≤ a.payment.amount

def RefundPhase.Fits (s : RefundShared T) : RefundPhase → Prop
  | .posted _ => True
  | .found post payment => s.payments.lookup post.paymentId = some payment
  | .priced post payment => s.payments.lookup post.paymentId = some payment
  | .compared a => a.Sound s
  | .ended => True

structure Orderly (host : Host T) (s : RefundShared T) (phases : List RefundPhase) : Prop where
  books : FullBooks host s.ledger
  nonneg : ∀ paymentId, 0 ≤ s.refundedTotal paymentId
  rows : ∀ paymentId row, s.payments.lookup paymentId = some row → row.paymentId = paymentId ∧
    row.refundedTotal = 0 ∧ ∃ receipt, s.ledger.storage.getPayment paymentId = some receipt ∧
      row.amount = receipt.amount.val
  accepted : ∀ a ∈ s.accepted, a.Sound s
  calls : s.idempotency.shared.calls = s.accepted.map Accepted.call
  settled : TrackedSettled s.idempotency
  requests : ∀ r ∈ s.refundRequests, ∃ a ∈ s.accepted, r = a.row
  fits : ∀ p ∈ phases, p.Fits s

/-- Rows stay, and totals do not become less. -/
structure RefundShared.Later (s s' : RefundShared T) : Prop where
  payments : ∀ paymentId row, s.payments.lookup paymentId = some row →
    s'.payments.lookup paymentId = some row
  refundedTotal : ∀ paymentId, s.refundedTotal paymentId ≤ s'.refundedTotal paymentId

theorem Accepted.Sound.later {s s' : RefundShared T} {a : Accepted} (h : a.Sound s)
    (hlater : s.Later s') : a.Sound s' :=
  ⟨hlater.payments _ _ h.payment, h.refundedTotal_le.trans (hlater.refundedTotal _), h.positive,
    h.covered⟩

theorem RefundPhase.Fits.later {s s' : RefundShared T} {p : RefundPhase} (h : p.Fits s)
    (hlater : s.Later s') : p.Fits s' := by
  cases p with
  | posted post => trivial
  | found post payment => exact hlater.payments _ _ h
  | priced post payment => exact hlater.payments _ _ h
  | compared a => exact Accepted.Sound.later h hlater
  | ended => trivial

/-- On the chain totals only grow, and by no more than the payment. -/
theorem getRefundedTotal_le_exec (l : Ledger T) (step : Registry.Step T) (paymentId : BytesN) :
    (l.storage.getRefundedTotal paymentId).val
      ≤ ((Registry.exec host l step).storage.getRefundedTotal paymentId).val := by
  have hmoved := Registry.moved_exec host l step
  generalize Registry.exec host l step = l' at hmoved
  cases hmoved with
  | closed t now _ => exact le_rfl
  | tokens t => exact le_rfl
  | rejected c f _ => exact le_rfl
  | done c v l' _ heffect =>
      generalize c.op = op at heffect
      cases heffect with
      | created input _ _ _ => exact le_rfl
      | statusChanged op mandateId m _ _ _ => exact le_rfl
      | charged mandateId chargeId amount invoiceHash m period collected t m' _ _ _ _ => exact le_rfl
      | refunded mandateId paymentId' amount refundId m payment total t _ _ hrefundable _ =>
          rw [Registry.getRefundedTotal_refundedLedger]
          split
          · rename_i heq
            have htotal := hrefundable.total_eq
            have hpositive := hrefundable.positive
            rw [heq]
            show (l.storage.getRefundedTotal paymentId').val ≤ total.val
            omega
          · exact le_rfl

theorem later_onChain (s : RefundShared T) (step : Registry.Step T) :
    s.Later (s.onChain host step) :=
  ⟨fun _ _ h => h, fun paymentId => getRefundedTotal_le_exec s.ledger step paymentId⟩

theorem later_recordPayment (s : RefundShared T) (paymentId : BytesN) (merchantId : Uuid) :
    s.Later (s.recordPayment paymentId merchantId) := by
  unfold RefundShared.recordPayment
  split
  · rename_i receipt hreceipt hnone
    refine ⟨fun paymentId' row hrow => ?_, fun _ => le_rfl⟩
    have hne : paymentId' ≠ paymentId := by
      rintro rfl
      rw [hnone] at hrow
      cases hrow
    rw [FinMap.lookup_insert, if_neg hne]
    exact hrow
  · exact ⟨fun _ _ h => h, fun _ => le_rfl⟩

theorem Orderly.later {s s' : RefundShared T} {phases : List RefundPhase} (h : Orderly host s phases)
    (hlater : s.Later s') (hbooks : FullBooks host s'.ledger)
    (hrows : ∀ paymentId row, s'.payments.lookup paymentId = some row → row.paymentId = paymentId ∧
      row.refundedTotal = 0 ∧ ∃ receipt, s'.ledger.storage.getPayment paymentId = some receipt ∧
        row.amount = receipt.amount.val)
    (haccepted : s'.accepted = s.accepted) (hidempotency : s'.idempotency = s.idempotency) :
    Orderly host s' phases where
  books := hbooks
  nonneg paymentId := (h.nonneg paymentId).trans (hlater.refundedTotal paymentId)
  rows := hrows
  accepted a ha := (h.accepted a (haccepted ▸ ha)).later hlater
  calls := by rw [hidempotency, haccepted, h.calls]
  settled := hidempotency ▸ h.settled
  requests := by
    unfold RefundShared.refundRequests
    rw [hidempotency, haccepted]
    exact h.requests
  fits p hp := (h.fits p hp).later hlater

theorem orderly_onChain (hinj : Function.Injective host.sha256) {s : RefundShared T}
    {phases : List RefundPhase} (h : Orderly host s phases) (step : Registry.Step T) :
    Orderly host (s.onChain host step) phases := by
  refine h.later (later_onChain s step) (Registry.fullBooks_exec hinj _ step h.books) ?_ rfl rfl
  intro paymentId row hrow
  obtain ⟨hid, hzero, receipt, hreceipt, hamount⟩ := h.rows paymentId row hrow
  exact ⟨hid, hzero, receipt, Registry.getPayment_exec h.books.1 hreceipt step, hamount⟩

theorem orderly_recordPayment {s : RefundShared T} {phases : List RefundPhase}
    (h : Orderly host s phases) (paymentId : BytesN) (merchantId : Uuid) :
    Orderly host (s.recordPayment paymentId merchantId) phases := by
  have hlater := later_recordPayment s paymentId merchantId
  unfold RefundShared.recordPayment at hlater ⊢
  split
  · rename_i receipt hreceipt hnone
    rw [hreceipt, hnone] at hlater
    refine h.later hlater h.books (fun paymentId' row hrow => ?_) rfl rfl
    rw [FinMap.lookup_insert] at hrow
    by_cases heq : paymentId' = paymentId
    · rw [if_pos heq] at hrow
      obtain rfl := Option.some.inj hrow
      exact ⟨heq.symm, rfl, receipt, heq ▸ hreceipt, rfl⟩
    · rw [if_neg heq] at hrow
      exact h.rows paymentId' row hrow
  · exact h

theorem later_onIdempotency (s : RefundShared T) (action : Action refundHandling) :
    s.Later (s.onIdempotency action) := ⟨fun _ _ h => h, fun _ => le_rfl⟩

/-- The idempotency layer goes on, with no new call. -/
theorem orderly_onIdempotency {s : RefundShared T} {phases : List RefundPhase}
    (h : Orderly host s phases) {action : Action refundHandling} (hcall : action.call? = none) :
    Orderly host (s.onIdempotency action) phases where
  books := h.books
  nonneg := h.nonneg
  rows := h.rows
  accepted a ha := (h.accepted a ha).later (later_onIdempotency s action)
  calls := by
    show (exec s.idempotency action).shared.calls = _
    rw [exec_calls, hcall, Option.toList_none, List.append_nil]
    exact h.calls
  settled := tracked_exec _ action h.settled
  requests r hr := by
    unfold RefundShared.refundRequests at hr
    change r ∈ (exec s.idempotency action).shared.committed.flatMap _ at hr
    rw [exec_committed, List.flatMap_append] at hr
    rcases List.mem_append.mp hr with hr | hr
    · exact h.requests r hr
    · -- a new row is made by the transaction that is committed
      obtain ⟨⟨i, t⟩, hq, hrt⟩ := List.mem_flatMap.mp hr
      have hcommit := Option.mem_toList.mp hq
      have hwork : t.statements ≠ [] := List.ne_nil_of_mem hrt
      obtain ⟨c, hc, hyields⟩ := committing_yields h.settled hcommit hwork
      rw [h.calls, List.getElem?_map] at hc
      obtain ⟨a, ha, rfl⟩ := Option.map_eq_some_iff.mp hc
      rw [statements_of_yields hyields] at hrt
      exact ⟨a, List.mem_of_getElem? ha, List.mem_singleton.mp hrt⟩
  fits p hp := (h.fits p hp).later (later_onIdempotency s action)

/-- A refund that has passed the comparison becomes a call. -/
theorem orderly_runIdempotent {s : RefundShared T} {phases : List RefundPhase}
    (h : Orderly host s phases) {a : Accepted} (ha : a.Sound s) (reply : RefundReply) :
    Orderly host (s.performRefund reply (.runIdempotent a)).2 phases := by
  have hlater : s.Later (s.performRefund reply (.runIdempotent a)).2 :=
    ⟨fun _ _ h => h, fun _ => le_rfl⟩
  refine ⟨h.books, h.nonneg, h.rows, fun b hb => ?_, ?_, tracked_exec _ _ h.settled, fun r hr => ?_,
    fun p hp => (h.fits p hp).later hlater⟩
  · rcases List.mem_append.mp hb with hb | hb
    · exact (h.accepted b hb).later hlater
    · exact List.mem_singleton.mp hb ▸ ha.later hlater
  · show s.idempotency.shared.calls ++ [a.call] = _
    rw [h.calls]
    exact (@List.map_append _ _ Accepted.call s.accepted [a]).symm
  · obtain ⟨b, hb, hrow⟩ := h.requests r hr
    exact ⟨b, List.mem_append_left _ hb, hrow⟩

/-- What the route has read is so. -/
theorem fits_of_move {s : RefundShared T} {phases : List RefundPhase} (h : Orderly host s phases)
    {p p' : RefundPhase} {e : RefundEffect} {answer : RefundAnswer e} {reply : RefundReply}
    (hp : p.Fits s) (hanswer : (s.performRefund reply e).1 = answer)
    (hmove : RefundMove p e answer p') : p'.Fits s := by
  cases hmove with
  | failed _ _ _ _ => trivial
  | find post payment =>
      cases reply with
      | failed => cases hanswer
      | served assetDecimals =>
          exact (Option.filter_eq_some_iff.mp (Option.some.inj hanswer)).1
  | price post payment decimals => exact hp
  | compare a onChain hpriced hcovered =>
      have hrow : s.payments.lookup a.post.paymentId = some a.payment := hp
      obtain ⟨hid, hzero, -⟩ := h.rows _ _ hrow
      have hnonneg := h.nonneg a.payment.paymentId
      cases reply with
      | failed => cases hanswer
      | served assetDecimals =>
          have hread : s.refundedTotal a.post.paymentId = onChain := Option.some.inj hanswer
          rw [← hid] at hread hrow
          refine ⟨hrow, ?_, hpriced.positive, hcovered⟩
          rw [hpriced.refundedTotal_eq, hzero, ← hread]
          exact max_le le_rfl hnonneg
  | runIdempotent a => trivial

theorem orderly_route {s : RefundShared T} {phases : List RefundPhase} (h : Orderly host s phases)
    {worker : ℕ} {p p' : RefundPhase} {e : RefundEffect} {reply : RefundReply}
    (hp : phases[worker]? = some p) (hmove : RefundMove p e (s.performRefund reply e).1 p') :
    Orderly host (s.performRefund reply e).2 (phases.set worker p') := by
  have hp' := fits_of_move h (h.fits p (List.mem_of_getElem? hp)) rfl hmove
  have hmoved : Orderly host s (phases.set worker p') :=
    { h with
      fits := fun q hq => (List.mem_or_eq_of_mem_set hq).elim (h.fits q) fun heq => heq ▸ hp' }
  cases e with
  | findPayment paymentId merchantId => cases reply <;> exact hmoved
  | resolveAssetDecimalsForMandate merchantId mandateId => cases reply <;> exact hmoved
  | getRefundedTotal paymentId => cases reply <;> exact hmoved
  | runIdempotent a =>
      cases hmove with
      | failed _ _ _ hread => exact absurd rfl (hread a)
      | runIdempotent _ =>
          exact orderly_runIdempotent hmoved (h.fits _ (List.mem_of_getElem? hp)) reply

/-! ## The totals that were read -/

/-- What the request was compared with. -/
def Accepted.comparison (a : Accepted) : BytesN × ℤ := (a.payment.paymentId, a.refundedTotal)

/-- Each request was compared with a total that has been read. -/
structure Informed (host : Host T) (reads : List (BytesN × ℤ)) (s : RefundShared T)
    (phases : List RefundPhase) : Prop where
  orderly : Orderly host s phases
  accepted : ∀ a ∈ s.accepted, a.comparison ∈ reads
  compared : ∀ a, RefundPhase.compared a ∈ phases → a.comparison ∈ reads

abbrev TrackedInformed (host : Host T) (q : RefundSystem T × List (BytesN × ℤ)) : Prop :=
  Workers.Tracked RefundMove (Informed host q.2) q.1

/-- No request is compared or accepted. -/
theorem Informed.outside {reads : List (BytesN × ℤ)} {s s' : RefundShared T}
    {phases : List RefundPhase} (h : Informed host reads s phases) (horderly : Orderly host s' phases)
    (haccepted : s'.accepted = s.accepted) (more : List (BytesN × ℤ)) :
    Informed host (reads ++ more) s' phases where
  orderly := horderly
  accepted a ha := List.mem_append_left _ (h.accepted a (haccepted ▸ ha))
  compared a ha := List.mem_append_left _ (h.compared a ha)

/-- The total of a comparison is the one on the chain, which the step reads. -/
theorem comparison_of_move {s : RefundShared T} {phases : List RefundPhase} (h : Orderly host s phases)
    {p : RefundPhase} {e : RefundEffect} {answer : RefundAnswer e} {reply : RefundReply} {a : Accepted}
    (hp : p.Fits s) (hanswer : (s.performRefund reply e).1 = answer)
    (hmove : RefundMove p e answer (.compared a)) :
    (∃ assetDecimals, reply = .served assetDecimals) ∧ e = .getRefundedTotal a.payment.paymentId ∧
      a.refundedTotal = s.refundedTotal a.payment.paymentId := by
  cases hmove with
  | compare a onChain hpriced hcovered =>
      have hrow : s.payments.lookup a.post.paymentId = some a.payment := hp
      obtain ⟨hid, hzero, -⟩ := h.rows _ _ hrow
      cases reply with
      | failed => cases hanswer
      | served assetDecimals =>
          have hread : s.refundedTotal a.post.paymentId = onChain := Option.some.inj hanswer
          refine ⟨⟨_, rfl⟩, by rw [hid], ?_⟩
          calc a.refundedTotal = max onChain a.payment.refundedTotal := hpriced.refundedTotal_eq
            _ = onChain := by rw [hzero, ← hread]; exact max_eq_left (h.nonneg _)
            _ = s.refundedTotal a.payment.paymentId := by rw [← hread, hid]

theorem informed_route {q : RefundSystem T × List (BytesN × ℤ)} (h : TrackedInformed host q)
    (worker : ℕ) (reply : RefundReply) :
    TrackedInformed host (q.1.work (RefundShared.performRefund reply) worker,
      q.2 ++ readTotal q.1 (.route worker reply)) := by
  refine h.work_to (fun phases p e k p' hinv hp hcalls hmove => ⟨?_, fun a ha => ?_, fun a ha => ?_⟩)
    fun _ phases hinv => hinv.outside hinv.orderly rfl _
  · exact orderly_route hinv.orderly hp hmove
  · have hold : a ∈ q.1.shared.accepted → a.comparison ∈ q.2 ++ readTotal q.1 (.route worker reply) :=
      fun ha => List.mem_append_left _ (hinv.accepted a ha)
    cases e with
    | findPayment paymentId merchantId => cases reply <;> exact hold ha
    | resolveAssetDecimalsForMandate merchantId mandateId => cases reply <;> exact hold ha
    | getRefundedTotal paymentId => cases reply <;> exact hold ha
    | runIdempotent b =>
        rcases List.mem_append.mp ha with ha | ha
        · exact hold ha
        · obtain rfl := List.mem_singleton.mp ha
          cases hmove with
          | failed _ _ _ hread => exact absurd rfl (hread a)
          | runIdempotent _ =>
              exact List.mem_append_left _ (hinv.compared a (List.mem_of_getElem? hp))
  · rcases List.mem_or_eq_of_mem_set ha with hold | rfl
    · exact List.mem_append_left _ (hinv.compared a hold)
    · -- the request has been compared in this step
      obtain ⟨⟨assetDecimals, rfl⟩, rfl, htotal⟩ := comparison_of_move hinv.orderly
        (hinv.orderly.fits p (List.mem_of_getElem? hp)) rfl hmove
      have hread : readTotal q.1 (.route worker (.served assetDecimals)) = [a.comparison] := by
        simp only [readTotal, hcalls, Accepted.comparison, htotal]
      rw [hread]
      exact List.mem_append_right _ List.mem_cons_self

abbrev execReading (host : Host T) : RefundSystem T × List (BytesN × ℤ) → RefundAction T →
    RefundSystem T × List (BytesN × ℤ) := Runs.noting (execRefund host) readTotal

theorem tracked_execReading (hinj : Function.Injective host.sha256)
    (q : RefundSystem T × List (BytesN × ℤ)) (action : RefundAction T) (h : TrackedInformed host q) :
    TrackedInformed host (execReading host q action) := by
  have houtside : ∀ {f : RefundShared T → RefundShared T} {more : List (BytesN × ℤ)},
      (∀ phases, Orderly host q.1.shared phases → Orderly host (f q.1.shared) phases) →
      (f q.1.shared).accepted = q.1.shared.accepted →
      TrackedInformed host (q.1.outside f, q.2 ++ more) := fun horderly haccepted =>
    h.of_running_eq rfl fun phases hinv => hinv.outside (horderly phases hinv.orderly) haccepted _
  cases action with
  | post post paymentIdText =>
      refine h.start_to (postRefund_obeys post paymentIdText) fun phases hinv =>
        ⟨{ hinv.orderly with fits := fun p hp => ?_ },
          fun a ha => List.mem_append_left _ (hinv.accepted a ha), fun a ha => ?_⟩
      · rcases List.mem_append.mp hp with hp | hp
        · exact hinv.orderly.fits p hp
        · exact List.mem_singleton.mp hp ▸ trivial
      · rcases List.mem_append.mp ha with ha | ha
        · exact List.mem_append_left _ (hinv.compared a ha)
        · cases List.mem_singleton.mp ha
  | route worker reply => exact informed_route h worker reply
  | work worker reply => exact houtside (fun _ hinv => orderly_onIdempotency hinv rfl) rfl
  | abort worker => exact houtside (fun _ hinv => orderly_onIdempotency hinv rfl) rfl
  | recordPayment paymentId merchantId =>
      refine houtside (fun _ hinv => orderly_recordPayment hinv paymentId merchantId) ?_
      unfold RefundShared.recordPayment
      split <;> rfl
  | chain step => exact houtside (fun _ hinv => orderly_onChain hinj hinv step) rfl

theorem tracked_initialRefund (t₀ : U64) (tok₀ : T) :
    TrackedInformed host (initialRefund t₀ tok₀, []) := by
  have horderly : Orderly host (initialRefund t₀ tok₀ : RefundSystem T).shared [] := {
    books := Registry.fullBooks_genesis host t₀ tok₀
    nonneg := fun _ => le_rfl
    rows := fun _ _ hrow => by cases hrow
    accepted := fun _ ha => by cases ha
    calls := rfl
    settled := tracked_initial
    requests := fun _ hr => by cases hr
    fits := fun _ hp => by cases hp }
  exact ⟨[], ⟨rfl, fun hp => by simp at hp⟩, horderly, fun _ ha => (by cases ha),
    fun _ ha => (by cases ha)⟩

/-! ## What a step adds -/

theorem pendingOf_append (paymentId : BytesN) (l l' : List RefundRequest) :
    pendingOf paymentId (l ++ l') = pendingOf paymentId l + pendingOf paymentId l' := by
  unfold pendingOf
  rw [List.filter_append, List.map_append, List.sum_append]

theorem pendingOf_row (paymentId : BytesN) (a : Accepted) : pendingOf paymentId [a.row]
    = if a.payment.paymentId = paymentId then a.amountBaseUnits else 0 := by
  unfold pendingOf
  by_cases heq : a.payment.paymentId = paymentId
  · simp [Accepted.row, RefundRequest.isPending, heq]
  · simp [Accepted.row, heq]

theorem pending_onIdempotency (s : RefundShared T) (action : Action refundHandling)
    (paymentId : BytesN) : (s.onIdempotency action).pending paymentId = s.pending paymentId
      + pendingOf paymentId ((committing s.idempotency action).toList.flatMap
        fun q => q.2.statements) := by
  show pendingOf paymentId ((exec s.idempotency action).shared.committed.flatMap _) = _
  rw [exec_committed, List.flatMap_append, pendingOf_append]
  rfl

theorem pending_eq_zero_of_not {s : RefundShared T} {paymentId : BytesN}
    (h : ¬ s.HasPending paymentId) : s.pending paymentId = 0 := by
  unfold RefundShared.pending pendingOf
  rw [List.filter_eq_nil_iff.mpr]
  · rfl
  · intro r hr hmine
    obtain ⟨hid, hpending⟩ := Bool.and_eq_true_iff.mp hmine
    exact h ⟨r, hr, of_decide_eq_true hid, hpending⟩

section

variable {s : RefundShared T} {phases : List RefundPhase}

/-- A commit adds nothing, or the row of one request. -/
theorem committed_rows (h : Orderly host s phases) (action : Action refundHandling) :
    ((committing s.idempotency action).toList.flatMap fun q => q.2.statements) = [] ∨
      ∃ i t a, committing s.idempotency action = some (i, t) ∧ t.statements ≠ [] ∧
        s.accepted[i]? = some a ∧ t.statements = [a.row] := by
  cases hcommit : committing s.idempotency action with
  | none => exact .inl rfl
  | some q =>
      obtain ⟨i, t⟩ := q
      by_cases hwork : t.statements = []
      · exact .inl (by simp [hwork])
      · obtain ⟨c, hc, hyields⟩ := committing_yields h.settled hcommit hwork
        rw [h.calls, List.getElem?_map] at hc
        obtain ⟨a, ha, rfl⟩ := Option.map_eq_some_iff.mp hc
        exact .inr ⟨i, t, a, rfl, hwork, ha, statements_of_yields hyields⟩

/-- **The comparison is enough for a request that nothing comes between.** -/
theorem within_onIdempotency (h : Orderly host s phases) (hP : s.WithinPayments)
    (action : Action refundHandling)
    (hundisturbed : ∀ q ∈ committing s.idempotency action, q.2.statements ≠ [] →
      ∀ a ∈ s.accepted[q.1]?, ¬ s.HasPending a.payment.paymentId ∧
        s.refundedTotal a.payment.paymentId = a.refundedTotal) :
    (s.onIdempotency action).WithinPayments := by
  intro paymentId row hrow
  have hbefore := hP paymentId row hrow
  change s.refundedTotal paymentId + (s.onIdempotency action).pending paymentId ≤ row.amount
  rw [pending_onIdempotency]
  rcases committed_rows h action with hnone | ⟨i, t, a, hcommit, hwork, ha, hrows⟩
  · rwa [hnone, show pendingOf paymentId [] = 0 from rfl, add_zero]
  · have hsound := h.accepted a (List.mem_of_getElem? ha)
    have hadds : (committing s.idempotency action).toList.flatMap (fun q => q.2.statements)
        = [a.row] := by simp [hcommit, hrows]
    rw [hadds, pendingOf_row]
    by_cases heq : a.payment.paymentId = paymentId
    · subst heq
      obtain rfl := Option.some.inj (hsound.payment.symm.trans hrow)
      obtain ⟨hnone, htotal⟩ := hundisturbed _ hcommit hwork a ha
      have hpending := pending_eq_zero_of_not hnone
      have hcovered := hsound.covered
      rw [if_pos rfl]
      omega
    · rw [if_neg heq, add_zero]
      exact hbefore

/-- Nothing is pending for a payment that is not recorded. -/
theorem pending_eq_zero (h : Orderly host s phases) {paymentId : BytesN}
    (hnone : s.payments.lookup paymentId = none) : s.pending paymentId = 0 := by
  apply pending_eq_zero_of_not
  rintro ⟨r, hr, hid, -⟩
  obtain ⟨a, ha, rfl⟩ := h.requests r hr
  have hrow := (h.accepted a ha).payment
  have hrow' : s.payments.lookup a.payment.paymentId = none := (congrArg s.payments.lookup hid).trans hnone
  rw [hrow'] at hrow
  cases hrow

theorem within_recordPayment (h : Orderly host s phases) (hP : s.WithinPayments)
    (paymentId : BytesN) (merchantId : Uuid) :
    (s.recordPayment paymentId merchantId).WithinPayments := by
  unfold RefundShared.recordPayment
  split
  · rename_i receipt hreceipt hnone
    intro paymentId' row hrow
    rw [FinMap.lookup_insert] at hrow
    by_cases heq : paymentId' = paymentId
    · subst heq
      rw [if_pos rfl] at hrow
      obtain rfl := Option.some.inj hrow
      have hle := h.books.2.total_le hreceipt
      have hzero := pending_eq_zero h hnone
      change s.refundedTotal _ + s.pending _ ≤ receipt.amount.val
      rw [hzero, add_zero]
      exact hle
    · rw [if_neg heq] at hrow
      exact hP paymentId' row hrow
  · exact hP

/-- On the chain no payment is refunded beyond its amount. -/
theorem refundedTotal_le (h : Orderly host s phases) {paymentId : BytesN} {row : PaymentRow}
    (hrow : s.payments.lookup paymentId = some row) : s.refundedTotal paymentId ≤ row.amount := by
  obtain ⟨-, -, receipt, hreceipt, hamount⟩ := h.rows paymentId row hrow
  rw [hamount]
  exact h.books.2.total_le hreceipt

theorem within_onChain (hinj : Function.Injective host.sha256) (h : Orderly host s phases)
    (hP : s.WithinPayments) (step : Registry.Step T)
    (hundisturbed : ∀ r ∈ s.refundRequests, r.isPending = true →
      refundedBy host s.ledger step r.paymentId = 0) :
    (s.onChain host step).WithinPayments := by
  intro paymentId row hrow
  change (s.onChain host step).refundedTotal paymentId + s.pending paymentId ≤ row.amount
  by_cases hpending : s.HasPending paymentId
  · -- then nothing is refunded
    obtain ⟨r, hr, rfl, hmine⟩ := hpending
    have hnothing := hundisturbed r hr hmine
    have hbefore := hP r.paymentId row hrow
    have htotal : (s.onChain host step).refundedTotal r.paymentId
        = s.refundedTotal r.paymentId + refundedBy host s.ledger step r.paymentId :=
      (add_sub_cancel _ _).symm
    omega
  · rw [pending_eq_zero_of_not hpending, add_zero]
    exact refundedTotal_le (orderly_onChain hinj h step) hrow

end

/-! ## Runs -/

/-- **A step that nothing comes between keeps the payments within their amounts.** -/
theorem within_execRefund (hinj : Function.Injective host.sha256)
    {q : RefundSystem T × List (BytesN × ℤ)} (h : TrackedInformed host q)
    (hP : q.1.shared.WithinPayments) {action : RefundAction T}
    (hundisturbed : Undisturbed host q.1 action) :
    (execRefund host q.1 action).shared.WithinPayments := by
  obtain ⟨phases, -, hinv⟩ := h
  cases action with
  | post post paymentIdText => exact hP
  | route worker reply =>
      rcases Workers.work_cases (RefundShared.performRefund reply) worker q.1 with
        hidle | ⟨e, k, -, hwork⟩
      · show (q.1.work (RefundShared.performRefund reply) worker).shared.WithinPayments
        rwa [hidle]
      · show (q.1.work (RefundShared.performRefund reply) worker).shared.WithinPayments
        rw [hwork]
        cases e with
        | runIdempotent a => exact hP
        | _ => cases reply <;> exact hP
  | work worker reply => exact within_onIdempotency hinv.orderly hP _ hundisturbed
  | abort worker =>
      refine within_onIdempotency hinv.orderly hP (.abort worker) fun q hcommit => ?_
      cases hcommit
  | recordPayment paymentId merchantId =>
      exact within_recordPayment hinv.orderly hP paymentId merchantId
  | chain step => exact within_onChain hinj hinv.orderly hP step hundisturbed

section

open Registry (MockToken encodeDigest_injective mockFunds mockHost mockId mockRun)

def mockPaymentId : BytesN := mockHost.derivePaymentId mockId ⟨1⟩

/-- A payment of 5 on the chain, and its row. -/
def payFive : List (RefundAction MockToken) :=
  (mockRun.take 2).map .chain ++ [.recordPayment mockPaymentId 1]

/-- The request that is made as the `i`-th one, served without a break: four steps of the route, six of
`runIdempotent`. -/
def requestThree (i : ℕ) (idempotencyKey : String) : List (RefundAction MockToken) :=
  .post ⟨1, idempotencyKey, mockPaymentId, "3", "", ⟨i⟩⟩ "" ::
    (List.replicate 4 (.route i (.served (some 0))) ++
      List.replicate 6 (.work i (.served fun _ => ⟨i, 0⟩)))

end

end Paymap.Api
