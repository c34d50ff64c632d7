import Paymap.Relayer.Knowledge

set_option autoImplicit false

/-! # What a step records

A worker's step records the outcome of a request, or it is `Quiet`: no payment is added, nothing is
announced, and no request comes to an end. `Records` says so once, from the transactions of the
pipeline; what is outside the workers is always quiet.
-/

namespace Paymap.Relayer

open Registry (Mandate PaymentReceipt)

/-- The request whose success is announced. -/
def ChargeEvent.succeededRequest? : ChargeEvent → Option Uuid
  | .paymentSucceeded id _ _ _ _ => some id
  | _ => none

namespace Db

/-- No outcome is recorded. -/
structure Quiet (db db' : Db) : Prop where
  payments : db'.payments = db.payments
  deliveries : db'.webhookDeliveries = db.webhookDeliveries
  terminal : ∀ id st, legalTransitions st = [] →
    (db'.statusOf id = some st ↔ db.statusOf id = some st)

/-- What a worker in phase `p` adds to the three tables in one step. -/
inductive Records (db db' : Db) (p : Phase) : Prop where
  | nothing (quiet : db.Quiet db')
  | success (id : Uuid) (row : ChargeRequest) (mandate : Mandate) (receipt : PaymentReceipt)
      (txHash : TxHash) (ledger : ℕ) (rest : List WebhookDelivery)
      (told : p = .answered id row mandate (.success receipt txHash ledger))
      (moves : db.Moves db' id .submitted .succeeded)
      (payments : db'.payments = db.payments ++ [newPayment row receipt txHash ledger])
      (deliveries : db'.webhookDeliveries = db.webhookDeliveries ++
        ⟨row.merchantId, .paymentSucceeded id receipt.paymentId row.mandateId row.chargeId txHash⟩
          :: rest)
      (others : ∀ delivery ∈ rest, delivery.event = .mandateCompleted row.mandateId)
  | failure (id : Uuid) (row : ChargeRequest) (source : ChargeRequestStatus) (reason : String)
      (moves : db.Moves db' id source .permanentlyFailed)
      (payments : db'.payments = db.payments)
      (deliveries : db'.webhookDeliveries = db.webhookDeliveries ++
        [⟨row.merchantId, .paymentFailed id row.mandateId row.chargeId reason⟩])

theorem Moves.of_becomes {db db' : Db} {id id' : Uuid}
    {source target st : ChargeRequestStatus} (h : db.Moves db' id source target)
    (hst : db'.statusOf id' = some st) (hne : st ≠ target) : db.statusOf id' = some st := by
  have hid : id' ≠ id := by
    rintro rfl
    exact hne (Option.some.inj (hst.symm.trans h.becomes))
  rw [← h.others id' hid, hst]

theorem SameRequests.quiet {db db' : Db} (h : db.SameRequests db')
    (hpayments : db'.payments = db.payments)
    (hdeliveries : db'.webhookDeliveries = db.webhookDeliveries) : db.Quiet db' :=
  ⟨hpayments, hdeliveries, fun id st _ => by rw [h.statusOf]⟩

/-- A transition to a status that is not the last one. -/
theorem Moves.quiet {db db' : Db} {id : Uuid} {source target : ChargeRequestStatus}
    (h : db.Moves db' id source target) (htarget : legalTransitions target ≠ [])
    (hpayments : db'.payments = db.payments)
    (hdeliveries : db'.webhookDeliveries = db.webhookDeliveries) : db.Quiet db' := by
  refine ⟨hpayments, hdeliveries, fun id' st hterminal => ⟨fun hst => ?_, fun hst => ?_⟩⟩
  · refine h.of_becomes hst ?_
    rintro rfl
    exact htarget hterminal
  · exact h.of_terminal hterminal hst

end Db

/-! ## Workers -/

section

variable {T : Type} {host : Registry.Host T} {reply : Reply} {s s' : Shared T} {p p' : Phase}
  {e : Effect}

/-- Of the statements that record a charge one creates a payment, and the first delivery announces
it. -/
theorem recordSuccess_adds (id : Uuid) (row : ChargeRequest) (mandate : Mandate)
    (receipt : PaymentReceipt) (txHash : TxHash) (ledger : ℕ) (now : Time) :
    (recordSuccess id row mandate receipt txHash ledger now).filterMap Statement.payment?
        = [newPayment row receipt txHash ledger] ∧
      ∃ rest, (recordSuccess id row mandate receipt txHash ledger now).filterMap
          Statement.delivery?
          = ⟨row.merchantId, .paymentSucceeded id receipt.paymentId row.mandateId row.chargeId
              txHash⟩ :: rest ∧
        ∀ delivery ∈ rest, delivery.event = .mandateCompleted row.mandateId := by
  -- neither the consumed authorization nor the news that the mandate is complete is a payment
  unfold recordSuccess
  by_cases hlast : completesMandate mandate = true
  · rw [if_pos hlast]
    refine ⟨?_, [⟨row.merchantId, .mandateCompleted row.mandateId⟩], ?_, by simp⟩
    · cases row.authorizationId <;> rfl
    · cases row.authorizationId <;> rfl
  · rw [if_neg hlast]
    refine ⟨?_, [], ?_, by simp⟩
    · cases row.authorizationId <;> rfl
    · cases row.authorizationId <;> rfl

theorem Worked.records (h : Worked reply s p e s' p') : s.db.Records s'.db p := by
  -- a transition on its own to a status that is not the last
  have hquiet : ∀ {id : Uuid} {source target : ChargeRequestStatus} {data : RowData} {db : Db},
      legalTransitions target ≠ [] →
      transact s.clock [.transition id source target data] s.db = .ok db → s.db.Quiet db :=
    fun htarget hdb => (moves_of_transact_one hdb).quiet htarget (transact_no_payment hdb rfl)
      (transact_no_delivery hdb rfl)
  cases h with
  | claim id row db hdb => exact .nothing (hquiet (by simp [legalTransitions]) hdb)
  | expire id row mandate authorizationId db hdb =>
      exact .nothing ((sameRequests_updateAuthorization hdb).quiet (transact_no_payment hdb rfl)
        (transact_no_delivery hdb rfl))
  | simulate id row mandate db hdb => exact .nothing (hquiet (by simp [legalTransitions]) hdb)
  | submit id row mandate db hdb => exact .nothing (hquiet (by simp [legalTransitions]) hdb)
  | setHash id row mandate error hash db hdb =>
      obtain ⟨db₁, hfirst, hrest⟩ := transact_cons_ok.mp hdb
      obtain rfl := transact_nil_ok.mp hrest
      obtain ⟨hsame, hpayments, hdeliveries⟩ := sameRequests_setTransactionHash hfirst
      exact .nothing (hsame.quiet hpayments hdeliveries)
  | retry p id row source classified now nextAttemptAt db _ _ hdb =>
      exact .nothing (hquiet (by simp [legalTransitions]) hdb)
  | giveUp p id row source classified now db _ _ hdb =>
      exact .failure id row source classified.reason (moves_failPermanently hdb)
        (transact_no_payment hdb rfl) (transact_appends hdb).2
  | succeed id row mandate receipt txHash ledger now db hdb =>
      obtain ⟨hpayment, rest, hdelivery, hrest⟩ :=
        recordSuccess_adds id row mandate receipt txHash ledger now
      obtain ⟨hpayments, hdeliveries⟩ := transact_appends hdb
      rw [hpayment] at hpayments
      rw [hdelivery] at hdeliveries
      exact .success id row mandate receipt txHash ledger rest rfl (moves_recordSuccess hdb) hpayments
        hdeliveries hrest
  | _ => exact .nothing ((Db.SameRequests.refl _).quiet rfl rfl)

/-! ## Everything else -/

theorem Happens.quiet {action : Action T} (h : Happens host s action s') : s.db.Quiet s'.db := by
  refine ⟨?_, ?_, fun id st hst => ?_⟩
  · cases h with
    | apart _ _ _ hpayments _ _ _ => exact hpayments
    | complete authorizationId id ciphertext db hdb =>
        obtain ⟨authorization, -, -, -, -, hpayments, -⟩ := completeChargeAuthorization_ok hdb
        exact hpayments
    | _ => rfl
  · cases h with
    | apart _ _ _ _ hdeliveries _ _ => exact hdeliveries
    | complete authorizationId id ciphertext db hdb =>
        obtain ⟨authorization, -, -, -, -, -, hdeliveries⟩ := completeChargeAuthorization_ok hdb
        exact hdeliveries
    | _ => rfl
  · -- no status that changes is, or becomes, the last one
    rcases h.statusOf_cases id with hsame | ⟨hbefore | hbefore, hafter⟩ | ⟨hbefore, hafter⟩
    · rw [hsame]
    · rw [hbefore, hafter]
      cases st <;> simp [legalTransitions] at hst ⊢
    · rw [hbefore, hafter]
      cases st <;> simp [legalTransitions] at hst ⊢
    · rw [hbefore, hafter]
      cases st <;> simp [legalTransitions] at hst ⊢

end

end Paymap.Relayer
