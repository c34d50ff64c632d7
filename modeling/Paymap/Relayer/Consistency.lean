import Paymap.Relayer.Agreement

set_option autoImplicit false

/-! # Rows and statuses

What the workers write in three tables fits together. A request that succeeded has one payment and
one announcement of it, a request that failed for good has one announcement of that, and no other
request has any of them. The rows are written by two transactions, and both are guarded by the
status alone; it is the end of the request that lets neither of them write twice.
-/

namespace Paymap.Relayer

open Registry (Host Mandate PaymentReceipt)

/-! ## The rows of a request -/

namespace Db

def paymentsOf (db : Db) (id : Uuid) : List Payment :=
  db.payments.filter fun payment => payment.chargeRequestId = id

/-- The `payment.succeeded` deliveries. -/
def successesOf (db : Db) (id : Uuid) : List WebhookDelivery :=
  db.webhookDeliveries.filter fun delivery => delivery.event.succeededRequest? = some id

/-- The `payment.failed` deliveries. -/
def failuresOf (db : Db) (id : Uuid) : List WebhookDelivery :=
  db.webhookDeliveries.filter fun delivery => delivery.event.failedRequest? = some id

/-- `[status = st]`. -/
def indicator (db : Db) (id : Uuid) (st : ChargeRequestStatus) : ℕ :=
  if db.statusOf id = some st then 1 else 0

/-- The rows of the three tables fit together. -/
structure Consistent (db : Db) (id : Uuid) : Prop where
  payments : (db.paymentsOf id).length = db.indicator id .succeeded
  successes : (db.successesOf id).length = db.indicator id .succeeded
  failures : (db.failuresOf id).length = db.indicator id .permanentlyFailed

/-- Neither the status of the request nor its rows have changed. -/
structure Unchanged (db db' : Db) (id : Uuid) : Prop where
  statusOf : db'.statusOf id = db.statusOf id
  payments : db'.paymentsOf id = db.paymentsOf id
  successes : db'.successesOf id = db.successesOf id
  failures : db'.failuresOf id = db.failuresOf id

theorem Unchanged.refl (db : Db) (id : Uuid) : db.Unchanged db id := ⟨rfl, rfl, rfl, rfl⟩

theorem Unchanged.trans {db₁ db₂ db₃ : Db} {id : Uuid} (h : db₁.Unchanged db₂ id)
    (h' : db₂.Unchanged db₃ id) : db₁.Unchanged db₃ id where
  statusOf := h'.statusOf.trans h.statusOf
  payments := h'.payments.trans h.payments
  successes := h'.successes.trans h.successes
  failures := h'.failures.trans h.failures

/-! ## What a step records of one request -/

/-- No outcome of the request is recorded. -/
structure Unrecorded (db db' : Db) (id : Uuid) : Prop where
  payments : db'.paymentsOf id = db.paymentsOf id
  successes : db'.successesOf id = db.successesOf id
  failures : db'.failuresOf id = db.failuresOf id
  terminal : ∀ st, legalTransitions st = [] →
    (db'.statusOf id = some st ↔ db.statusOf id = some st)

inductive RecordsOf (db db' : Db) (id : Uuid) : Prop where
  | nothing (unrecorded : db.Unrecorded db' id)
  | success (payment : Payment) (delivery : WebhookDelivery)
      (moves : db.Moves db' id .submitted .succeeded)
      (payments : db'.paymentsOf id = db.paymentsOf id ++ [payment])
      (successes : db'.successesOf id = db.successesOf id ++ [delivery])
      (failures : db'.failuresOf id = db.failuresOf id)
  | failure (delivery : WebhookDelivery) (source : ChargeRequestStatus)
      (moves : db.Moves db' id source .permanentlyFailed)
      (payments : db'.paymentsOf id = db.paymentsOf id)
      (successes : db'.successesOf id = db.successesOf id)
      (failures : db'.failuresOf id = db.failuresOf id ++ [delivery])

section

variable {db db' : Db} {id id' : Uuid}

theorem Quiet.unrecorded (h : db.Quiet db') (id : Uuid) : db.Unrecorded db' id where
  payments := by rw [paymentsOf, h.payments, paymentsOf]
  successes := by rw [successesOf, h.deliveries, successesOf]
  failures := by rw [failuresOf, h.deliveries, failuresOf]
  terminal := h.terminal id

/-- The outcome is another request's. -/
theorem Moves.unrecorded {source target : ChargeRequestStatus} (h : db.Moves db' id source target)
    (hne : id' ≠ id) (hpayments : db'.paymentsOf id' = db.paymentsOf id')
    (hsuccesses : db'.successesOf id' = db.successesOf id')
    (hfailures : db'.failuresOf id' = db.failuresOf id') : db.Unrecorded db' id' :=
  ⟨hpayments, hsuccesses, hfailures, fun st _ => by rw [h.others id' hne]⟩

/-- Of new deliveries, all but the first of which are of another kind, at most the first counts. -/
theorem filter_append_first {deliveries rest : List WebhookDelivery} {delivery : WebhookDelivery}
    {P : WebhookDelivery → Bool} (hrest : ∀ x ∈ rest, P x = false) :
    (deliveries ++ delivery :: rest).filter P
      = deliveries.filter P ++ if P delivery then [delivery] else [] := by
  have hnone : rest.filter P = [] := List.filter_eq_nil_iff.mpr fun x hx => by simp [hrest x hx]
  rw [List.filter_append, List.filter_cons, hnone]

/-- **Of each request.** A worker whose row is the request's own records outcomes of no other. -/
theorem Records.of {p : Phase} (h : db.Records db' p)
    (hrow : ∀ {id row}, p.row? = some (id, row) → row.id = id) (id' : Uuid) :
    db.RecordsOf db' id' := by
  cases h with
  | nothing hquiet => exact .nothing (hquiet.unrecorded id')
  | success id row mandate receipt txHash ledger rest htold hmoves hpayments hdeliveries hrest =>
      have hid : row.id = id := by
        subst htold
        exact hrow rfl
      have hpaid : db'.paymentsOf id' = db.paymentsOf id'
          ++ if id = id' then [newPayment row receipt txHash ledger] else [] := by
        rw [paymentsOf, hpayments, List.filter_append, paymentsOf]
        simp [List.filter_cons, newPayment, hid]
      -- the deliveries after the first one announce the end of the mandate
      have hsuccesses : db'.successesOf id' = db.successesOf id' ++ if id = id' then
          [⟨row.merchantId, .paymentSucceeded id receipt.paymentId row.mandateId row.chargeId txHash⟩]
          else [] := by
        rw [successesOf, hdeliveries, filter_append_first fun x hx => by
          simp [hrest x hx, ChargeEvent.succeededRequest?], successesOf]
        simp [ChargeEvent.succeededRequest?]
      have hnofailure : db'.failuresOf id' = db.failuresOf id' := by
        rw [failuresOf, hdeliveries, filter_append_first fun x hx => by
          simp [hrest x hx, ChargeEvent.failedRequest?], failuresOf]
        simp [ChargeEvent.failedRequest?]
      by_cases heq : id = id'
      · subst heq
        rw [if_pos rfl] at hpaid hsuccesses
        exact .success _ _ hmoves hpaid hsuccesses hnofailure
      · rw [if_neg heq, List.append_nil] at hpaid hsuccesses
        exact .nothing (hmoves.unrecorded (Ne.symm heq) hpaid hsuccesses hnofailure)
  | failure id row source reason hmoves hpayments hdeliveries =>
      have hnopayment : db'.paymentsOf id' = db.paymentsOf id' := by
        rw [paymentsOf, hpayments, paymentsOf]
      have hnosuccess : db'.successesOf id' = db.successesOf id' := by
        rw [successesOf, hdeliveries, filter_append_first (by simp), successesOf]
        simp [ChargeEvent.succeededRequest?]
      have hfailures : db'.failuresOf id' = db.failuresOf id' ++ if id = id' then
          [⟨row.merchantId, .paymentFailed id row.mandateId row.chargeId reason⟩] else [] := by
        rw [failuresOf, hdeliveries, filter_append_first (by simp), failuresOf]
        simp [ChargeEvent.failedRequest?]
      by_cases heq : id = id'
      · subst heq
        rw [if_pos rfl] at hfailures
        exact .failure _ source hmoves hnopayment hnosuccess hfailures
      · rw [if_neg heq, List.append_nil] at hfailures
        exact .nothing (hmoves.unrecorded (Ne.symm heq) hnopayment hnosuccess hfailures)

/-! ## What is kept -/

theorem indicator_of_ne {st st' : ChargeRequestStatus} (h : db.statusOf id = some st)
    (hne : st ≠ st') : db.indicator id st' = 0 := by
  unfold indicator
  rw [h, if_neg fun heq => hne (Option.some.inj heq)]

theorem indicator_of_eq {st : ChargeRequestStatus} (h : db.statusOf id = some st) :
    db.indicator id st = 1 := by
  unfold indicator
  rw [if_pos h]

/-- The status a request comes to an end from is not itself an end. -/
theorem Moves.source_ne {source target st : ChargeRequestStatus}
    (h : db.Moves db' id source target) (hterminal : legalTransitions st = []) : source ≠ st := by
  rintro rfl
  have hlegal := h.legal
  rw [hterminal] at hlegal
  cases hlegal

theorem Consistent.recorded (h : db.Consistent id) (hr : db.RecordsOf db' id) :
    db'.Consistent id := by
  cases hr with
  | nothing hsame =>
      have hindicator : ∀ st, legalTransitions st = [] →
          db'.indicator id st = db.indicator id st := by
        intro st hterminal
        unfold indicator
        simp only [hsame.terminal st hterminal]
      constructor
      · rw [hsame.payments, h.payments, hindicator _ rfl]
      · rw [hsame.successes, h.successes, hindicator _ rfl]
      · rw [hsame.failures, h.failures, hindicator _ rfl]
  | success payment delivery hmoves hpayments hsuccesses hfailures =>
      -- a request that moves had not come to an end
      have hbefore : ∀ st, legalTransitions st = [] → db.indicator id st = 0 :=
        fun st hterminal => indicator_of_ne hmoves.was (hmoves.source_ne hterminal)
      constructor
      · rw [hpayments, List.length_append, h.payments, hbefore _ rfl,
          indicator_of_eq hmoves.becomes]
        rfl
      · rw [hsuccesses, List.length_append, h.successes, hbefore _ rfl,
          indicator_of_eq hmoves.becomes]
        rfl
      · rw [hfailures, h.failures, hbefore _ rfl, indicator_of_ne hmoves.becomes (by simp)]
  | failure delivery source hmoves hpayments hsuccesses hfailures =>
      have hbefore : ∀ st, legalTransitions st = [] → db.indicator id st = 0 :=
        fun st hterminal => indicator_of_ne hmoves.was (hmoves.source_ne hterminal)
      constructor
      · rw [hpayments, h.payments, hbefore _ rfl, indicator_of_ne hmoves.becomes (by simp)]
      · rw [hsuccesses, h.successes, hbefore _ rfl, indicator_of_ne hmoves.becomes (by simp)]
      · rw [hfailures, List.length_append, h.failures, hbefore _ rfl,
          indicator_of_eq hmoves.becomes]
        rfl

/-- A request that has come to an end has no outcome recorded again. -/
theorem RecordsOf.unchanged (h : db.RecordsOf db' id) {st : ChargeRequestStatus}
    (hterminal : legalTransitions st = []) (hst : db.statusOf id = some st) :
    db.Unchanged db' id := by
  cases h with
  | nothing hsame =>
      exact ⟨by rw [hst, (hsame.terminal st hterminal).mpr hst], hsame.payments, hsame.successes,
        hsame.failures⟩
  | success payment delivery hmoves _ _ _ =>
      exact absurd (Option.some.inj (hmoves.was.symm.trans hst)) (hmoves.source_ne hterminal)
  | failure delivery source hmoves _ _ _ =>
      exact absurd (Option.some.inj (hmoves.was.symm.trans hst)) (hmoves.source_ne hterminal)

end

end Db

/-! ## Runs -/

section

variable {T : Type} {host : Host T} {reply : Reply} {s s' : Shared T} {p p' : Phase} {e : Effect}

/-- Requests are stored under their ids, and the row in a worker's hands is the request's. -/
structure Identified (s : Shared T) (phases : List Phase) : Prop where
  keyed : Keyed s.db
  held : ∀ p ∈ phases, ∀ {id : Uuid} {row : ChargeRequest}, p.row? = some (id, row) → row.id = id

/-- The row in a worker's hands was there before, or has just been read. -/
theorem Worked.row (h : Worked reply s p e s' p') {id : Uuid} {row : ChargeRequest}
    (hrow : p'.row? = some (id, row)) :
    p.row? = some (id, row) ∨ s.db.chargeRequests.lookup id = some row := by
  cases h with
  | find id row hstored =>
      cases hrow
      exact .inr hstored
  | idle => exact .inl hrow
  | expire => exact .inl hrow
  | setHash => exact .inl hrow
  | ended => cases hrow
  | retry => cases hrow
  | giveUp => cases hrow
  | succeed => cases hrow
  | _ => exact .inl hrow

theorem Identified.worked {phases : List Phase} {i : ℕ} (h : Identified s phases)
    (hp : phases[i]? = some p) (hw : Worked reply s p e s' p') :
    Identified s' (phases.set i p') where
  keyed := h.keyed.congr hw.passes.created
  held q hq {id row} hrow := by
    rcases List.mem_or_eq_of_mem_set hq with hq | rfl
    · exact h.held q hq hrow
    · rcases hw.row hrow with hrow | hrow
      · exact h.held p (List.mem_of_getElem? hp) hrow
      · have hcreated : s.db.created id = some row.asCreated := by rw [Db.created, hrow]; rfl
        have hid : row.asCreated.id = id := h.keyed.id_eq hcreated
        exact hid

theorem Identified.start {phases : List Phase} (h : Identified s phases) (id : Uuid) :
    Identified s (phases ++ [.fresh id]) where
  keyed := h.keyed
  held q hq {id row} hrow := by
    rcases List.mem_append.mp hq with hq | hq
    · exact h.held q hq hrow
    · obtain rfl := List.mem_singleton.mp hq
      cases hrow

/-- **One action**, of a worker or not, keeps what every recorded outcome keeps. -/
theorem identified_exec (deps : PipelineDeps) {id : Uuid} {P : Db → Prop}
    (hP : ∀ {db db' : Db}, db.RecordsOf db' id → P db → P db') (s : System T) (action : Action T)
    (h : Workers.Tracked Move (fun s phases => Identified s phases ∧ P s.db) s) :
    Workers.Tracked Move (fun s phases => Identified s phases ∧ P s.db)
      (exec host deps s action) := by
  refine tracked_exec h ?_ ?_ ?_
  · rintro phases i reply p e k s' p' - ⟨hidentified, hold⟩ hp - hw
    have hrecords := hw.records.of (hidentified.held p (List.mem_of_getElem? hp)) id
    exact ⟨hidentified.worked hp hw, hP hrecords hold⟩
  · rintro phases id ⟨hidentified, hold⟩
    exact ⟨hidentified.start id, hold⟩
  · rintro phases s' - ⟨hidentified, hold⟩ hh
    exact ⟨⟨hh.keyed hidentified.keyed, hidentified.held⟩,
      hP (.nothing (hh.quiet.unrecorded id)) hold⟩

theorem identified_initial (t₀ : U64) (tok₀ : T) : Identified (initial t₀ tok₀).shared [] where
  keyed :=
    { id_eq := fun hrow => by cases hrow
      chargeId_inj := fun hrow => by cases hrow }
  held p hp := by cases hp

theorem consistent_run (host : Host T) (deps : PipelineDeps) (t₀ : U64) (tok₀ : T)
    (actions : List (Action T)) (id : Uuid) :
    Workers.Tracked Move (fun s phases => Identified s phases ∧ s.db.Consistent id)
      (run host deps (initial t₀ tok₀) actions) :=
  Runs.run_invariant
    (identified_exec deps (P := fun db => db.Consistent id) fun hr hold => hold.recorded hr)
    ⟨[], ⟨rfl, fun hi => by cases hi⟩, identified_initial t₀ tok₀, ⟨rfl, rfl, rfl⟩⟩ actions

/-- **What has come to an end stays as it is.** -/
theorem unchanged_run (host : Host T) (deps : PipelineDeps) (t₀ : U64) (tok₀ : T)
    (actions later : List (Action T)) {id : Uuid} {st : ChargeRequestStatus}
    (hterminal : legalTransitions st = [])
    (hst : (run host deps (initial t₀ tok₀) actions).shared.db.statusOf id = some st) :
    (run host deps (initial t₀ tok₀) actions).shared.db.Unchanged
      (run host deps (initial t₀ tok₀) (actions ++ later)).shared.db id := by
  obtain ⟨phases, hin, hidentified, -⟩ := consistent_run host deps t₀ tok₀ actions id
  have happend : run host deps (initial t₀ tok₀) (actions ++ later)
      = run host deps (run host deps (initial t₀ tok₀) actions) later := Runs.run_append _ _ _
  rw [happend]
  generalize run host deps (initial t₀ tok₀) actions = s₀ at *
  -- the rows stay those of the state in which the request has come to its end
  have hstep : ∀ {db db' : Db}, db.RecordsOf db' id → s₀.shared.db.Unchanged db id →
      s₀.shared.db.Unchanged db' id :=
    fun hr hsame => hsame.trans (hr.unchanged hterminal (hsame.statusOf.trans hst))
  obtain ⟨_, -, -, hunchanged⟩ :=
    Runs.run_invariant (identified_exec deps (P := fun db => s₀.shared.db.Unchanged db id) hstep)
      ⟨phases, hin, hidentified, .refl _ id⟩ later
  exact hunchanged

theorem terminal_of_ended {st : ChargeRequestStatus}
    (h : st = .succeeded ∨ st = .permanentlyFailed) : legalTransitions st = [] := by
  rcases h with rfl | rfl <;> rfl

/-- **The database is consistent.** In every reachable state the payments of a request, the
announcements of its success and its being `succeeded` are equal in number, and so are the
announcements of its failure and its being `permanentlyFailed`; and once it is one of the two,
neither its status nor these rows change any more. -/
theorem database_consistency (host : Host T) (deps : PipelineDeps) (t₀ : U64) (tok₀ : T)
    (actions : List (Action T)) (id : Uuid) :
    (run host deps (initial t₀ tok₀) actions).shared.db.Consistent id ∧
      ∀ st, st = .succeeded ∨ st = .permanentlyFailed →
        (run host deps (initial t₀ tok₀) actions).shared.db.statusOf id = some st →
        ∀ later, (run host deps (initial t₀ tok₀) actions).shared.db.Unchanged
          (run host deps (initial t₀ tok₀) (actions ++ later)).shared.db id := by
  obtain ⟨phases, -, -, hconsistent⟩ := consistent_run host deps t₀ tok₀ actions id
  refine ⟨hconsistent, fun st hend hst later => ?_⟩
  exact unchanged_run host deps t₀ tok₀ actions later (terminal_of_ended hend) hst

set_option maxRecDepth 4000 in
theorem database_consistency_mock :
    (run Registry.mockHost mockDeps mockSystem promptInclusion).shared.db.Consistent 1 ∧
      (run Registry.mockHost mockDeps mockSystem promptInclusion).shared.db.Unchanged
        (run Registry.mockHost mockDeps mockSystem (promptInclusion ++ [.start 1])).shared.db 1 := by
  have h := database_consistency Registry.mockHost mockDeps 0 Registry.mockFunds promptInclusion 1
  exact ⟨h.1, h.2 .succeeded (.inl rfl) (by decide) [.start 1]⟩

end

end Paymap.Relayer
