import Paymap.Relayer.Tables

set_option autoImplicit false

/-! # What a transaction does

Of a request, a transition changes the status and some columns of bookkeeping; `created` is the
rest of the row, which nothing ever writes. `Moves` is what a committed transition has done, and
`transact_appends` says which payments and deliveries a committed transaction has added. The API
and the recovery of stale work have their lemmas here too.
-/

namespace Paymap.Relayer

/-! ## Requests -/

/-- The row as it was when the request was created. -/
def ChargeRequest.asCreated (row : ChargeRequest) : ChargeRequest :=
  { row with
    status := .scheduled
    attemptCount := 0
    failureCode := none
    transactionHash := none
    nextAttemptAt := none
    updatedAt := 0 }

namespace Db

def statusOf (db : Db) (id : Uuid) : Option ChargeRequestStatus :=
  (db.chargeRequests.lookup id).map ChargeRequest.status

def created (db : Db) (id : Uuid) : Option ChargeRequest :=
  (db.chargeRequests.lookup id).map ChargeRequest.asCreated

/-- The one request `id` goes from `source` to `target`. -/
structure Moves (db db' : Db) (id : Uuid) (source target : ChargeRequestStatus) : Prop where
  legal : target ∈ legalTransitions source
  was : db.statusOf id = some source
  becomes : db'.statusOf id = some target
  others : ∀ id', id' ≠ id → db'.statusOf id' = db.statusOf id'
  created : ∀ id', db'.created id' = db.created id'

/-- No request changes but in its bookkeeping. -/
structure SameRequests (db db' : Db) : Prop where
  statusOf : ∀ id, db'.statusOf id = db.statusOf id
  created : ∀ id, db'.created id = db.created id

/-- No edge of the table is a loop. -/
theorem Moves.source_ne_target {db db' : Db} {id : Uuid} {source target : ChargeRequestStatus}
    (h : db.Moves db' id source target) : source ≠ target := by
  rintro rfl
  have hlegal := h.legal
  cases source <;> simp [legalTransitions] at hlegal

/-- A status that no transition leaves is kept. -/
theorem Moves.of_terminal {db db' : Db} {id id' : Uuid} {source target st : ChargeRequestStatus}
    (h : db.Moves db' id source target) (hterminal : legalTransitions st = [])
    (hst : db.statusOf id' = some st) : db'.statusOf id' = some st := by
  by_cases hid : id' = id
  · subst hid
    obtain rfl : source = st := Option.some.inj (h.was.symm.trans hst)
    have hlegal := h.legal
    rw [hterminal] at hlegal
    cases hlegal
  · rw [h.others id' hid, hst]

theorem SameRequests.refl (db : Db) : SameRequests db db := ⟨fun _ => rfl, fun _ => rfl⟩

variable {db : Db} {id : Uuid} {row row' : ChargeRequest}

theorem statusOf_setChargeRequest (id' : Uuid) :
    (db.setChargeRequest id row').statusOf id'
      = if id' = id then some row'.status else db.statusOf id' := by
  unfold statusOf setChargeRequest
  rw [FinMap.lookup_insert]
  split <;> rfl

theorem created_setChargeRequest (hrow : db.chargeRequests.lookup id = some row)
    (hsame : row'.asCreated = row.asCreated) (id' : Uuid) :
    (db.setChargeRequest id row').created id' = db.created id' := by
  unfold Db.created setChargeRequest
  rw [FinMap.lookup_insert]
  split
  · rename_i heq
    rw [heq, hrow, Option.map_some, Option.map_some, hsame]
  · rfl

/-- Writing the row of `id` with another status. -/
theorem moves_setChargeRequest (hrow : db.chargeRequests.lookup id = some row)
    (hsame : row'.asCreated = row.asCreated) (hlegal : row'.status ∈ legalTransitions row.status) :
    db.Moves (db.setChargeRequest id row') id row.status row'.status where
  legal := hlegal
  was := by rw [statusOf, hrow]; rfl
  becomes := by rw [statusOf_setChargeRequest, if_pos rfl]
  others id' hne := by rw [statusOf_setChargeRequest, if_neg hne]
  created := created_setChargeRequest hrow hsame

end Db

section

variable {now : Time} {db db' : Db} {id : Uuid}

theorem transitionChargeRequest_ok {source target : ChargeRequestStatus} {data : RowData} :
    transitionChargeRequest now db id source target data = .ok db' ↔
      target ∈ legalTransitions source ∧
      ∃ row, db.chargeRequests.lookup id = some row ∧ row.status = source ∧
        db' = db.setChargeRequest id (row.transitioned target data now) := by
  unfold transitionChargeRequest
  by_cases hlegal : target ∈ legalTransitions source
  · rw [if_pos hlegal]
    cases hrow : db.chargeRequests.lookup id with
    | none => simp
    | some row =>
        by_cases hstatus : row.status = source
        · simp [hlegal, hstatus, eq_comm]
        · simp [hstatus]
  · simp [hlegal]

theorem moves_of_transition {source target : ChargeRequestStatus} {data : RowData}
    (h : transitionChargeRequest now db id source target data = .ok db') :
    db.Moves db' id source target := by
  obtain ⟨hlegal, row, hrow, rfl, rfl⟩ := transitionChargeRequest_ok.mp h
  exact Db.moves_setChargeRequest hrow rfl hlegal

theorem sameRequests_setTransactionHash {hash : TxHash}
    (h : setTransactionHash now db id hash = .ok db') :
    db.SameRequests db' ∧ db'.payments = db.payments ∧
      db'.webhookDeliveries = db.webhookDeliveries := by
  unfold setTransactionHash at h
  split at h
  · rename_i row hrow
    cases h
    refine ⟨⟨fun id' => ?_, Db.created_setChargeRequest hrow rfl⟩, rfl, rfl⟩
    rw [Db.statusOf_setChargeRequest]
    split
    · rename_i heq
      rw [heq, Db.statusOf, hrow]
      rfl
    · rfl
  · cases h

theorem transact_cons_ok {statement : Statement} {rest : List Statement} :
    transact now (statement :: rest) db = .ok db' ↔
      ∃ db₁, statement.exec now db = .ok db₁ ∧ transact now rest db₁ = .ok db' := Tx.bind_ok

theorem transact_nil_ok : transact now [] db = .ok db' ↔ db = db' := by simp [transact]

theorem transact_append_ok {l₁ l₂ : List Statement} :
    transact now (l₁ ++ l₂) db = .ok db' ↔
      ∃ db₁, transact now l₁ db = .ok db₁ ∧ transact now l₂ db₁ = .ok db' := by
  induction l₁ generalizing db with
  | nil => simp [transact_nil_ok]
  | cons statement l₁ ih =>
      rw [List.cons_append, transact_cons_ok]
      constructor
      · rintro ⟨db₁, hfirst, hrest⟩
        obtain ⟨db₂, hmid, hlast⟩ := ih.mp hrest
        exact ⟨db₂, transact_cons_ok.mpr ⟨db₁, hfirst, hmid⟩, hlast⟩
      · rintro ⟨db₂, hmid, hlast⟩
        obtain ⟨db₁, hfirst, hrest⟩ := transact_cons_ok.mp hmid
        exact ⟨db₁, hfirst, ih.mpr ⟨db₂, hrest, hlast⟩⟩

/-! ## What is added -/

def Statement.payment? : Statement → Option Payment
  | .createPayment payment => some payment
  | _ => none

def Statement.delivery? : Statement → Option WebhookDelivery
  | .createDelivery delivery => some delivery
  | _ => none

def Statement.writesRequest : Statement → Bool
  | .transition _ _ _ _ => true
  | .setTransactionHash _ _ => true
  | _ => false

theorem exec_appends {statement : Statement} (h : statement.exec now db = .ok db') :
    db'.payments = db.payments ++ statement.payment?.toList ∧
      db'.webhookDeliveries = db.webhookDeliveries ++ statement.delivery?.toList := by
  cases statement with
  | transition id source target data =>
      obtain ⟨-, row, -, -, rfl⟩ := transitionChargeRequest_ok.mp h
      exact ⟨(List.append_nil _).symm, (List.append_nil _).symm⟩
  | setTransactionHash id hash =>
      obtain ⟨-, hpayments, hdeliveries⟩ := sameRequests_setTransactionHash h
      exact ⟨by rw [hpayments]; exact (List.append_nil _).symm,
        by rw [hdeliveries]; exact (List.append_nil _).symm⟩
  | createPayment payment =>
      simp only [Statement.exec, createPayment] at h
      split at h
      · cases h
      · cases h
        exact ⟨rfl, (List.append_nil _).symm⟩
  | updateAuthorization id status consumedAt =>
      simp only [Statement.exec, updateAuthorization] at h
      split at h
      · cases h
        exact ⟨(List.append_nil _).symm, (List.append_nil _).symm⟩
      · cases h
  | createDelivery delivery =>
      cases h
      exact ⟨(List.append_nil _).symm, rfl⟩

theorem exec_requests {statement : Statement} (hno : statement.writesRequest = false)
    (h : statement.exec now db = .ok db') : db'.chargeRequests = db.chargeRequests := by
  cases statement with
  | createPayment payment =>
      simp only [Statement.exec, createPayment] at h
      split at h <;> cases h
      rfl
  | updateAuthorization id status consumedAt =>
      simp only [Statement.exec, updateAuthorization] at h
      split at h <;> cases h
      rfl
  | createDelivery delivery => cases h; rfl
  | _ => cases hno

/-- **A committed transaction has added the payments and deliveries of its statements.** -/
theorem transact_appends {statements : List Statement}
    (h : transact now statements db = .ok db') :
    db'.payments = db.payments ++ statements.filterMap Statement.payment? ∧
      db'.webhookDeliveries = db.webhookDeliveries ++ statements.filterMap Statement.delivery? := by
  induction statements generalizing db with
  | nil =>
      obtain rfl := transact_nil_ok.mp h
      simp
  | cons statement rest ih =>
      obtain ⟨db₁, hfirst, hrest⟩ := transact_cons_ok.mp h
      obtain ⟨hpayments, hdeliveries⟩ := exec_appends hfirst
      obtain ⟨hpayments', hdeliveries'⟩ := ih hrest
      rw [hpayments', hdeliveries', hpayments, hdeliveries]
      constructor
      · cases hp : statement.payment? <;> simp [hp]
      · cases hd : statement.delivery? <;> simp [hd]

theorem transact_no_payment {statements : List Statement}
    (h : transact now statements db = .ok db')
    (hnone : statements.filterMap Statement.payment? = []) : db'.payments = db.payments := by
  rw [(transact_appends h).1, hnone, List.append_nil]

theorem transact_no_delivery {statements : List Statement}
    (h : transact now statements db = .ok db')
    (hnone : statements.filterMap Statement.delivery? = []) :
    db'.webhookDeliveries = db.webhookDeliveries := by
  rw [(transact_appends h).2, hnone, List.append_nil]

theorem transact_requests {statements : List Statement}
    (hno : ∀ statement ∈ statements, statement.writesRequest = false)
    (h : transact now statements db = .ok db') : db'.chargeRequests = db.chargeRequests := by
  induction statements generalizing db with
  | nil =>
      obtain rfl := transact_nil_ok.mp h
      rfl
  | cons statement rest ih =>
      obtain ⟨db₁, hfirst, hrest⟩ := transact_cons_ok.mp h
      rw [ih (fun s hs => hno s (List.mem_cons_of_mem _ hs)) hrest,
        exec_requests (hno statement List.mem_cons_self) hfirst]

theorem sameRequests_of_eq (h : db'.chargeRequests = db.chargeRequests) : db.SameRequests db' :=
  ⟨fun id => by rw [Db.statusOf, h]; rfl, fun id => by rw [Db.created, h]; rfl⟩

/-- The one transition of a transaction, when what follows writes no request. -/
theorem moves_of_transact {source target : ChargeRequestStatus} {data : RowData}
    (before : List Statement) {rest : List Statement}
    (hbefore : ∀ statement ∈ before, statement.writesRequest = false)
    (hrest : ∀ statement ∈ rest, statement.writesRequest = false)
    (h : transact now (before ++ .transition id source target data :: rest) db = .ok db') :
    db.Moves db' id source target := by
  obtain ⟨db₁, hfirst, h⟩ := transact_append_ok.mp h
  obtain ⟨db₂, hmid, hlast⟩ := transact_cons_ok.mp h
  have hmoves : db₁.Moves db₂ id source target := moves_of_transition hmid
  have hsame₁ := sameRequests_of_eq (transact_requests hbefore hfirst)
  have hsame₂ := sameRequests_of_eq (transact_requests hrest hlast)
  exact
    { legal := hmoves.legal
      was := (hsame₁.statusOf id).symm.trans hmoves.was
      becomes := (hsame₂.statusOf id).trans hmoves.becomes
      others := fun id' hne =>
        ((hsame₂.statusOf id').trans (hmoves.others id' hne)).trans (hsame₁.statusOf id')
      created := fun id' =>
        ((hsame₂.created id').trans (hmoves.created id')).trans (hsame₁.created id') }

/-- A transaction that is one transition, with deliveries after it. -/
theorem moves_of_transact_cons {source target : ChargeRequestStatus} {data : RowData}
    {rest : List Statement} (hrest : ∀ statement ∈ rest, statement.writesRequest = false)
    (h : transact now (.transition id source target data :: rest) db = .ok db') :
    db.Moves db' id source target :=
  moves_of_transact [] (List.forall_mem_nil _) hrest h

theorem moves_of_transact_one {source target : ChargeRequestStatus} {data : RowData}
    (h : transact now [.transition id source target data] db = .ok db') :
    db.Moves db' id source target :=
  moves_of_transact_cons (List.forall_mem_nil _) h

theorem sameRequests_updateAuthorization {status : ChargeAuthorizationStatus}
    {consumedAt : Option Time}
    (h : transact now [.updateAuthorization id status consumedAt] db = .ok db') :
    db.SameRequests db' := by
  refine sameRequests_of_eq (transact_requests ?_ h)
  intro statement hmem
  obtain rfl := List.mem_singleton.mp hmem
  rfl

/-! ## The other writers -/

theorem completeChargeAuthorization_ok {authorizationId : Uuid} {ciphertext : ℕ}
    (h : completeChargeAuthorization now db authorizationId id ciphertext = .ok db') :
    ∃ authorization, db.chargeAuthorizations.lookup authorizationId = some authorization ∧
      db.chargeRequests.lookup id = none ∧
      (∀ id' row, db.chargeRequests.lookup id' = some row →
        row.chargeId ≠ authorization.chargeId) ∧
      db'.chargeRequests = db.chargeRequests.insert id (newChargeRequest now id authorization) ∧
      db'.payments = db.payments ∧ db'.webhookDeliveries = db.webhookDeliveries := by
  unfold completeChargeAuthorization at h
  split at h
  · cases h
  · rename_i authorization hstored
    obtain ⟨_, -, h⟩ := Tx.bind_ok.mp h
    obtain ⟨_, hfresh, h⟩ := Tx.bind_ok.mp h
    cases h
    rw [Tx.rejectIf_ok, not_or, List.any_eq_true] at hfresh
    refine ⟨authorization, hstored, by simpa using hfresh.1, ?_, rfl, rfl, rfl⟩
    intro id' row hrow hsame
    exact hfresh.2 ⟨row, FinMap.mem_values.mpr ⟨id', hrow⟩, by simp [hsame]⟩

/-- The status column after an authorization was completed: one row more. -/
theorem statusOf_complete {authorizationId : Uuid} {ciphertext : ℕ}
    (h : completeChargeAuthorization now db authorizationId id ciphertext = .ok db') :
    db.statusOf id = none ∧
      ∀ id', db'.statusOf id' = if id' = id then some .scheduled else db.statusOf id' := by
  obtain ⟨authorization, -, hfresh, -, hrequests, -, -⟩ := completeChargeAuthorization_ok h
  refine ⟨by rw [Db.statusOf, hfresh]; rfl, fun id' => ?_⟩
  rw [Db.statusOf, hrequests, FinMap.lookup_insert]
  split <;> rfl

/-- Recovery only ever makes work that was not submitted retryable. -/
theorem statusOf_recover (now : Time) (db : Db) (id : Uuid) :
    (recoverStalePreSubmissionCharges now db).statusOf id = db.statusOf id ∨
      ((db.statusOf id = some .processing ∨ db.statusOf id = some .simulated) ∧
        (recoverStalePreSubmissionCharges now db).statusOf id = some .retryableFailed) := by
  unfold recoverStalePreSubmissionCharges Db.statusOf
  rw [FinMap.lookup_mapValues]
  cases db.chargeRequests.lookup id with
  | none => exact .inl rfl
  | some row =>
      simp only [Option.map_some, Option.some.injEq, ChargeRequest.recovered]
      split
      · rename_i h
        exact .inr ⟨h.1, rfl⟩
      · exact .inl rfl

theorem created_recover (now : Time) (db : Db) (id : Uuid) :
    (recoverStalePreSubmissionCharges now db).created id = db.created id := by
  unfold recoverStalePreSubmissionCharges Db.created
  rw [FinMap.lookup_mapValues]
  cases db.chargeRequests.lookup id with
  | none => rfl
  | some row =>
      simp only [Option.map_some, Option.some.injEq, ChargeRequest.recovered]
      split <;> rfl

end

end Paymap.Relayer
