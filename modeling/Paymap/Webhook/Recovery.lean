import Paymap.Webhook.Queueing

set_option autoImplicit false

/-! # Rows that nobody will pick up

A row is moved to `delivering` before the endpoint is looked up, the secret decrypted and the request
sent, and the scheduler looks for rows that are `pending` or `retryScheduled` only. So a worker that
is gone between its claim and the transition that ends the attempt, or that throws there, leaves the
row behind for good. Along runs in which this does not happen every row in `delivering` has a worker
that is on its way to that transition, and no row is left behind.
-/

namespace Paymap.Webhook

open Relayer (Uuid Time)

/-- No worker is running: each has ended its job, or is gone. -/
def Idle (s : System) : Prop := ∀ w ∈ s.running, w.isCall = false

/-- When no worker is running, every row that has not come to its end will be picked up, now or
later. -/
def NoneStranded (s : System) : Prop :=
  Idle s → ∀ id row, s.shared.db.webhookDeliveries.lookup id = some row →
    row.status ≠ .delivered → row.status ≠ .deadLetter →
    ∃ t, s.shared.clock ≤ t ∧ row.isDue t = true

/-! ## Faultless steps -/

/-- Effects after a claim, up to and with the transition that ends the attempt. -/
def Effect.afterClaim : Effect → Bool
  | .findWebhookDelivery _ => false
  | .transition _ _ target _ => target ≠ .delivering
  | _ => true

/-- The secret, if there is one, is decrypted or found to be undecipherable. -/
def Decryptable (deps : WebhookDeliveryDeps) (merchant : Option Merchant) : Prop :=
  ∀ url stored, merchant.bind Merchant.endpoint? = some (url, stored) →
    deps.decryptWebhookSecret stored deps.webhookEncryptionKey ≠ .error .other

/-- An effect that does not make its worker throw between a claim and the end of the attempt. A transition
that the guard refuses may fail in any way. -/
def Unbroken (deps : WebhookDeliveryDeps) (s : Shared) (reply : Reply) : Effect → Prop
  | .transition id source target data =>
      ∀ db, transitionWebhookDelivery s.db id source target data = .ok db →
        if target = .delivering then reply ≠ .unanswered else reply ≠ .lost
  | .findMerchant id =>
      (∃ outcome, reply = .served outcome) ∧ Decryptable deps (s.db.merchants.lookup id)
  | .send _ => ∃ outcome, reply = .served outcome
  | _ => True

/-- No worker is gone, or throws, between its claim and the end of its attempt. -/
def Faultless (deps : WebhookDeliveryDeps) (s : System) : Action → Prop
  | .crash worker => ∀ e k, s.running[worker]? = some (.call e k) → e.afterClaim = false
  | .work worker reply =>
      ∀ e k, s.running[worker]? = some (.call e k) → Unbroken deps s.shared reply e
  | _ => True

/-! ## What the worker is bound to do -/

/-- The effects between a claim and the transition that ends the attempt. -/
def Effect.between : Effect → Prop
  | .now => True
  | .findMerchant _ => True
  | .send _ => True
  | _ => False

/-- An answer after which the worker goes on. -/
def GoesOn (deps : WebhookDeliveryDeps) : (e : Effect) → Answer e → Prop
  | .findMerchant _, .ok merchant => Decryptable deps merchant
  | .findMerchant _, .error _ => False
  | .send _, none => False
  | _, _ => True

/-- The transition that ends the attempt for row `id`. -/
def Effect.settles (id : Uuid) : Effect → Prop
  | .transition id' source _ _ => id' = id ∧ source = .delivering
  | _ => False

/-- The worker is on its way to the transition that ends its attempt for row `id`. -/
def Settling {α : Type} (deps : WebhookDeliveryDeps) (id : Uuid) (w : Worker α) : Prop :=
  w.ComesTo Effect.between (GoesOn deps) (Effect.settles id)

/-- A transition along a legal edge, and a retry has its time. -/
def Effect.WellFormed : Effect → Prop
  | .transition _ source target data =>
      target ∈ legalTransitions source ∧
        (target = .retryScheduled → ∃ t, data.nextAttemptAt = some (some t))
  | _ => True

/-- Row `id` has been claimed. -/
def Claims (id : Uuid) : (e : Effect) → Answer e → Prop
  | .transition id' _ target _, .ok () => id' = id ∧ target = .delivering
  | _, _ => False

/-- After every claim the worker is on its way to ending the attempt. -/
def Dutiful {α : Type} (deps : WebhookDeliveryDeps) (w : Worker α) : Prop :=
  w.Answers Effect.WellFormed Claims (Settling deps)

section

variable {deps : WebhookDeliveryDeps} {id : Uuid} {delivery : WebhookDelivery}

theorem settling_transition {α : Type} {target : WebhookDeliveryStatus} {data : RowData}
    {f : Unit → Worker α} : Settling deps id (transition id .delivering target data >>= f) :=
  .inl ⟨rfl, rfl⟩

theorem settling_settle (outcome : SendOutcome) : Settling deps id (settle id delivery outcome) := by
  unfold settle
  split
  · exact settling_transition
  · exact settling_transition
  · refine .inr ⟨trivial, fun now _ => ?_⟩
    show Settling deps id (retryOrDeadLetter id delivery _ now)
    unfold retryOrDeadLetter
    split
    · exact settling_transition
    · exact settling_transition

theorem settling_attempt : Settling deps id (attempt deps id delivery) := by
  refine .inr ⟨trivial, fun merchant hgood => ?_⟩
  cases merchant with
  | error e => cases hgood
  | ok merchant =>
      show Settling deps id (deliver deps id delivery merchant)
      unfold deliver
      split
      · exact settling_transition
      · rename_i url stored hendpoint
        have hdecrypts := hgood url stored hendpoint
        split
        · exact settling_transition
        · rename_i hother
          exact absurd hother hdecrypts
        · -- the clock is read and the request sent
          refine .inr ⟨trivial, fun now _ => .inr ⟨trivial, fun outcome hsent => ?_⟩⟩
          cases outcome with
          | none => cases hsent
          | some outcome => exact settling_settle outcome

/-- An effect that claims no row. -/
theorem dutiful_call {α : Type} {e : Effect} {f : Answer e → Worker α} (hformed : e.WellFormed)
    (hno : ∀ id a, ¬ Claims id e a) (hrest : ∀ a, Dutiful deps (f a)) :
    Dutiful deps (e.run >>= f) :=
  ⟨hformed, fun a => ⟨fun id hclaims => absurd hclaims (hno id a), hrest a⟩⟩

/-- The transition that ends an attempt. -/
theorem dutiful_transition {α : Type} {target : WebhookDeliveryStatus} {data : RowData}
    {f : Unit → Worker α} (hlegal : target ∈ legalTransitions .delivering)
    (hretry : target = .retryScheduled → ∃ t, data.nextAttemptAt = some (some t))
    (hrest : Dutiful deps (f ())) :
    Dutiful deps (transition id .delivering target data >>= f) := by
  have htarget : target ≠ .delivering := by
    rintro rfl
    simp [legalTransitions] at hlegal
  refine ⟨⟨hlegal, hretry⟩, fun a => ⟨fun id' hclaims => ?_, ?_⟩⟩
  · cases a with
    | ok u => exact absurd hclaims.2 htarget
    | error e => cases hclaims
  · cases a with
    | ok u => exact hrest
    | error e => trivial

theorem dutiful_deadLetter (reason : String) : Dutiful deps (deadLetter id reason) :=
  dutiful_transition (by simp [legalTransitions]) (fun h => by cases h) trivial

theorem dutiful_settle (outcome : SendOutcome) : Dutiful deps (settle id delivery outcome) := by
  unfold settle
  split
  · exact dutiful_transition (by simp [legalTransitions]) (fun h => by cases h) trivial
  · exact dutiful_deadLetter _
  · refine dutiful_call trivial (fun _ _ h => h) fun now => ?_
    show Dutiful deps (retryOrDeadLetter id delivery _ now)
    unfold retryOrDeadLetter
    split
    · exact dutiful_deadLetter _
    · rename_i retryAt _
      exact dutiful_transition (by simp [legalTransitions]) (fun _ => ⟨retryAt, rfl⟩) trivial

theorem dutiful_attempt : Dutiful deps (attempt deps id delivery) := by
  refine dutiful_call trivial (fun _ _ h => h) fun merchant => ?_
  cases merchant with
  | error e => trivial
  | ok merchant =>
      show Dutiful deps (deliver deps id delivery merchant)
      unfold deliver
      split
      · exact dutiful_deadLetter _
      · split
        · exact dutiful_deadLetter _
        · trivial
        · refine dutiful_call trivial (fun _ _ h => h) fun now => ?_
          refine dutiful_call trivial (fun _ _ h => h) fun outcome => ?_
          cases outcome with
          | none => trivial
          | some outcome => exact dutiful_settle outcome

theorem claimFrom_legal (delivery : WebhookDelivery) :
    WebhookDeliveryStatus.delivering ∈ legalTransitions (claimFrom delivery) := by
  unfold claimFrom
  split <;> simp [legalTransitions]

/-- **The worker is dutiful**: of its effects one claims a row, and then it is on its way. -/
theorem processWebhookDelivery_dutiful (deps : WebhookDeliveryDeps) (id : Uuid) :
    Dutiful deps (processWebhookDelivery deps id) := by
  refine dutiful_call trivial (fun _ _ h => h) fun found => ?_
  rcases found with e | (_ | delivery)
  · trivial
  · trivial
  · refine ⟨⟨claimFrom_legal delivery, fun h => by cases h⟩, fun a => ?_⟩
    cases a with
    | ok u =>
        refine ⟨fun id' hclaims => ?_, dutiful_attempt⟩
        obtain ⟨rfl, -⟩ := hclaims
        exact settling_attempt
    | error e =>
        refine ⟨fun id' hclaims => (by cases hclaims), ?_⟩
        cases e <;> trivial

/-! ## The invariant -/

/-- Every row in `delivering` has a worker that is on its way to ending the attempt. -/
structure Attended (deps : WebhookDeliveryDeps) (s : System) : Prop where
  dutiful : ∀ w ∈ s.running, Dutiful deps w
  settling : ∀ id row, s.shared.db.webhookDeliveries.lookup id = some row →
    row.status = .delivering → ∃ w ∈ s.running, Settling deps id w
  retries : ∀ id row, s.shared.db.webhookDeliveries.lookup id = some row →
    row.status = .retryScheduled → ∃ t, row.nextAttemptAt = some t

/-- An effect changes the rows only when it is a transition that commits. -/
theorem perform_rows (reply : Reply) (e : Effect) (s : Shared) :
    (perform reply e s).2.db = s.db ∨ ∃ id source target data db,
      e = .transition id source target data ∧ reply ≠ .lost ∧
      transitionWebhookDelivery s.db id source target data = .ok db ∧
      (perform reply e s).2.db = db := by
  cases e with
  | transition id source target data =>
      simp only [perform]
      split
      · exact .inl rfl
      · rename_i db hdb
        exact .inr ⟨id, source, target, data, db, rfl, by simp, hdb, rfl⟩
      · exact .inl rfl
      · rename_i db hdb
        exact .inr ⟨id, source, target, data, db, rfl, by simp, hdb, rfl⟩
      · exact .inl rfl
  | now => exact .inl rfl
  | _ => cases reply <;> exact .inl rfl

/-- A row after an effect is what it was before, or has just been taken on by the effect. -/
theorem lookup_perform {reply : Reply} {e : Effect} {s : Shared} {id : Uuid} {row : WebhookDelivery}
    (hrow : (perform reply e s).2.db.webhookDeliveries.lookup id = some row) :
    s.db.webhookDeliveries.lookup id = some row ∨ ∃ source target data row₀ db,
      e = .transition id source target data ∧ reply ≠ .lost ∧
      transitionWebhookDelivery s.db id source target data = .ok db ∧
      row = WebhookDelivery.transitioned row₀ target data := by
  rcases perform_rows reply e s with hsame | ⟨id', source, target, data, db, rfl, harrives, hcommits,
    hdb⟩
  · rw [hsame] at hrow
    exact .inl hrow
  · obtain ⟨-, row₀, -, -, rfl⟩ := transitionWebhookDelivery_ok.mp hcommits
    rw [hdb, lookup_setDelivery] at hrow
    split at hrow
    · rename_i heq
      subst heq
      exact .inr ⟨source, target, data, row₀, _, rfl, harrives, hcommits,
        (Option.some.inj hrow).symm⟩
    · exact .inl hrow

/-- A worker that is on its way goes on, or ends the attempt. -/
theorem Settling.perform {s : Shared} {reply : Reply} {e : Effect}
    {k : Answer e → Worker WebhookDeliveryOutcome} (h : Settling deps id (.call e k))
    (hunbroken : Unbroken deps s reply e) :
    e.settles id ∨ Settling deps id (k (perform reply e s).1) := by
  rcases h with hsettles | ⟨hbetween, hnext⟩
  · exact .inl hsettles
  · refine .inr (hnext _ ?_)
    cases e with
    | now => trivial
    | findMerchant merchantId =>
        obtain ⟨⟨outcome, rfl⟩, hdecrypts⟩ := hunbroken
        exact hdecrypts
    | send input =>
        obtain ⟨outcome, rfl⟩ := hunbroken
        trivial
    | _ => cases hbetween

/-- Ending the attempt for a row in `delivering` takes it out of that status. -/
theorem perform_settles {s : Shared} {reply : Reply} {e : Effect} {row : WebhookDelivery}
    (hformed : e.WellFormed) (hsettles : e.settles id) (hunbroken : Unbroken deps s reply e)
    (hrow : s.db.webhookDeliveries.lookup id = some row) (hstatus : row.status = .delivering) :
    ∃ row', (perform reply e s).2.db.webhookDeliveries.lookup id = some row' ∧
      row'.status ≠ .delivering := by
  cases e with
  | transition id' source target data =>
      obtain ⟨rfl, rfl⟩ := hsettles
      obtain ⟨hlegal, -⟩ := hformed
      have htarget : target ≠ .delivering := by
        rintro rfl
        simp [legalTransitions] at hlegal
      have hcommits : transitionWebhookDelivery s.db id' .delivering target data
          = .ok (s.db.setDelivery id' (row.transitioned target data)) :=
        transitionWebhookDelivery_ok.mpr ⟨hlegal, row, hrow, hstatus, rfl⟩
      have harrives := hunbroken _ hcommits
      rw [if_neg htarget] at harrives
      refine ⟨row.transitioned target data, ?_, htarget⟩
      cases reply with
      | lost => exact absurd rfl harrives
      | _ =>
          simp only [perform, hcommits]
          rw [lookup_setDelivery, if_pos rfl]
  | _ => cases hsettles

/-- A claim that commits is answered, and the worker is on its way. -/
theorem Dutiful.settling {s : Shared} {reply : Reply} {source : WebhookDeliveryStatus}
    {data : RowData} {k : Except Thrown Unit → Worker WebhookDeliveryOutcome} {db : Db}
    (h : Dutiful deps (.call (.transition id source .delivering data) k))
    (hunbroken : Unbroken deps s reply (.transition id source .delivering data))
    (hcommits : transitionWebhookDelivery s.db id source .delivering data = .ok db)
    (harrives : reply ≠ .lost) :
    Settling deps id (k (perform reply (.transition id source .delivering data) s).1) := by
  have hanswered := hunbroken db hcommits
  rw [if_pos rfl] at hanswered
  refine (h.2 _).1 id ?_
  cases reply with
  | served outcome =>
      simp only [perform, hcommits]
      exact ⟨rfl, rfl⟩
  | lost => exact absurd rfl harrives
  | unanswered => exact absurd rfl hanswered

/-! ## Every step -/

variable {s : System}

/-- The worker that is on its way is another one than worker `i`, or it is worker `i`. -/
theorem Attended.of_set (h : Attended deps s) {i : ℕ} {w' : Worker WebhookDeliveryOutcome}
    {row : WebhookDelivery} (hrow : s.shared.db.webhookDeliveries.lookup id = some row)
    (hstatus : row.status = .delivering)
    (hself : ∀ w, s.running[i]? = some w → Settling deps id w → Settling deps id w') :
    ∃ w ∈ s.running.set i w', Settling deps id w := by
  obtain ⟨w, hmem, hsettling⟩ := h.settling id row hrow hstatus
  obtain ⟨j, hj⟩ := List.mem_iff_getElem?.mp hmem
  by_cases hij : i = j
  · subst hij
    have hi := (List.getElem?_eq_some_iff.mp hj).1
    exact ⟨w', List.mem_iff_getElem?.mpr ⟨i, List.getElem?_set_self hi⟩, hself w hj hsettling⟩
  · exact ⟨w, List.mem_iff_getElem?.mpr ⟨j, by rw [List.getElem?_set_ne hij, hj]⟩, hsettling⟩

theorem attended_work (h : Attended deps s) {worker : ℕ} {reply : Reply}
    (hfaultless : Faultless deps s (.work worker reply)) :
    Attended deps (exec deps s (.work worker reply)) := by
  rcases Workers.work_cases (perform reply) worker s with hidle | ⟨e, k, hw, hstep⟩
  · rw [exec, hidle]
    exact h
  rw [exec, hstep]
  have hunbroken := hfaultless e k hw
  have hdutiful : Dutiful deps (.call e k) := h.dutiful _ (List.mem_of_getElem? hw)
  -- a row that is as it was keeps its worker
  have hkept : ∀ {id row}, s.shared.db.webhookDeliveries.lookup id = some row →
      (perform reply e s.shared).2.db.webhookDeliveries.lookup id = some row →
      row.status = .delivering →
      ∃ w ∈ s.running.set worker (k (perform reply e s.shared).1), Settling deps id w := by
    intro id row hbefore hafter hstatus
    refine h.of_set hbefore hstatus fun w hw' hsettling => ?_
    obtain rfl := Option.some.inj (hw.symm.trans hw')
    rcases hsettling.perform hunbroken with hsettles | hnext
    · obtain ⟨row', hrow', hne⟩ := perform_settles hdutiful.1 hsettles hunbroken hbefore hstatus
      obtain rfl := Option.some.inj (hafter.symm.trans hrow')
      exact absurd hstatus hne
    · exact hnext
  constructor
  · intro w hmem
    rcases List.mem_or_eq_of_mem_set hmem with hold | rfl
    · exact h.dutiful w hold
    · exact (hdutiful.2 _).2
  · intro id row hrow hstatus
    rcases lookup_perform hrow with hold | ⟨source, target, data, row₀, db, rfl, harrives, hcommits,
      rfl⟩
    · exact hkept hold hrow hstatus
    · -- the row has just been claimed
      obtain rfl : target = .delivering := hstatus
      refine ⟨_, List.mem_iff_getElem?.mpr ⟨worker, List.getElem?_set_self ?_⟩,
        hdutiful.settling hunbroken hcommits harrives⟩
      exact (List.getElem?_eq_some_iff.mp hw).1
  · intro id row hrow hstatus
    rcases lookup_perform hrow with hold | ⟨source, target, data, row₀, db, rfl, -, -, rfl⟩
    · exact h.retries id row hold hstatus
    · obtain ⟨t, ht⟩ := hdutiful.1.2 hstatus
      exact ⟨t, by rw [WebhookDelivery.transitioned, ht]; rfl⟩

theorem attended_crash (h : Attended deps s) {worker : ℕ}
    (hfaultless : Faultless deps s (.crash worker)) :
    Attended deps (exec deps s (.crash worker)) where
  dutiful w hmem := by
    rcases List.mem_or_eq_of_mem_set hmem with hold | rfl
    · exact h.dutiful w hold
    · trivial
  settling id row hrow hstatus := by
    refine h.of_set hrow hstatus fun w hw hsettling => ?_
    cases w with
    | call e k =>
        -- one that is on its way has claimed, and is not gone
        have hafter := hfaultless e k hw
        obtain ⟨hformed, -⟩ := h.dutiful _ (List.mem_of_getElem? hw)
        rcases hsettling with hsettles | ⟨hbetween, -⟩
        · cases e with
          | transition id' source target data =>
              obtain ⟨-, rfl⟩ := hsettles
              have htarget : target = .delivering := by simpa [Effect.afterClaim] using hafter
              subst htarget
              simp [Effect.WellFormed, legalTransitions] at hformed
          | _ => cases hsettles
        · cases e with
          | findWebhookDelivery id' => cases hbetween
          | transition id' source target data => cases hbetween
          | _ => cases hafter
    | _ => cases hsettling
  retries := h.retries

/-- Workers and rows as before, but for rows that wait for their first attempt. -/
theorem Attended.frame (h : Attended deps s) {s' : System} (hrunning : s'.running = s.running)
    (hrows : ∀ id row, s'.shared.db.webhookDeliveries.lookup id = some row →
      s.shared.db.webhookDeliveries.lookup id = some row ∨ row.status = .pending) :
    Attended deps s' where
  dutiful w hmem := h.dutiful w (hrunning ▸ hmem)
  settling id row hrow hstatus := by
    rw [hrunning]
    rcases hrows id row hrow with hold | hpending
    · exact h.settling id row hold hstatus
    · cases hpending.symm.trans hstatus
  retries id row hrow hstatus := by
    rcases hrows id row hrow with hold | hpending
    · exact h.retries id row hold hstatus
    · cases hpending.symm.trans hstatus

theorem lookup_createDelivery {now : Time} {db : Db} {id id' merchantId : Uuid}
    {eventId eventType payload : String} {row : WebhookDelivery}
    (h : (createDelivery now db id merchantId eventId eventType
      payload).webhookDeliveries.lookup id' = some row) :
    db.webhookDeliveries.lookup id' = some row ∨ row.status = .pending := by
  unfold createDelivery at h
  split at h
  · exact .inl h
  · rw [lookup_setDelivery] at h
    split at h
    · cases h
      exact .inr rfl
    · exact .inl h

/-- **One action**, made without a fault, leaves every claimed row attended. -/
theorem attended_exec (s : System) (action : Action) (hfaultless : Faultless deps s action)
    (h : Attended deps s) : Attended deps (exec deps s action) := by
  have hsame : ∀ {id : Uuid} {row : WebhookDelivery},
      s.shared.db.webhookDeliveries.lookup id = some row →
      s.shared.db.webhookDeliveries.lookup id = some row ∨ row.status = .pending := .inl
  cases action with
  | work worker reply => exact attended_work h hfaultless
  | crash worker => exact attended_crash h hfaultless
  | create id merchantId eventId eventType payload =>
      exact h.frame rfl fun id' row hrow => lookup_createDelivery hrow
  | take id =>
      simp only [exec]
      split
      · constructor
        · intro w hmem
          rcases List.mem_append.mp hmem with hold | hnew
          · exact h.dutiful w hold
          · obtain rfl := List.mem_singleton.mp hnew
            exact processWebhookDelivery_dutiful deps id
        · intro id' row hrow hstatus
          obtain ⟨w, hmem, hsettling⟩ := h.settling id' row hrow hstatus
          exact ⟨w, List.mem_append_left _ hmem, hsettling⟩
        · exact h.retries
      · exact h
  | report worker =>
      refine h.frame rfl fun id row hrow => .inl ?_
      simp only [exec, outsideEffect] at hrow
      split at hrow <;> exact hrow
  | _ => exact h.frame rfl fun id row => hsame

theorem attended_initial (deps : WebhookDeliveryDeps) : Attended deps initial where
  dutiful w hmem := by cases hmem
  settling id row hrow := by cases hrow
  retries id row hrow := by cases hrow

theorem noneStranded_of_attended (h : Attended deps s) : NoneStranded s := by
  intro hidle id row hrow hdelivered hdead
  cases hstatus : row.status with
  | pending => exact ⟨s.shared.clock, le_rfl, by simp [WebhookDelivery.isDue, hstatus]⟩
  | delivering =>
      -- the worker that is on its way is running
      obtain ⟨w, hmem, hsettling⟩ := h.settling id row hrow hstatus
      have hcall := hsettling.isCall
      rw [hidle w hmem] at hcall
      cases hcall
  | delivered => exact absurd hstatus hdelivered
  | retryScheduled =>
      obtain ⟨t, ht⟩ := h.retries id row hrow hstatus
      refine ⟨max s.shared.clock t, le_max_left _ _, ?_⟩
      simp [WebhookDelivery.isDue, hstatus, ht]
  | deadLetter => exact absurd hstatus hdead

end

/-! ## Runs -/

/-- **No row is left behind.** In every run in which no worker is gone, or throws, between its claim
and the end of its attempt: when no worker is running, every row that has not come to its end will
be picked up. -/
theorem none_stranded (deps : WebhookDeliveryDeps) (actions : List Action)
    (hfaultless : ∀ q ∈ Runs.trace (exec deps) initial actions, Faultless deps q.1 q.2) :
    NoneStranded (run deps initial actions) :=
  noneStranded_of_attended
    (Runs.run_invariant_along (C := Faultless deps) (fun s action hf h => attended_exec s action hf h)
      (attended_initial deps) hfaultless)

/-! ## A run that strands a row, and one that does not -/

section

/-- The worker has claimed the row when its process is gone. -/
def mockCrash : List Action :=
  mockStart ++ List.replicate 2 (.work 0 (.served (.http 200))) ++ [.crash 0]

set_option maxRecDepth 4000 in
/-- **A row is left behind.** -/
theorem crash_strands : ¬ NoneStranded (run mockDeps initial mockCrash) := by
  intro h
  have hidle : Idle (run mockDeps initial mockCrash) := by
    unfold Idle
    decide
  have hrow : (run mockDeps initial mockCrash).shared.db.webhookDeliveries.lookup 1
      = some ⟨1, "event", "webhook.test", "null", 1, none, .delivering, 0⟩ := by decide
  obtain ⟨t, -, hdue⟩ := h hidle 1 _ hrow (by simp) (by simp)
  simp [WebhookDelivery.isDue] at hdue

/-- No process is gone, and everything a worker asks for is answered. -/
def Action.isServed : Action → Bool
  | .crash _ => false
  | .work _ (.served _) => true
  | .work _ _ => false
  | _ => true

theorem faultless_of_served (s : System) {action : Action} (h : action.isServed = true) :
    Faultless mockDeps s action := by
  cases action with
  | crash worker => cases h
  | work worker reply =>
      intro e k _
      cases reply with
      | served outcome =>
          cases e with
          | transition id source target data =>
              intro db _
              split <;> simp
          | findMerchant id => exact ⟨⟨outcome, rfl⟩, fun url stored _ h => by cases h⟩
          | send input => exact ⟨outcome, rfl⟩
          | _ => trivial
      | _ => cases h
  | _ => trivial

set_option maxRecDepth 4000 in
theorem none_stranded_mock :
    NoneStranded (run mockDeps initial mockRetry) ∧
      (run mockDeps initial mockRetry).shared.db.webhookDeliveries.lookup 1
        = some ⟨1, "event", "webhook.test", "null", 1, some 60000, .retryScheduled, 0⟩ := by
  refine ⟨none_stranded mockDeps mockRetry fun q hq => ?_, by decide⟩
  have hserved : ∀ action ∈ mockRetry, action.isServed = true := by decide
  exact faultless_of_served q.1 (hserved q.2 (Runs.mem_of_mem_trace hq))

end

end Paymap.Webhook
