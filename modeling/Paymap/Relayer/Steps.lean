import Paymap.Relayer.Protocol

set_option autoImplicit false

/-! # What a step does

`Worked` is everything a step of a worker can do to the tables and the network, with the phase the
worker is in before and after. It combines the moves of the automaton with how their effects are
performed, and is proved once (`worked_of_move`); every invariant of the relayer is a case analysis
of it. `Happens` is the same for what no worker does, and `tracked_exec` the step of an invariant
over any action.
-/

namespace Paymap.Relayer

open Registry (Host Mandate)

section

variable {T : Type} {host : Host T}

/-- The shared state after a committed transaction. -/
def Shared.commit (s : Shared T) (db : Db) : Shared T := { s with db := db }

/-- The shared state after a broadcast. -/
def Shared.broadcast (s : Shared T) (args : ChargeArgs) : Shared T :=
  { s with network := s.network.broadcast args }

inductive Worked (reply : Reply) (s : Shared T) :
    Phase → Effect → Shared T → Phase → Prop where
  /-- A read, or a write that failed without ending the job. -/
  | idle (p : Phase) (e : Effect) : Worked reply s p e s p
  | ended (p : Phase) (e : Effect) : Worked reply s p e s .over
  | find (id : Uuid) (row : ChargeRequest) (stored : s.db.chargeRequests.lookup id = some row) :
      Worked reply s (.fresh id) (.findChargeRequest id) s (.found id row)
  | claim (id : Uuid) (row : ChargeRequest) (db : Db)
      (commits : transact s.clock [claim id row] s.db = .ok db) :
      Worked reply s (.found id row) (.transact [claim id row]) (s.commit db) (.working id row none)
  | mandateRead (id : Uuid) (row : ChargeRequest) (mandate : Mandate)
      (answer : readMandate s.network.ledger row.mandateId = .ok mandate) :
      Worked reply s (.working id row none) (.getMandate row.mandateId) s
        (.working id row (some mandate))
  | expire (id : Uuid) (row : ChargeRequest) (mandate : Option Mandate) (authorizationId : Uuid)
      (db : Db)
      (commits : transact s.clock [.updateAuthorization authorizationId .expired none] s.db
        = .ok db) :
      Worked reply s (.working id row mandate)
        (.transact [.updateAuthorization authorizationId .expired none]) (s.commit db)
        (.working id row mandate)
  | simulate (id : Uuid) (row : ChargeRequest) (mandate : Mandate) (db : Db)
      (commits : transact s.clock [.transition id .processing .simulated {}] s.db = .ok db) :
      Worked reply s (.working id row (some mandate))
        (.transact [.transition id .processing .simulated {}]) (s.commit db)
        (.simulated id row mandate)
  | submit (id : Uuid) (row : ChargeRequest) (mandate : Mandate) (db : Db)
      (commits : transact s.clock [.transition id .simulated .submitted {}] s.db = .ok db) :
      Worked reply s (.simulated id row mandate)
        (.transact [.transition id .simulated .submitted {}]) (s.commit db)
        (.submitting id row mandate)
  | unsent (id : Uuid) (row : ChargeRequest) (mandate : Mandate) (entry : Option ℕ)
      (reason : InfraTransientReason) :
      Worked reply s (.submitting id row mandate) (.sendTransaction (chargeArgs row entry)) s
        (.answered id row mandate (.infraError (classifyInfraFailure reason)))
  /-- The transaction is on its way, but the worker is told that it failed. -/
  | unanswered (id : Uuid) (row : ChargeRequest) (mandate : Mandate) (entry : Option ℕ)
      (reason : InfraTransientReason) :
      Worked reply s (.submitting id row mandate) (.sendTransaction (chargeArgs row entry))
        (s.broadcast (chargeArgs row entry))
        (.answered id row mandate (.infraError (classifyInfraFailure reason)))
  | send (id : Uuid) (row : ChargeRequest) (mandate : Mandate) (entry : Option ℕ) :
      Worked reply s (.submitting id row mandate) (.sendTransaction (chargeArgs row entry))
        (s.broadcast (chargeArgs row entry))
        (.waiting id row mandate s.network.transactions.length)
  | poll (id : Uuid) (row : ChargeRequest) (mandate : Mandate) (hash : TxHash) :
      Worked reply s (.waiting id row mandate hash) (.pollTransaction hash) s
        (.answered id row mandate (pollResult hash (s.network.poll hash)))
  | pollFailed (id : Uuid) (row : ChargeRequest) (mandate : Mandate) (hash : TxHash)
      (failed : ∀ authorized, reply ≠ .served authorized) :
      Worked reply s (.waiting id row mandate hash) (.pollTransaction hash) s
        (.answered id row mandate (pollResult hash .threw))
  | setHash (id : Uuid) (row : ChargeRequest) (mandate : Mandate) (error : MandateErrorInfo)
      (hash : TxHash) (db : Db)
      (commits : transact s.clock [.setTransactionHash id hash] s.db = .ok db) :
      Worked reply s (.answered id row mandate (.contractError error (some hash)))
        (.transact [.setTransactionHash id hash]) (s.commit db)
        (.answered id row mandate (.contractError error (some hash)))
  | retry (p : Phase) (id : Uuid) (row : ChargeRequest) (source : ChargeRequestStatus)
      (classified : ClassifiedFailure) (now nextAttemptAt : Time) (db : Db)
      (fails : FailsFrom p id row source)
      (due : retryAt (row.attemptCount + 1) classified now = some nextAttemptAt)
      (commits : transact s.clock (scheduleRetry id source classified.reason nextAttemptAt) s.db
        = .ok db) :
      Worked reply s p (.transact (scheduleRetry id source classified.reason nextAttemptAt))
        (s.commit db) .over
  | giveUp (p : Phase) (id : Uuid) (row : ChargeRequest) (source : ChargeRequestStatus)
      (classified : ClassifiedFailure) (now : Time) (db : Db)
      (fails : FailsFrom p id row source)
      (exhausted : retryAt (row.attemptCount + 1) classified now = none)
      (commits : transact s.clock (failPermanently id row source classified.reason) s.db = .ok db) :
      Worked reply s p (.transact (failPermanently id row source classified.reason)) (s.commit db)
        .over
  | succeed (id : Uuid) (row : ChargeRequest) (mandate : Mandate)
      (receipt : Registry.PaymentReceipt) (txHash : TxHash) (ledger : ℕ) (now : Time) (db : Db)
      (commits : transact s.clock (recordSuccess id row mandate receipt txHash ledger now) s.db
        = .ok db) :
      Worked reply s (.answered id row mandate (.success receipt txHash ledger))
        (.transact (recordSuccess id row mandate receipt txHash ledger now)) (s.commit db) .over

/-- A transaction commits, or it leaves everything as it was. -/
theorem perform_transact {reply : Reply} {statements : List Statement} {s s' : Shared T}
    {a : Except Thrown Unit} (h : perform host reply (.transact statements) s = (a, s')) :
    (a = .ok () ∧ ∃ db, transact s.clock statements s.db = .ok db ∧ s' = s.commit db) ∨
      (∃ e, a = .error e) ∧ s' = s := by
  simp only [perform] at h
  split at h
  · cases h
    exact .inr ⟨⟨_, rfl⟩, rfl⟩
  · rename_i db _ hdb
    cases h
    exact .inl ⟨rfl, db, hdb, rfl⟩
  · cases h
    exact .inr ⟨⟨_, rfl⟩, rfl⟩

theorem perform_read {reply : Reply} {e : Effect} {s s' : Shared T} {a : Answer e}
    (hreads : e.isRead = true) (h : perform host reply e s = (a, s')) : s' = s := by
  cases e with
  | findMerchant id => cases h; rfl
  | findCheckoutSession merchantId mandateId => cases h; rfl
  | findChargeAuthorization id => cases h; rfl
  | getLatestLedgerSequence =>
      simp only [perform] at h
      split at h <;> cases h <;> rfl
  | simulateCharge args =>
      simp only [perform] at h
      split at h <;> cases h <;> rfl
  | _ => cases hreads

theorem perform_getMandate {reply : Reply} {mandateId : Registry.BytesN} {s s' : Shared T}
    {a : Except ReadFailure Mandate} (h : perform host reply (.getMandate mandateId) s = (a, s')) :
    s' = s ∧ (a = readMandate s.network.ledger mandateId ∨ a = .error .other) := by
  simp only [perform] at h
  split at h
  · cases h; exact ⟨rfl, .inl rfl⟩
  · cases h; exact ⟨rfl, .inr rfl⟩

/-- **Everything a worker's step can do.** -/
theorem worked_of_move {reply : Reply} {s : Shared T} {p p' : Phase} {e : Effect}
    (hmove : Move p e (perform host reply e s).1 p') :
    Worked reply s p e (perform host reply e s).2 p' := by
  generalize hperf : perform host reply e s = r at hmove ⊢
  obtain ⟨a, s'⟩ := r
  dsimp only at hmove ⊢
  cases hmove with
  | now t =>
      cases hperf
      exact .idle _ _
  | missing id =>
      obtain ⟨-, rfl⟩ := Prod.mk.inj hperf
      exact .ended _ _
  | find id row =>
      obtain ⟨hstored, rfl⟩ := Prod.mk.inj hperf
      exact .find id row hstored
  -- a write either commits, and the answer is `ok`, or leaves the state as it was
  | claimLost id row e =>
      rcases perform_transact hperf with ⟨ha, -⟩ | ⟨-, rfl⟩
      · cases ha
      · exact .ended _ _
  | claim id row =>
      rcases perform_transact hperf with ⟨-, db, hdb, rfl⟩ | ⟨⟨e, ha⟩, -⟩
      · exact .claim id row db hdb
      · cases ha
  | read id row mandate e a hreads =>
      obtain rfl := perform_read hreads hperf
      exact .idle _ _
  | mandateUnread id row f =>
      obtain ⟨rfl, -⟩ := perform_getMandate hperf
      exact .idle _ _
  | mandateRead id row mandate =>
      obtain ⟨rfl, ha | ha⟩ := perform_getMandate hperf
      · exact .mandateRead id row mandate ha.symm
      · cases ha
  | expire id row mandate authorizationId a =>
      rcases perform_transact hperf with ⟨-, db, hdb, rfl⟩ | ⟨-, rfl⟩
      · exact .expire id row mandate authorizationId db hdb
      · exact .idle _ _
  | simulateLost id row mandate e =>
      rcases perform_transact hperf with ⟨ha, -⟩ | ⟨-, rfl⟩
      · cases ha
      · exact .ended _ _
  | simulate id row mandate =>
      rcases perform_transact hperf with ⟨-, db, hdb, rfl⟩ | ⟨⟨e, ha⟩, -⟩
      · exact .simulate id row mandate db hdb
      · cases ha
  | submitLost id row mandate e =>
      rcases perform_transact hperf with ⟨ha, -⟩ | ⟨-, rfl⟩
      · cases ha
      · exact .ended _ _
  | submit id row mandate =>
      rcases perform_transact hperf with ⟨-, db, hdb, rfl⟩ | ⟨⟨e, ha⟩, -⟩
      · exact .submit id row mandate db hdb
      · cases ha
  -- what the worker is told does not say whether the transaction has reached the network
  | sendFailed id row mandate entry reason a hunsent =>
      cases reply with
      | served authorized =>
          obtain ⟨ha, -⟩ := Prod.mk.inj hperf
          exact absurd ha.symm (hunsent _)
      | refused =>
          obtain ⟨-, rfl⟩ := Prod.mk.inj hperf
          exact .unsent id row mandate entry reason
      | lost =>
          obtain ⟨-, rfl⟩ := Prod.mk.inj hperf
          exact .unsent id row mandate entry reason
      | unanswered =>
          obtain ⟨-, rfl⟩ := Prod.mk.inj hperf
          exact .unanswered id row mandate entry reason
  | send id row mandate entry hash =>
      cases reply with
      | served authorized =>
          obtain ⟨ha, rfl⟩ := Prod.mk.inj hperf
          cases ha
          exact .send id row mandate entry
      | refused => cases (Prod.mk.inj hperf).1
      | lost => cases (Prod.mk.inj hperf).1
      | unanswered => cases (Prod.mk.inj hperf).1
  | poll id row mandate hash a =>
      by_cases hserved : ∃ authorized, reply = .served authorized
      · obtain ⟨authorized, rfl⟩ := hserved
        obtain ⟨rfl, rfl⟩ := Prod.mk.inj hperf
        exact .poll id row mandate hash
      · have hfailed : perform host reply (.pollTransaction hash) s = (.threw, s) := by
          cases reply with
          | served authorized => exact absurd ⟨authorized, rfl⟩ hserved
          | _ => rfl
        obtain ⟨rfl, rfl⟩ := Prod.mk.inj (hperf.symm.trans hfailed)
        exact .pollFailed id row mandate hash fun authorized h => hserved ⟨authorized, h⟩
  | setHash id row mandate error hash a =>
      rcases perform_transact hperf with ⟨-, db, hdb, rfl⟩ | ⟨-, rfl⟩
      · exact .setHash id row mandate error hash db hdb
      · exact .idle _ _
  | retry _ id row source classified now nextAttemptAt a hfails hdue =>
      rcases perform_transact hperf with ⟨-, db, hdb, rfl⟩ | ⟨-, rfl⟩
      · exact .retry p id row source classified now nextAttemptAt db hfails hdue hdb
      · exact .ended _ _
  | giveUp _ id row source classified now a hfails hexhausted =>
      rcases perform_transact hperf with ⟨-, db, hdb, rfl⟩ | ⟨-, rfl⟩
      · exact .giveUp p id row source classified now db hfails hexhausted hdb
      · exact .ended _ _
  | succeed id row mandate receipt txHash ledger now a =>
      rcases perform_transact hperf with ⟨-, db, hdb, rfl⟩ | ⟨-, rfl⟩
      · exact .succeed id row mandate receipt txHash ledger now db hdb
      · exact .ended _ _

/-! ## What happens outside the workers -/

/-- What an action that is not a worker's does. -/
inductive Happens (host : Host T) (s : Shared T) : Action T → Shared T → Prop where
  /-- It touches neither the requests, nor what was written for them, nor the ledger. -/
  | apart (action : Action T) (s' : Shared T)
      (requests : s'.db.chargeRequests = s.db.chargeRequests)
      (payments : s'.db.payments = s.db.payments)
      (deliveries : s'.db.webhookDeliveries = s.db.webhookDeliveries)
      (ledger : s'.network.ledger = s.network.ledger)
      (transactions : s'.network.transactions = s.network.transactions) :
      Happens host s action s'
  | recover :
      Happens host s .recoverStale (s.commit (recoverStalePreSubmissionCharges s.clock s.db))
  | execute (hash : TxHash) (authorized : List Registry.Address) :
      Happens host s (.execute hash authorized)
        { s with network := s.network.execute host hash authorized }
  | chain (step : Registry.Step T) :
      Happens host s (.chain step) { s with network := s.network.other host step }
  | complete (authorizationId id : Uuid) (ciphertext : ℕ) (db : Db)
      (commits : completeChargeAuthorization s.clock s.db authorizationId id ciphertext = .ok db) :
      Happens host s (.completeAuthorization authorizationId id ciphertext) (s.commit db)

theorem happens_outside (host : Host T) (action : Action T) (s : Shared T) :
    Happens host s action (outsideEffect host action s) := by
  cases action with
  | recoverStale => exact .recover
  | execute hash authorized => exact .execute hash authorized
  | chain step => exact .chain step
  | completeAuthorization authorizationId id ciphertext =>
      simp only [outsideEffect, Shared.write]
      split
      · rename_i db hdb
        exact .complete authorizationId id ciphertext db hdb
      · exact .apart _ _ rfl rfl rfl rfl rfl
  | createAuthorization authorization =>
      simp only [outsideEffect, Shared.write]
      split
      · -- a new authorization is in no request yet
        rename_i db hdb
        obtain ⟨_, -, hdb⟩ := Tx.bind_ok.mp hdb
        cases hdb
        exact .apart _ _ rfl rfl rfl rfl rfl
      · exact .apart _ _ rfl rfl rfl rfl rfl
  | _ => exact .apart _ _ rfl rfl rfl rfl rfl

/-- **What one action preserves**: a worker's step, a start, or something outside the workers. -/
theorem tracked_exec {deps : PipelineDeps} {Inv : Shared T → List Phase → Prop} {s : System T}
    {action : Action T} (h : Workers.Tracked Move Inv s)
    (hwork : ∀ phases i reply p e k s' p', action = .work i reply → Inv s.shared phases →
      phases[i]? = some p → s.running[i]? = some (.call e k) → Worked reply s.shared p e s' p' →
      Inv s' (phases.set i p'))
    (hstart : ∀ phases id, Inv s.shared phases → Inv s.shared (phases ++ [.fresh id]))
    (houtside : ∀ phases s', Workers.InPhase Move phases s.running → Inv s.shared phases →
      Happens host s.shared action s' → Inv s' phases) :
    Workers.Tracked Move Inv (exec host deps s action) := by
  cases action with
  | start id => exact h.start (processChargeRequest_obeys deps id) fun phases => hstart phases id
  | work i reply =>
      refine h.work fun phases p e k p' hinv hp hk hmove => ?_
      exact hwork phases i reply p e k _ p' rfl hinv hp hk (worked_of_move hmove)
  | _ =>
      exact h.outside fun phases hin hinv => houtside phases _ hin hinv (happens_outside host _ _)

end

end Paymap.Relayer
