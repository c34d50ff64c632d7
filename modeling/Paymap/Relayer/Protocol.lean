import Paymap.Relayer.System

set_option autoImplicit false

/-! # What a worker does, move by move

The text of the pipeline, read as an automaton. A phase says how far a worker has come with which
request: nothing read, the row read, the request claimed, and so on up to the answer of `submit()`.
`Move` lists everything a worker may do in a phase. `processChargeRequest_follows` is the one place
where the program is unfolded; from there on a step of a worker is one of these moves, and an
invariant of the relayer is checked move by move.
-/

namespace Paymap.Relayer

open Registry (Mandate PaymentReceipt)

inductive Phase where
  | fresh (id : Uuid)
  /-- The row has been read and is about to be claimed. -/
  | found (id : Uuid) (row : ChargeRequest)
  /-- Claimed, and reading: the mandate first. -/
  | working (id : Uuid) (row : ChargeRequest) (mandate : Option Mandate)
  | simulated (id : Uuid) (row : ChargeRequest) (mandate : Mandate)
  /-- `submitted` is written, nothing is sent. -/
  | submitting (id : Uuid) (row : ChargeRequest) (mandate : Mandate)
  | waiting (id : Uuid) (row : ChargeRequest) (mandate : Mandate) (hash : TxHash)
  | answered (id : Uuid) (row : ChargeRequest) (mandate : Mandate) (result : ChargeSubmitResult)
  | over

def ChargeSubmitResult.isSuccess : ChargeSubmitResult → Bool
  | .success _ _ _ => true
  | .contractError _ _ => false
  | .infraError _ => false

/-- In this phase the attempt may fail, the request being in `source`. -/
inductive FailsFrom : Phase → Uuid → ChargeRequest → ChargeRequestStatus → Prop where
  | working (id : Uuid) (row : ChargeRequest) (mandate : Option Mandate) :
      FailsFrom (.working id row mandate) id row .processing
  | answered (id : Uuid) (row : ChargeRequest) (mandate : Mandate) (result : ChargeSubmitResult)
      (failure : result.isSuccess = false) :
      FailsFrom (.answered id row mandate result) id row .submitted

/-- Effects that only read. -/
def Effect.isRead : Effect → Bool
  | .findMerchant _ => true
  | .findCheckoutSession _ _ => true
  | .findChargeAuthorization _ => true
  | .getLatestLedgerSequence => true
  | .simulateCharge _ => true
  | _ => false

inductive Move : Phase → (e : Effect) → Answer e → Phase → Prop where
  | now (p : Phase) (t : Time) : Move p .now t p
  | missing (id : Uuid) : Move (.fresh id) (.findChargeRequest id) none .over
  | find (id : Uuid) (row : ChargeRequest) :
      Move (.fresh id) (.findChargeRequest id) (some row) (.found id row)
  | claimLost (id : Uuid) (row : ChargeRequest) (e : Thrown) :
      Move (.found id row) (.transact [claim id row]) (.error e) .over
  | claim (id : Uuid) (row : ChargeRequest) :
      Move (.found id row) (.transact [claim id row]) (.ok ()) (.working id row none)
  | read (id : Uuid) (row : ChargeRequest) (mandate : Option Mandate) (e : Effect) (a : Answer e)
      (reads : e.isRead = true) : Move (.working id row mandate) e a (.working id row mandate)
  | mandateUnread (id : Uuid) (row : ChargeRequest) (f : ReadFailure) :
      Move (.working id row none) (.getMandate row.mandateId) (.error f) (.working id row none)
  | mandateRead (id : Uuid) (row : ChargeRequest) (mandate : Mandate) :
      Move (.working id row none) (.getMandate row.mandateId) (.ok mandate)
        (.working id row (some mandate))
  | expire (id : Uuid) (row : ChargeRequest) (mandate : Option Mandate) (authorizationId : Uuid)
      (a : Except Thrown Unit) :
      Move (.working id row mandate) (.transact [.updateAuthorization authorizationId .expired none])
        a (.working id row mandate)
  | simulateLost (id : Uuid) (row : ChargeRequest) (mandate : Mandate) (e : Thrown) :
      Move (.working id row (some mandate)) (.transact [.transition id .processing .simulated {}])
        (.error e) .over
  | simulate (id : Uuid) (row : ChargeRequest) (mandate : Mandate) :
      Move (.working id row (some mandate)) (.transact [.transition id .processing .simulated {}])
        (.ok ()) (.simulated id row mandate)
  | submitLost (id : Uuid) (row : ChargeRequest) (mandate : Mandate) (e : Thrown) :
      Move (.simulated id row mandate) (.transact [.transition id .simulated .submitted {}])
        (.error e) .over
  | submit (id : Uuid) (row : ChargeRequest) (mandate : Mandate) :
      Move (.simulated id row mandate) (.transact [.transition id .simulated .submitted {}])
        (.ok ()) (.submitting id row mandate)
  | sendFailed (id : Uuid) (row : ChargeRequest) (mandate : Mandate) (entry : Option ℕ)
      (reason : InfraTransientReason) (a : Sent) (unsent : ∀ hash, a ≠ .pending hash) :
      Move (.submitting id row mandate) (.sendTransaction (chargeArgs row entry)) a
        (.answered id row mandate (.infraError (classifyInfraFailure reason)))
  | send (id : Uuid) (row : ChargeRequest) (mandate : Mandate) (entry : Option ℕ)
      (hash : TxHash) :
      Move (.submitting id row mandate) (.sendTransaction (chargeArgs row entry)) (.pending hash)
        (.waiting id row mandate hash)
  | poll (id : Uuid) (row : ChargeRequest) (mandate : Mandate) (hash : TxHash) (a : Polled) :
      Move (.waiting id row mandate hash) (.pollTransaction hash) a
        (.answered id row mandate (pollResult hash a))
  | setHash (id : Uuid) (row : ChargeRequest) (mandate : Mandate) (error : MandateErrorInfo)
      (hash : TxHash) (a : Except Thrown Unit) :
      Move (.answered id row mandate (.contractError error (some hash)))
        (.transact [.setTransactionHash id hash]) a
        (.answered id row mandate (.contractError error (some hash)))
  | retry (p : Phase) (id : Uuid) (row : ChargeRequest) (source : ChargeRequestStatus)
      (classified : ClassifiedFailure) (now nextAttemptAt : Time) (a : Except Thrown Unit)
      (fails : FailsFrom p id row source)
      (due : retryAt (row.attemptCount + 1) classified now = some nextAttemptAt) :
      Move p (.transact (scheduleRetry id source classified.reason nextAttemptAt)) a .over
  | giveUp (p : Phase) (id : Uuid) (row : ChargeRequest) (source : ChargeRequestStatus)
      (classified : ClassifiedFailure) (now : Time) (a : Except Thrown Unit)
      (fails : FailsFrom p id row source)
      (exhausted : retryAt (row.attemptCount + 1) classified now = none) :
      Move p (.transact (failPermanently id row source classified.reason)) a .over
  | succeed (id : Uuid) (row : ChargeRequest) (mandate : Mandate) (receipt : PaymentReceipt)
      (txHash : TxHash) (ledger : ℕ) (now : Time) (a : Except Thrown Unit) :
      Move (.answered id row mandate (.success receipt txHash ledger))
        (.transact (recordSuccess id row mandate receipt txHash ledger now)) a .over

/-! ## The pipeline makes only these moves -/

section

variable {α β : Type} {p : Phase} {Q : α → Phase → Prop}

theorem follows_run {e : Effect} {f : Answer e → Pipeline α} :
    (e.run >>= f).Follows Move Q p ↔ ∀ a, ∃ p', Move p e a p' ∧ (f a).Follows Move Q p' :=
  Prog.follows_perform_bind

/-- After a transaction whose exceptions end the job. -/
theorem follows_commit {statements : List Statement} {f : Unit → Pipeline α}
    (h : ∀ a, ∃ p', Move p (.transact statements) a p' ∧
      (a = .ok () → (f ()).Follows Move Q p')) :
    (commit statements >>= f).Follows Move Q p := by
  rw [Prog.follows_bind, commit, follows_run]
  intro a
  obtain ⟨p', hmove, hrest⟩ := h a
  refine ⟨p', hmove, ?_⟩
  cases a with
  | error e => trivial
  | ok u => exact hrest rfl

end

/-- The program makes only moves of the automaton. -/
abbrev Obeys {α : Type} (x : Pipeline α) (p : Phase) : Prop := x.Follows Move (fun _ _ => True) p

section

variable {id : Uuid} {row : ChargeRequest} {p : Phase}

theorem obeys_fail {source : ChargeRequestStatus} (h : FailsFrom p id row source)
    (classified : ClassifiedFailure) : Obeys (fail id row source classified) p := by
  unfold fail Obeys
  rw [follows_run]
  intro now
  refine ⟨p, .now p now, ?_⟩
  split
  · rename_i nextAttemptAt hdue
    refine follows_commit fun a => ⟨.over, .retry p id row source classified now _ a h hdue, ?_⟩
    exact fun _ => trivial
  · rename_i hexhausted
    refine follows_commit fun a => ⟨.over, .giveUp p id row source classified now a h hexhausted, ?_⟩
    exact fun _ => trivial

theorem obeys_failContract {source : ChargeRequestStatus} (h : FailsFrom p id row source)
    (name : String) : Obeys (failContract id row source name) p := by
  unfold failContract Obeys
  split
  · exact obeys_fail h _
  · trivial

/-- The reads of `resolveChargeContext` leave the phase as it is. -/
theorem follows_resolveChargeContext {mandate : Option Mandate} (merchantId : Uuid)
    (mandateId : Registry.BytesN) :
    (resolveChargeContext merchantId mandateId).Follows Move
      (fun _ p' => p' = .working id row mandate) (.working id row mandate) := by
  unfold resolveChargeContext
  rw [follows_run]
  intro a
  refine ⟨_, .read id row mandate _ a rfl, ?_⟩
  cases a with
  | none => rfl
  | some walletAddress =>
      rw [follows_run]
      intro a
      refine ⟨_, .read id row mandate _ a rfl, ?_⟩
      cases a with
      | none => rfl
      | some assetAddress => rfl

theorem follows_checkExpiration (deps : PipelineDeps) {mandate : Option Mandate}
    (authorization : ChargeAuthorization) :
    (checkExpiration deps authorization).Follows Move
      (fun _ p' => p' = .working id row mandate) (.working id row mandate) := by
  unfold checkExpiration
  split
  · rw [follows_run]
    intro a
    refine ⟨_, .read id row mandate _ a rfl, ?_⟩
    cases a with
    | none => rfl
    | some latestLedger =>
        show Prog.Follows _ _ (if _ then _ else _) _
        split
        · exact follows_commit fun a =>
            ⟨_, .expire id row mandate authorization.id a, fun _ => rfl⟩
        · rfl
  · rfl

theorem follows_signedAuthorizationEntry (deps : PipelineDeps) {mandate : Option Mandate} :
    (signedAuthorizationEntry deps row).Follows Move
      (fun _ p' => p' = .working id row mandate) (.working id row mandate) := by
  unfold signedAuthorizationEntry
  -- without an authorization there is nothing to read
  cases row.authorizationId with
  | none => rfl
  | some authorizationId =>
      show Prog.Follows _ _ (Effect.run _ >>= _) _
      rw [follows_run]
      intro a
      refine ⟨_, .read id row mandate _ a rfl, ?_⟩
      cases a with
      | none => rfl
      | some authorization =>
          dsimp only
          split
          · split
            · -- the reads of the expiration check, then the cipher
              refine Prog.follows_bind.mpr ((follows_checkExpiration deps authorization).mono ?_)
              rintro (classified | u) p' rfl
              · rfl
              · dsimp only
                split <;> rfl
            · rfl
          · rfl

theorem obeys_recordResult (mandate : Mandate) (result : ChargeSubmitResult) :
    Obeys (recordResult id row mandate result) (.answered id row mandate result) := by
  unfold recordResult Obeys
  split
  · rename_i receipt txHash ledger
    rw [follows_run]
    intro now
    refine ⟨_, .now _ now, ?_⟩
    exact follows_commit fun a =>
      ⟨.over, .succeed id row mandate receipt txHash ledger now a, fun _ => trivial⟩
  · -- the hash is written first, and the phase stays
    rename_i error txHash
    refine follows_commit fun a => ⟨_, .setHash id row mandate error txHash a, fun _ => ?_⟩
    exact obeys_failContract (.answered id row mandate _ rfl) error.name
  · rename_i error
    exact obeys_failContract (.answered id row mandate _ rfl) error.name
  · rename_i failure
    exact obeys_fail (.answered id row mandate _ rfl) failure

theorem follows_submit (mandate : Mandate) (entry : Option ℕ) :
    (submit (chargeArgs row entry)).Follows Move
      (fun result p' => p' = .answered id row mandate result) (.submitting id row mandate) := by
  unfold submit
  rw [follows_run]
  intro sent
  cases sent with
  | sendFailed => exact ⟨_, .sendFailed id row mandate entry .sendFailed _ (by simp), rfl⟩
  | threw => exact ⟨_, .sendFailed id row mandate entry .rpcUnavailable _ (by simp), rfl⟩
  | pending hash =>
      refine ⟨_, .send id row mandate entry hash, ?_⟩
      show Prog.Follows _ _ (Effect.run _ >>= _) _
      rw [follows_run]
      exact fun polled => ⟨_, .poll id row mandate hash polled, rfl⟩

theorem follows_prepareCharge {mandate : Option Mandate} (args : ChargeArgs) :
    (prepareCharge args).Follows Move
      (fun _ p' => p' = .working id row mandate) (.working id row mandate) := by
  unfold prepareCharge
  rw [follows_run]
  intro a
  refine ⟨_, .read id row mandate _ a rfl, ?_⟩
  rcases a with _ | (name | receipt)
  · rfl
  · rfl
  · rfl

theorem obeys_chargeWith (mandate : Mandate) (context : ChargeContext) (entry : Option ℕ) :
    Obeys (chargeWith id row mandate context entry) (.working id row (some mandate)) := by
  have hfails : FailsFrom (.working id row (some mandate)) id row .processing := .working _ _ _
  unfold chargeWith Obeys
  refine Prog.follows_bind.mpr ((follows_prepareCharge _).mono ?_)
  rintro (_ | (error | receipt)) p' rfl
  · exact obeys_fail hfails _
  · exact obeys_failContract hfails _
  · show Prog.Follows _ _ (if _ then _ else _) _
    split
    · -- the two writes, each of which somebody else may have made impossible
      refine follows_commit fun a => ?_
      cases a with
      | error e => exact ⟨_, .simulateLost id row mandate e, nofun⟩
      | ok u =>
          refine ⟨_, .simulate id row mandate, fun _ => follows_commit fun a => ?_⟩
          cases a with
          | error e => exact ⟨_, .submitLost id row mandate e, nofun⟩
          | ok u =>
              refine ⟨_, .submit id row mandate, fun _ => ?_⟩
              refine Prog.follows_bind.mpr ((follows_submit mandate entry).mono ?_)
              rintro result p' rfl
              exact obeys_recordResult mandate result
    · exact obeys_fail hfails _

theorem obeys_attempt (deps : PipelineDeps) :
    Obeys (attempt deps id row) (.working id row none) := by
  unfold attempt Obeys
  rw [follows_run]
  intro a
  rcases a with (name | _) | mandate
  · exact ⟨_, .mandateUnread id row _, obeys_failContract (.working id row none) name⟩
  · exact ⟨_, .mandateUnread id row _, obeys_fail (.working id row none) _⟩
  · have hfails : FailsFrom (.working id row (some mandate)) id row .processing := .working _ _ _
    refine ⟨_, .mandateRead id row mandate, ?_⟩
    refine Prog.follows_bind.mpr ((follows_resolveChargeContext _ _).mono ?_)
    rintro (_ | context) p' rfl
    · exact obeys_fail hfails _
    · show Prog.Follows _ _ (if _ then _ else _) _
      split
      · refine Prog.follows_bind.mpr ((follows_signedAuthorizationEntry deps).mono ?_)
        rintro (classified | entry) p' rfl
        · exact obeys_fail hfails _
        · exact obeys_chargeWith mandate context entry
      · exact obeys_fail hfails _

end

/-- **The pipeline obeys the automaton**, from before it has read anything. -/
theorem processChargeRequest_obeys (deps : PipelineDeps) (id : Uuid) :
    Obeys (processChargeRequest deps id) (.fresh id) := by
  unfold processChargeRequest Obeys
  rw [follows_run]
  intro a
  cases a with
  | none => exact ⟨_, .missing id, trivial⟩
  | some row =>
      refine ⟨_, .find id row, ?_⟩
      show Prog.Follows _ _ (Effect.run _ >>= _) _
      rw [follows_run]
      intro a
      cases a with
      | ok u => exact ⟨_, .claim id row, obeys_attempt deps⟩
      | error e =>
          refine ⟨_, .claimLost id row e, ?_⟩
          cases e <;> trivial

end Paymap.Relayer
