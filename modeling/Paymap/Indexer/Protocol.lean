import Paymap.Indexer.System

set_option autoImplicit false

/-! # What a tick does, move by move

The text of a tick, and of the two requests that write the index, read as an automaton. While a page
is applied, the phase holds what it was asked for, the cursor row it leads to, and the events that
are still to come. A tick that finds a gap makes no further move.
-/

namespace Paymap.Indexer

open Registry (Address BytesN Mandate)
open Relayer (Uuid)

/-- A page that is being applied: the row it was asked from, the ledger where a first run has asked
from, and the row it leads to. -/
structure Task where
  stored : Option IndexerCursorState
  startLedger : ℕ
  next : IndexerCursorState

inductive Phase where
  | starting
  | asking (stored : Option IndexerCursorState) (startLedger : ℕ) (request : GetEventsRequest)
  | applying (task : Task) (todo : List MandateLifecycleEvent)
  /-- The owner of the first event is known. -/
  | writing (task : Task) (event : MandateLifecycleEvent) (merchantId : Uuid)
      (todo : List MandateLifecycleEvent)
  | requesting (merchantId : Uuid) (mandateId : BytesN)
  | reading (merchantId : Uuid) (walletAddress : Address) (mandateId : BytesN)
  | refreshing (merchantId : Uuid) (mandateId : BytesN) (mandate : Mandate)
  | over

/-- Effects that only read, and say nothing that a phase keeps. -/
def Effect.isRead : Effect → Bool
  | .findMandateIndex _ => true
  | .getMandate _ => true
  | _ => false

/-- The task of a tick that has got this page. -/
def pageTask (stored : Option IndexerCursorState) (startLedger : ℕ)
    (response : GetEventsResponse) : Task :=
  ⟨stored, startLedger, nextCursor stored startLedger (fetchMandateLifecycleEvents response)⟩

inductive Move : Phase → (e : Effect) → Answer e → Phase → Prop where
  | cursorRead (stored : IndexerCursorState) (limit : ℕ) :
      Move .starting .getIndexerCursor (some stored)
        (.asking (some stored) 0 (.cursor stored.cursor limit))
  | cursorMissing : Move .starting .getIndexerCursor none .starting
  | ledgerUnread (message : String) : Move .starting .getCurrentLedger (.error message) .over
  | ledgerRead (latest startLedger limit : ℕ) :
      Move .starting .getCurrentLedger (.ok latest)
        (.asking none startLedger (.startLedger startLedger limit))
  | pageRefused (stored : Option IndexerCursorState) (startLedger : ℕ) (request : GetEventsRequest)
      (message : String) :
      Move (.asking stored startLedger request) (.getEvents request) (.error message) .over
  | gap (stored : Option IndexerCursorState) (startLedger : ℕ) (request : GetEventsRequest)
      (response : GetEventsResponse) :
      Move (.asking stored startLedger request) (.getEvents request) (.ok response) .over
  | page (stored : Option IndexerCursorState) (startLedger : ℕ) (request : GetEventsRequest)
      (response : GetEventsResponse)
      (noGap : retentionGap stored (fetchMandateLifecycleEvents response) = false) :
      Move (.asking stored startLedger request) (.getEvents request) (.ok response)
        (.applying (pageTask stored startLedger response)
          (fetchMandateLifecycleEvents response).events)
  | unowned (task : Task) (event : MandateLifecycleEvent) (todo : List MandateLifecycleEvent) :
      Move (.applying task (event :: todo)) (.findMandateIndex event.mandateId) none
        (.applying task (event :: todo))
  | owned (task : Task) (event : MandateLifecycleEvent) (todo : List MandateLifecycleEvent)
      (row : MandateIndex) :
      Move (.applying task (event :: todo)) (.findMandateIndex event.mandateId) (some row)
        (.writing task event row.merchantId todo)
  | skip (task : Task) (event : MandateLifecycleEvent) (todo : List MandateLifecycleEvent) :
      Move (.applying task (event :: todo)) (.findEventMerchant event) none (.applying task todo)
  | found (task : Task) (event : MandateLifecycleEvent) (todo : List MandateLifecycleEvent)
      (merchantId : Uuid) :
      Move (.applying task (event :: todo)) (.findEventMerchant event) (some merchantId)
        (.writing task event merchantId todo)
  | readAsset (task : Task) (event : MandateLifecycleEvent) (merchantId : Uuid)
      (todo : List MandateLifecycleEvent) (e : Effect) (a : Answer e) (reads : e.isRead = true) :
      Move (.writing task event merchantId todo) e a (.writing task event merchantId todo)
  | writeFailed (task : Task) (event : MandateLifecycleEvent) (merchantId : Uuid)
      (todo : List MandateLifecycleEvent) (assetAddress : Address) (e : DatabaseError) :
      Move (.writing task event merchantId todo)
        (.transact (eventStatements event merchantId assetAddress)) (.error e) .over
  | write (task : Task) (event : MandateLifecycleEvent) (merchantId : Uuid)
      (todo : List MandateLifecycleEvent) (assetAddress : Address) :
      Move (.writing task event merchantId todo)
        (.transact (eventStatements event merchantId assetAddress)) (.ok ()) (.applying task todo)
  | create (startLedger : ℕ) (next : IndexerCursorState) (a : Except DatabaseError Unit) :
      Move (.applying ⟨none, startLedger, next⟩ []) (.createIndexerCursor next) a .over
  | update (previous : IndexerCursorState) (startLedger : ℕ) (next : IndexerCursorState)
      (a : Except DatabaseError Unit) :
      Move (.applying ⟨some previous, startLedger, next⟩ []) (.updateIndexerCursor previous next) a
        .over
  | merchantUnread (merchantId : Uuid) (mandateId : BytesN) :
      Move (.requesting merchantId mandateId) (.findMerchant merchantId) none .over
  | merchantRead (merchantId : Uuid) (mandateId : BytesN) (walletAddress : Address) :
      Move (.requesting merchantId mandateId) (.findMerchant merchantId) (some walletAddress)
        (.reading merchantId walletAddress mandateId)
  | mandateUnread (merchantId : Uuid) (walletAddress : Address) (mandateId : BytesN)
      (a : Option Mandate) :
      Move (.reading merchantId walletAddress mandateId) (.getMandate mandateId) a .over
  | mandateRead (merchantId : Uuid) (walletAddress : Address) (mandateId : BytesN)
      (mandate : Mandate) (own : mandate.merchant = walletAddress) :
      Move (.reading merchantId walletAddress mandateId) (.getMandate mandateId) (some mandate)
        (.refreshing merchantId mandateId mandate)
  | refresh (merchantId : Uuid) (mandateId : BytesN) (mandate : Mandate) (writesPayer : Bool)
      (a : Except DatabaseError Unit) :
      Move (.refreshing merchantId mandateId mandate)
        (.refreshMandateIndex mandateId merchantId mandate writesPayer) a .over

/-! ## The programs make only these moves -/

theorem follows_run {α : Type} {p : Phase} {Q : α → Phase → Prop} {e : Effect}
    {f : Answer e → Job α} :
    (e.run >>= f).Follows Move Q p ↔ ∀ a, ∃ p', Move p e a p' ∧ (f a).Follows Move Q p' :=
  Prog.follows_perform_bind

abbrev Obeys {α : Type} (x : Job α) (p : Phase) : Prop := x.Follows Move (fun _ _ => True) p

section

variable {task : Task} {event : MandateLifecycleEvent} {todo : List MandateLifecycleEvent}

/-- The owner is found, or the event is skipped. -/
theorem follows_resolveMerchant (task : Task) (event : MandateLifecycleEvent)
    (todo : List MandateLifecycleEvent) :
    (resolveMerchant event).Follows Move
      (fun answer p' => p' = (answer.map fun merchantId =>
        Phase.writing task event merchantId todo).getD (.applying task todo))
      (.applying task (event :: todo)) := by
  unfold resolveMerchant
  rw [follows_run]
  intro existing
  cases existing with
  | some row => exact ⟨_, .owned task event todo row, rfl⟩
  | none =>
      refine ⟨_, .unowned task event todo, fun merchant => ?_⟩
      cases merchant with
      | none => exact ⟨_, .skip task event todo, rfl⟩
      | some merchantId => exact ⟨_, .found task event todo merchantId, rfl⟩

theorem follows_resolveAssetAddress {merchantId : Uuid} :
    (resolveAssetAddress event).Follows Move
      (fun _ p' => p' = .writing task event merchantId todo)
      (.writing task event merchantId todo) := by
  unfold resolveAssetAddress
  rw [follows_run]
  intro existing
  refine ⟨_, .readAsset task event merchantId todo _ existing rfl, ?_⟩
  cases existing with
  | some row => rfl
  | none =>
      show Prog.Follows _ _ (resolveAssetAddressForNewRow event) _
      unfold resolveAssetAddressForNewRow
      split
      · rfl
      · rw [follows_run]
        intro mandate
        refine ⟨_, .readAsset task event merchantId todo _ mandate rfl, ?_⟩
        cases mandate with
        | none => trivial
        | some mandate => rfl

theorem follows_applyMandateLifecycleEvent :
    (applyMandateLifecycleEvent event).Follows Move (fun _ p' => p' = .applying task todo)
      (.applying task (event :: todo)) := by
  unfold applyMandateLifecycleEvent
  refine Prog.follows_bind.mpr ((follows_resolveMerchant task event todo).mono ?_)
  rintro (_ | merchantId) p' rfl
  · rfl
  · refine Prog.follows_bind.mpr (follows_resolveAssetAddress.mono ?_)
    rintro assetAddress p' rfl
    rw [follows_run]
    intro answer
    cases answer with
    | error e => exact ⟨_, .writeFailed task event merchantId todo assetAddress e, trivial⟩
    | ok u => exact ⟨_, .write task event merchantId todo assetAddress, rfl⟩

/-- Event by event. -/
theorem follows_applyEvents (events : List MandateLifecycleEvent) :
    (applyEvents events).Follows Move (fun _ p' => p' = .applying task [])
      (.applying task events) := by
  induction events with
  | nil => rfl
  | cons event events ih =>
      unfold applyEvents
      refine Prog.follows_bind.mpr (follows_applyMandateLifecycleEvent.mono ?_)
      rintro u p' rfl
      exact ih

end

theorem obeys_advanceIndexerCursor (stored : Option IndexerCursorState) (startLedger : ℕ)
    (next : IndexerCursorState) :
    Obeys (advanceIndexerCursor stored next) (.applying ⟨stored, startLedger, next⟩ []) := by
  unfold advanceIndexerCursor Obeys
  cases stored with
  | none =>
      rw [follows_run]
      intro answer
      refine ⟨_, .create startLedger next answer, ?_⟩
      split
      · trivial
      · cases answer with
        | error e => trivial
        | ok u => trivial
  | some previous =>
      rw [follows_run]
      intro answer
      refine ⟨_, .update previous startLedger next answer, ?_⟩
      cases answer with
      | error e => trivial
      | ok u => trivial

theorem obeys_processPage (stored : Option IndexerCursorState) (startLedger : ℕ)
    (request : GetEventsRequest) :
    Obeys (processPage stored startLedger request) (.asking stored startLedger request) := by
  unfold processPage Obeys
  rw [follows_run]
  intro answer
  cases answer with
  | error message =>
      refine ⟨_, .pageRefused stored startLedger request message, ?_⟩
      show Prog.Follows _ _ (if _ then _ else _) _
      split <;> trivial
  | ok response =>
      by_cases hgap : retentionGap stored (fetchMandateLifecycleEvents response) = true
      · refine ⟨_, .gap stored startLedger request response, ?_⟩
        show Prog.Follows _ _ (if _ then _ else _) _
        rw [if_pos hgap]
        trivial
      · refine ⟨_, .page stored startLedger request response (by simpa using hgap), ?_⟩
        show Prog.Follows _ _ (if _ then _ else _) _
        rw [if_neg hgap]
        refine Prog.follows_bind.mpr ((follows_applyEvents _).mono ?_)
        rintro u p' rfl
        exact Prog.follows_bind.mpr
          ((obeys_advanceIndexerCursor stored startLedger _).mono fun _ _ _ => trivial)

/-- **A tick obeys the automaton.** -/
theorem runIndexerTick_obeys (deps : IndexerDeps) : Obeys (runIndexerTick deps) .starting := by
  unfold runIndexerTick Obeys
  rw [follows_run]
  intro stored
  cases stored with
  | some stored =>
      exact ⟨_, .cursorRead stored deps.pageLimit, obeys_processPage _ _ _⟩
  | none =>
      refine ⟨_, .cursorMissing, ?_⟩
      show Prog.Follows _ _ (Effect.run _ >>= _) _
      rw [follows_run]
      intro latest
      cases latest with
      | error message => exact ⟨_, .ledgerUnread message, trivial⟩
      | ok latest =>
          exact ⟨_, .ledgerRead latest (firstStartLedger deps latest) deps.pageLimit,
            obeys_processPage _ _ _⟩

section

variable {merchantId : Uuid} {mandateId : BytesN}

theorem getMandateRoute_obeys :
    Obeys (getMandateRoute merchantId mandateId) (.requesting merchantId mandateId) := by
  unfold getMandateRoute Obeys
  rw [follows_run]
  intro wallet
  cases wallet with
  | none => exact ⟨_, .merchantUnread merchantId mandateId, trivial⟩
  | some walletAddress =>
      refine ⟨_, .merchantRead merchantId mandateId walletAddress, ?_⟩
      show Prog.Follows _ _ (Effect.run _ >>= _) _
      rw [follows_run]
      intro answer
      cases answer with
      | none => exact ⟨_, .mandateUnread merchantId walletAddress mandateId _, trivial⟩
      | some mandate =>
          by_cases hown : mandate.merchant = walletAddress
          · refine ⟨_, .mandateRead merchantId walletAddress mandateId mandate hown, ?_⟩
            show Prog.Follows _ _ (if _ then _ else _) _
            rw [if_pos hown]
            exact fun a => ⟨_, .refresh merchantId mandateId mandate false a, trivial⟩
          · refine ⟨_, .mandateUnread merchantId walletAddress mandateId _, ?_⟩
            show Prog.Follows _ _ (if _ then _ else _) _
            rw [if_neg hown]
            trivial

theorem linkMandateRoute_obeys (assetAddress payerAddress : Address) :
    Obeys (linkMandateRoute merchantId assetAddress payerAddress mandateId)
      (.requesting merchantId mandateId) := by
  unfold linkMandateRoute Obeys
  rw [follows_run]
  intro wallet
  cases wallet with
  | none => exact ⟨_, .merchantUnread merchantId mandateId, trivial⟩
  | some walletAddress =>
      refine ⟨_, .merchantRead merchantId mandateId walletAddress, ?_⟩
      show Prog.Follows _ _ (Effect.run _ >>= _) _
      rw [follows_run]
      intro answer
      cases answer with
      | none => exact ⟨_, .mandateUnread merchantId walletAddress mandateId _, trivial⟩
      | some mandate =>
          by_cases hown : mandate.merchant = walletAddress ∧ mandate.asset = assetAddress ∧
              mandate.payer = payerAddress
          · refine ⟨_, .mandateRead merchantId walletAddress mandateId mandate hown.1, ?_⟩
            show Prog.Follows _ _ (if _ then _ else _) _
            rw [if_pos hown]
            exact fun a => ⟨_, .refresh merchantId mandateId mandate true a, trivial⟩
          · refine ⟨_, .mandateUnread merchantId walletAddress mandateId _, ?_⟩
            show Prog.Follows _ _ (if _ then _ else _) _
            rw [if_neg hown]
            trivial

end

end Paymap.Indexer
