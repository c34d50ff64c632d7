import Paymap.Lib.Prog
import Paymap.Indexer.Tables

set_option autoImplicit false

/-! # One poll of the indexer

`runIndexerTick` of `indexer.ts`, with `applyMandateLifecycleEvent` of `mandate-index-sync.ts` under
it, as a program over the effects it has: reads and writes of the database, calls of the RPC. What is
only logged or measured is left out. The two requests of the API that write the mandate index are
programs too. A `throw` ends the program (`Prog.raise`).
-/

namespace Paymap.Indexer

open Registry (Address BytesN Mandate)
open Relayer (Uuid)

/-! ## Effects -/

inductive Effect where
  | getIndexerCursor
  | getCurrentLedger
  | getEvents (request : GetEventsRequest)
  | findMandateIndex (mandateId : BytesN)
  /-- By the event's own merchant address. -/
  | findEventMerchant (event : MandateLifecycleEvent)
  | findMerchant (id : Uuid)
  | getMandate (mandateId : BytesN)
  | transact (statements : List Statement)
  | createIndexerCursor (next : IndexerCursorState)
  | updateIndexerCursor (previous next : IndexerCursorState)
  | refreshMandateIndex (mandateId : BytesN) (merchantId : Uuid) (mandate : Mandate)
      (writesPayer : Bool)
deriving DecidableEq

/-- What an effect is answered with. The RPC fails with a message. -/
abbrev Answer : Effect → Type
  | .getIndexerCursor => Option IndexerCursorState
  | .getCurrentLedger => Except String ℕ
  | .getEvents _ => Except String GetEventsResponse
  | .findMandateIndex _ => Option MandateIndex
  | .findEventMerchant _ => Option Uuid
  | .findMerchant _ => Option Address
  | .getMandate _ => Option Mandate
  | .transact _ => Except DatabaseError Unit
  | .createIndexerCursor _ => Except DatabaseError Unit
  | .updateIndexerCursor _ _ => Except DatabaseError Unit
  | .refreshMandateIndex _ _ _ _ => Except DatabaseError Unit

abbrev Job (α : Type) := Prog Effect Answer Thrown α

def Effect.run (e : Effect) : Job (Answer e) := .perform e

inductive Outcome where
  | processed (count : ℕ)
  | mandate (mandate : Mandate)

/-- The answer of the database, or the end of the program. -/
def orThrow {α : Type} : Except DatabaseError α → Job α
  | .ok a => .ret a
  | .error e => .raise (.database e)

/-! ## One event (`mandate-index-sync.ts`) -/

/-- The owner of the mandate, from its row in the index, else by the wallet address in the event. -/
def resolveMerchant (event : MandateLifecycleEvent) : Job (Option Uuid) := do
  match ← (Effect.findMandateIndex event.mandateId).run with
  | some existing => return some existing.merchantId
  | none => (Effect.findEventMerchant event).run

def resolveAssetAddressForNewRow (event : MandateLifecycleEvent) : Job Address :=
  match event.kind with
  | .mandateCreated asset => return asset
  | _ => do
      match ← (Effect.getMandate event.mandateId).run with
      | some mandate => return mandate.asset
      | none => .raise .mandateReadError

/-- The statements of the transaction for one event. -/
def eventStatements (event : MandateLifecycleEvent) (merchantId : Uuid) (assetAddress : Address) :
    List Statement :=
  .upsertMandateIndex event merchantId assetAddress ::
    match eventToWebhook event.kind with
    | some eventType =>
        [.enqueueWebhook ⟨merchantId, .chain event.rpcEventId, eventType,
          some (buildWebhookPayload event)⟩]
    | none => []

/-- The transaction writes the index and, unless it is there already, the delivery. -/
theorem transact_eventStatements (now : Relayer.Time) (db : Db) (event : MandateLifecycleEvent)
    (merchantId : Uuid) (assetAddress : Address) :
    transact now db (eventStatements event merchantId assetAddress)
      = { db with
          mandateIndex :=
            (upsertMandateIndexFromEvent now db event merchantId assetAddress).mandateIndex
          webhookDeliveries :=
            match eventToWebhook event.kind with
            | some eventType =>
                (enqueueDeterministicWebhook db ⟨merchantId, .chain event.rpcEventId, eventType,
                  some (buildWebhookPayload event)⟩).webhookDeliveries
            | none => db.webhookDeliveries } := by
  unfold transact eventStatements
  rw [List.foldl_cons, Statement.exec, upsertMandateIndexFromEvent_frame]
  cases eventToWebhook event.kind with
  | none => rfl
  | some eventType =>
      simp only [List.foldl_cons, List.foldl_nil, Statement.exec, enqueueDeterministicWebhook]
      split <;> rfl

theorem transact_eventStatements_indexerCursor (now : Relayer.Time) (db : Db)
    (event : MandateLifecycleEvent) (merchantId : Uuid) (assetAddress : Address) :
    (transact now db (eventStatements event merchantId assetAddress)).indexerCursor
      = db.indexerCursor := by
  rw [transact_eventStatements]

theorem transact_eventStatements_merchants (now : Relayer.Time) (db : Db)
    (event : MandateLifecycleEvent) (merchantId : Uuid) (assetAddress : Address) :
    (transact now db (eventStatements event merchantId assetAddress)).merchants
      = db.merchants := by
  rw [transact_eventStatements]

/-- The asset of the row there is, else of the one that is to be made. -/
def resolveAssetAddress (event : MandateLifecycleEvent) : Job Address := do
  match ← (Effect.findMandateIndex event.mandateId).run with
  | some existing => return existing.assetAddress
  | none => resolveAssetAddressForNewRow event

def applyMandateLifecycleEvent (event : MandateLifecycleEvent) : Job Unit := do
  match ← resolveMerchant event with
  -- an event of somebody who is no merchant here is skipped
  | none => return ()
  | some merchantId =>
      let assetAddress ← resolveAssetAddress event
      orThrow (← (Effect.transact (eventStatements event merchantId assetAddress)).run)

def applyEvents : List MandateLifecycleEvent → Job Unit
  | [] => return ()
  | event :: events => do
      applyMandateLifecycleEvent event
      applyEvents events

/-! ## The cursor (`cursor.ts`) -/

def advanceIndexerCursor (previous : Option IndexerCursorState) (next : IndexerCursorState) :
    Job Unit := do
  match previous with
  | none =>
      match ← (Effect.createIndexerCursor next).run with
      -- a concurrent instance has created the row first
      | .error .uniqueConstraint => return ()
      | answer => orThrow answer
  | some previous => orThrow (← (Effect.updateIndexerCursor previous next).run)

/-! ## The tick (`indexer.ts`) -/

structure IndexerDeps where
  initialLookbackLedgers : ℕ
  pageLimit : ℕ

/-- `DEFAULT_INITIAL_LOOKBACK_LEDGERS` and `DEFAULT_PAGE_LIMIT`. -/
def IndexerDeps.default : IndexerDeps := ⟨100, 100⟩

/-- `RETENTION_ERROR_HINTS`. -/
def retentionErrorHints : List String :=
  ["oldest ledger", "before the oldest", "outside the ledger range", "cursor", "startledger",
    "start ledger", "ledger range"]

/-- `String.prototype.includes`. -/
def includes (message hint : String) : Bool :=
  message.toList.tails.any hint.toList.isPrefixOf

def isLikelyRetentionGapError (message : String) : Bool :=
  retentionErrorHints.any (includes message.toLower)

/-- Where the very first run starts. -/
def firstStartLedger (deps : IndexerDeps) (latest : ℕ) : ℕ :=
  max 1 (latest - deps.initialLookbackLedgers)

/-- The second of the two checks for a gap: the RPC's own oldest ledger. -/
def retentionGap (stored : Option IndexerCursorState) (page : ChainEventsPage) : Bool :=
  stored.any fun stored => stored.lastLedger + 1 < page.oldestLedger

/-- The cursor row after a page. The first run has asked from a ledger number. -/
def nextCursor (stored : Option IndexerCursorState) (startLedger : ℕ) (page : ChainEventsPage) :
    IndexerCursorState where
  lastLedger := page.pageMaxLedger.getD ((stored.map IndexerCursorState.lastLedger).getD startLedger)
  cursor := page.cursor

/-- Steps 2 and 3, from the request on, and then the page: every event in order, and the cursor. -/
def processPage (stored : Option IndexerCursorState) (startLedger : ℕ)
    (request : GetEventsRequest) : Job Outcome := do
  match ← (Effect.getEvents request).run with
  | .error message =>
      if stored.isSome ∧ isLikelyRetentionGapError message then .raise .indexerRetentionGap
      else .raise (.rpcError message)
  | .ok response =>
      let page := fetchMandateLifecycleEvents response
      if retentionGap stored page then .raise .indexerRetentionGap
      else
        applyEvents page.events
        advanceIndexerCursor stored (nextCursor stored startLedger page)
        return .processed page.events.length

def runIndexerTick (deps : IndexerDeps) : Job Outcome := do
  match ← Effect.getIndexerCursor.run with
  | some stored => processPage (some stored) 0 (.cursor stored.cursor deps.pageLimit)
  | none =>
      match ← Effect.getCurrentLedger.run with
      | .error message => .raise (.rpcError message)
      | .ok latest =>
          processPage none (firstStartLedger deps latest)
            (.startLedger (firstStartLedger deps latest) deps.pageLimit)

/-! ## The requests of the API that write the index -/

/-- `GET /mandates/:id`. The refresh is best effort: its errors are caught. -/
def getMandateRoute (merchantId : Uuid) (mandateId : BytesN) : Job Outcome := do
  match ← (Effect.findMerchant merchantId).run with
  | none => .raise .merchantNotFound
  | some walletAddress =>
      match ← (Effect.getMandate mandateId).run with
      | none => .raise .mandateNotFound
      | some mandate =>
          if mandate.merchant = walletAddress then
            let _ ← (Effect.refreshMandateIndex mandateId merchantId mandate false).run
            return .mandate mandate
          else .raise .mandateNotFound

/-- `POST /checkout-sessions/:id/mandate`, for a session of this merchant and this asset. -/
def linkMandateRoute (merchantId : Uuid) (assetAddress payerAddress : Address)
    (mandateId : BytesN) : Job Outcome := do
  match ← (Effect.findMerchant merchantId).run with
  | none => .raise .merchantNotFound
  | some walletAddress =>
      match ← (Effect.getMandate mandateId).run with
      | none => .raise .mandateNotFound
      | some mandate =>
          if mandate.merchant = walletAddress ∧ mandate.asset = assetAddress ∧
              mandate.payer = payerAddress then
            let _ ← (Effect.refreshMandateIndex mandateId merchantId mandate true).run
            return .mandate mandate
          else .raise .mandateMismatch

end Paymap.Indexer
