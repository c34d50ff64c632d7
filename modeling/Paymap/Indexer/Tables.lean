import Paymap.Indexer.Chain
import Paymap.Relayer.Tables

set_option autoImplicit false

/-! # The tables of the indexer

The mandate index, the poll cursor and the webhook deliveries, with the statements that write them:
the upsert of `mandate-index-sync.ts`, whose guard compares ledger numbers, the insert that skips an
event id it has already, the compare-and-swap of `cursor.ts`, and the cache refresh of the API, which
writes the status of the row without looking at the guard's column.
-/

namespace Paymap.Indexer

open Registry (Address BytesN Mandate MandateStatus)
open Relayer (Uuid Time)

/-! ## Rows -/

structure MandateIndex where
  merchantId : Uuid
  payerAddress : Address
  merchantAddress : Address
  assetAddress : Address
  status : MandateStatus
  contractStateVersion : ℕ
  lastIndexedLedger : Option ℕ
  lastIndexedAt : Time
deriving DecidableEq

structure IndexerCursorState where
  lastLedger : ℕ
  cursor : Cursor
deriving DecidableEq

/-- `chain:<rpcEventId>`, or a `randomUUID()` of another producer. -/
inductive EventId where
  | chain (rpcEventId : ℕ)
  | random (uuid : Uuid)
deriving DecidableEq

inductive WebhookEventType where
  | mandateActive
  | mandatePaused
  | mandateResumed
  | mandateRevoked
  | mandateCompleted
  | paymentSucceeded
  | paymentFailed
  | refundSucceeded
  | webhookTest
deriving DecidableEq

structure WebhookPayload where
  mandateId : BytesN
  payerAddress : Address
  merchantAddress : Address
  assetAddress : Option Address
deriving DecidableEq

/-- The payload is the indexer's; what other producers put there is nothing to it. -/
structure WebhookDelivery where
  merchantId : Uuid
  eventId : EventId
  eventType : WebhookEventType
  payload : Option WebhookPayload
deriving DecidableEq

structure Db where
  mandateIndex : FinMap BytesN MandateIndex
  indexerCursor : Option IndexerCursorState
  webhookDeliveries : List WebhookDelivery
  /-- A merchant's wallet address. -/
  merchants : FinMap Uuid Address

def Db.empty : Db := ⟨∅, none, [], ∅⟩

inductive DatabaseError where
  | uniqueConstraint
  | other
deriving DecidableEq

inductive Thrown where
  | indexerRetentionGap
  | rpcError (message : String)
  | mandateReadError
  | merchantNotFound
  | mandateNotFound
  | mandateMismatch
  | database (e : DatabaseError)
deriving DecidableEq

/-! ## What an event says (`mandate-index-sync.ts`) -/

/-- `EVENT_TO_WEBHOOK`. -/
def eventToWebhook : MandateLifecycleEventKind → Option WebhookEventType
  | .mandateCreated _ => some .mandateActive
  | .mandatePaused => some .mandatePaused
  | .mandateResumed => some .mandateResumed
  | .mandateRevoked => some .mandateRevoked
  | .mandateCompleted _ => none

/-- `EVENT_TO_STATUS`. -/
def eventToStatus : MandateLifecycleEventKind → MandateStatus
  | .mandateCreated _ => .active
  | .mandatePaused => .paused
  | .mandateResumed => .active
  | .mandateRevoked => .revoked
  | .mandateCompleted _ => .completed

def buildWebhookPayload (event : MandateLifecycleEvent) : WebhookPayload where
  mandateId := event.mandateId
  payerAddress := event.payer
  merchantAddress := event.merchant
  assetAddress :=
    match event.kind with
    | .mandateCreated asset => some asset
    | _ => none

/-! ## Statements -/

/-- `INSERT .. ON CONFLICT .. DO UPDATE .. WHERE`: the row is written unless it was indexed at a later
ledger. -/
def upsertMandateIndexFromEvent (now : Time) (db : Db) (event : MandateLifecycleEvent)
    (merchantId : Uuid) (assetAddress : Address) : Db :=
  match db.mandateIndex.lookup event.mandateId with
  | none =>
      { db with
        mandateIndex := db.mandateIndex.insert event.mandateId
          { merchantId := merchantId
            payerAddress := event.payer
            merchantAddress := event.merchant
            assetAddress := assetAddress
            status := eventToStatus event.kind
            contractStateVersion := 1
            lastIndexedLedger := some event.ledger
            lastIndexedAt := now } }
  | some row =>
      if row.lastIndexedLedger.all (· ≤ event.ledger) then
        { db with
          mandateIndex := db.mandateIndex.insert event.mandateId
            { merchantId := merchantId
              payerAddress := event.payer
              merchantAddress := event.merchant
              assetAddress := assetAddress
              status := eventToStatus event.kind
              contractStateVersion := row.contractStateVersion + 1
              lastIndexedLedger := some event.ledger
              lastIndexedAt := now } }
      else db

theorem upsertMandateIndexFromEvent_frame (now : Time) (db : Db) (event : MandateLifecycleEvent)
    (merchantId : Uuid) (assetAddress : Address) :
    upsertMandateIndexFromEvent now db event merchantId assetAddress
      = { db with mandateIndex :=
          (upsertMandateIndexFromEvent now db event merchantId assetAddress).mandateIndex } := by
  unfold upsertMandateIndexFromEvent
  split
  · rfl
  · split <;> rfl

/-- `createMany({ skipDuplicates: true })`. -/
def enqueueDeterministicWebhook (db : Db) (delivery : WebhookDelivery) : Db :=
  if db.webhookDeliveries.any fun d => d.eventId = delivery.eventId then db
  else { db with webhookDeliveries := db.webhookDeliveries ++ [delivery] }

inductive Statement where
  | upsertMandateIndex (event : MandateLifecycleEvent) (merchantId : Uuid)
      (assetAddress : Address)
  | enqueueWebhook (delivery : WebhookDelivery)
deriving DecidableEq

def Statement.exec (now : Time) (db : Db) : Statement → Db
  | .upsertMandateIndex event merchantId assetAddress =>
      upsertMandateIndexFromEvent now db event merchantId assetAddress
  | .enqueueWebhook delivery => enqueueDeterministicWebhook db delivery

/-- `prisma.$transaction`; none of its statements fails by itself. -/
def transact (now : Time) (db : Db) (statements : List Statement) : Db :=
  statements.foldl (Statement.exec now) db

/-! ## The cursor (`cursor.ts`) -/

def createIndexerCursor (db : Db) (next : IndexerCursorState) : Except DatabaseError Db :=
  if db.indexerCursor.isSome then .error .uniqueConstraint
  else .ok { db with indexerCursor := some next }

/-- `updateMany`: a row that is not the previous one is left alone. -/
def updateIndexerCursor (db : Db) (previous next : IndexerCursorState) : Db :=
  if db.indexerCursor = some previous then { db with indexerCursor := some next } else db

/-! ## Other writers -/

/-- The upsert with which the API refreshes the index from a mandate it has just read; linking a
checkout session writes the payer of an existing row too. -/
def refreshMandateIndex (now : Time) (db : Db) (mandateId : BytesN) (merchantId : Uuid)
    (mandate : Mandate) (writesPayer : Bool) : Db :=
  match db.mandateIndex.lookup mandateId with
  | none =>
      { db with
        mandateIndex := db.mandateIndex.insert mandateId
          { merchantId := merchantId
            payerAddress := mandate.payer
            merchantAddress := mandate.merchant
            assetAddress := mandate.asset
            status := mandate.status
            contractStateVersion := 0
            lastIndexedLedger := none
            lastIndexedAt := now } }
  | some row =>
      { db with
        mandateIndex := db.mandateIndex.insert mandateId
          { row with
            payerAddress := if writesPayer then mandate.payer else row.payerAddress
            status := mandate.status
            contractStateVersion := row.contractStateVersion + 1
            lastIndexedAt := now } }

theorem refreshMandateIndex_frame (now : Time) (db : Db) (mandateId : BytesN) (merchantId : Uuid)
    (mandate : Mandate) (writesPayer : Bool) :
    refreshMandateIndex now db mandateId merchantId mandate writesPayer
      = { db with mandateIndex :=
          (refreshMandateIndex now db mandateId merchantId mandate writesPayer).mandateIndex } := by
  unfold refreshMandateIndex
  split <;> rfl

theorem refreshMandateIndex_indexerCursor (now : Time) (db : Db) (mandateId : BytesN)
    (merchantId : Uuid) (mandate : Mandate) (writesPayer : Bool) :
    (refreshMandateIndex now db mandateId merchantId mandate writesPayer).indexerCursor
      = db.indexerCursor := by
  rw [refreshMandateIndex_frame]

theorem refreshMandateIndex_merchants (now : Time) (db : Db) (mandateId : BytesN)
    (merchantId : Uuid) (mandate : Mandate) (writesPayer : Bool) :
    (refreshMandateIndex now db mandateId merchantId mandate writesPayer).merchants
      = db.merchants := by
  rw [refreshMandateIndex_frame]

/-- `merchant.findFirst` by the wallet address. -/
def Db.merchantOf (db : Db) (walletAddress : Address) : Option Uuid :=
  (FinMap.keysWhere (fun wallet => wallet = walletAddress) db.merchants).head?

/-- A merchant registers; ids and wallet addresses are unique, and no wallet address ever changes. -/
def registerMerchant (db : Db) (id : Uuid) (walletAddress : Address) : Db :=
  if (db.merchants.lookup id).isSome ∨
      (FinMap.values db.merchants).any (fun wallet => wallet = walletAddress) then db
  else { db with merchants := db.merchants.insert id walletAddress }

end Paymap.Indexer
