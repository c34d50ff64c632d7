import Paymap.Lib.FinMap
import Paymap.Registry.Types

set_option autoImplicit false

/-! # The tables of the relayer and the API

The rows of `schema.prisma` that charging a mandate reads or writes, the guarded status transition
of `state-machine.ts`, and the statements of which every database transaction of the relayer is
made. A transaction runs its statements in order and is rolled back when one of them throws, so it
is a function into `Except`: a thrown error comes without tables.

Identifiers of rows are `Uuid`s; ids that are also used on chain are the registry's `BytesN`.
Amounts are the integers the decimal strings of the source stand for.
-/

namespace Paymap.Relayer

open Registry (Address BytesN)
open Tx (rejectIf)

abbrev Uuid := ℕ

/-- Milliseconds. -/
abbrev Time := ℕ

/-- The hash of a transaction; the network gives every broadcast transaction one of its own. -/
abbrev TxHash := ℕ

/-! ## Rows -/

inductive ChargeRequestStatus where
  | scheduled
  | processing
  | simulated
  | submitted
  | succeeded
  | retryableFailed
  | permanentlyFailed
deriving DecidableEq, Repr

structure ChargeRequest where
  id : Uuid
  merchantId : Uuid
  mandateId : BytesN
  chargeId : BytesN
  amount : ℤ
  invoiceHash : BytesN
  scheduledFor : Time
  status : ChargeRequestStatus
  attemptCount : ℕ
  failureCode : Option String
  transactionHash : Option TxHash
  nextAttemptAt : Option Time
  authorizationId : Option Uuid
  updatedAt : Time
deriving DecidableEq

inductive ChargeAuthorizationStatus where
  | pending
  | ready
  | consumed
  | expired
deriving DecidableEq, Repr

structure ChargeAuthorization where
  id : Uuid
  merchantId : Uuid
  mandateId : BytesN
  chargeId : BytesN
  amount : ℤ
  invoiceHash : BytesN
  scheduledFor : Time
  signedEntryCiphertext : Option ℕ
  signatureExpirationLedger : ℕ
  status : ChargeAuthorizationStatus
  consumedAt : Option Time
deriving DecidableEq

structure Payment where
  paymentId : BytesN
  merchantId : Uuid
  mandateId : BytesN
  chargeId : BytesN
  chargeRequestId : Uuid
  amount : I128
  assetAddress : Address
  transactionHash : TxHash
  ledger : ℕ
deriving DecidableEq

/-- The events the pipeline enqueues, each with its payload. -/
inductive ChargeEvent where
  | paymentSucceeded (chargeRequestId : Uuid) (paymentId mandateId chargeId : BytesN)
      (transactionHash : TxHash)
  | paymentFailed (chargeRequestId : Uuid) (mandateId chargeId : BytesN) (reason : String)
  | mandateCompleted (mandateId : BytesN)
deriving DecidableEq

structure WebhookDelivery where
  merchantId : Uuid
  event : ChargeEvent
deriving DecidableEq

structure Db where
  chargeRequests : FinMap Uuid ChargeRequest
  chargeAuthorizations : FinMap Uuid ChargeAuthorization
  payments : List Payment
  webhookDeliveries : List WebhookDelivery
  /-- A merchant's wallet address. -/
  merchants : FinMap Uuid Address
  /-- The asset of the product a merchant's mandate was checked out for. -/
  checkoutSessions : FinMap (Uuid × BytesN) Address

def Db.empty : Db := ⟨∅, ∅, [], [], ∅, ∅⟩

/-- What ends a job of the pipeline without an outcome. -/
inductive Thrown where
  | chargeRequestNotFound
  | invalidStateTransition
  | recordNotFound
  | uniqueConstraint
  | databaseError
  | unclassifiableContractError (name : String)
deriving DecidableEq, Repr

/-! ## The state machine (`state-machine.ts`) -/

/-- `CHARGE_REQUEST_LEGAL_TRANSITIONS`. -/
def legalTransitions : ChargeRequestStatus → List ChargeRequestStatus
  | .scheduled => [.processing]
  | .processing => [.simulated, .retryableFailed, .permanentlyFailed]
  | .simulated => [.submitted]
  | .submitted => [.succeeded, .retryableFailed, .permanentlyFailed]
  | .succeeded => []
  | .retryableFailed => [.processing]
  | .permanentlyFailed => []

/-- The columns a transition writes next to the status; `none` leaves a column as it is. -/
structure RowData where
  attemptCount : Option ℕ := none
  failureCode : Option String := none
  transactionHash : Option TxHash := none
  nextAttemptAt : Option (Option Time) := none
deriving DecidableEq

def ChargeRequest.transitioned (row : ChargeRequest) (target : ChargeRequestStatus)
    (data : RowData) (now : Time) : ChargeRequest :=
  { row with
    status := target
    attemptCount := data.attemptCount.getD row.attemptCount
    failureCode := data.failureCode.or row.failureCode
    transactionHash := data.transactionHash.or row.transactionHash
    nextAttemptAt := data.nextAttemptAt.getD row.nextAttemptAt
    updatedAt := now }

def Db.setChargeRequest (db : Db) (id : Uuid) (row : ChargeRequest) : Db :=
  { db with chargeRequests := db.chargeRequests.insert id row }

/-- The edge must be legal and the row must be in `source`: a guarded `updateMany`. -/
def transitionChargeRequest (now : Time) (db : Db) (id : Uuid)
    (source target : ChargeRequestStatus) (data : RowData) : Except Thrown Db :=
  if target ∈ legalTransitions source then
    match db.chargeRequests.lookup id with
    | some row =>
        if row.status = source then
          .ok (db.setChargeRequest id (row.transitioned target data now))
        else .error .invalidStateTransition
    | none => .error .invalidStateTransition
  else .error .invalidStateTransition

/-! ## Statements and transactions -/

inductive Statement where
  | transition (id : Uuid) (source target : ChargeRequestStatus) (data : RowData)
  | setTransactionHash (id : Uuid) (hash : TxHash)
  | createPayment (payment : Payment)
  | updateAuthorization (id : Uuid) (status : ChargeAuthorizationStatus)
      (consumedAt : Option Time)
  | createDelivery (delivery : WebhookDelivery)
deriving DecidableEq

def setTransactionHash (now : Time) (db : Db) (id : Uuid) (hash : TxHash) : Except Thrown Db :=
  match db.chargeRequests.lookup id with
  | some row =>
      .ok (db.setChargeRequest id { row with transactionHash := some hash, updatedAt := now })
  | none => .error .recordNotFound

/-- A payment is unique by its id, by its charge id and by its request. -/
def createPayment (db : Db) (payment : Payment) : Except Thrown Db :=
  if db.payments.any fun p => p.paymentId = payment.paymentId || p.chargeId = payment.chargeId ||
      p.chargeRequestId = payment.chargeRequestId then
    .error .uniqueConstraint
  else .ok { db with payments := db.payments ++ [payment] }

def updateAuthorization (db : Db) (id : Uuid) (status : ChargeAuthorizationStatus)
    (consumedAt : Option Time) : Except Thrown Db :=
  match db.chargeAuthorizations.lookup id with
  | some authorization =>
      .ok { db with
        chargeAuthorizations := db.chargeAuthorizations.insert id
          { authorization with
            status := status
            consumedAt := consumedAt.or authorization.consumedAt } }
  | none => .error .recordNotFound

def Statement.exec (now : Time) (db : Db) : Statement → Except Thrown Db
  | .transition id source target data => transitionChargeRequest now db id source target data
  | .setTransactionHash id hash => Relayer.setTransactionHash now db id hash
  | .createPayment payment => Relayer.createPayment db payment
  | .updateAuthorization id status consumedAt =>
      Relayer.updateAuthorization db id status consumedAt
  | .createDelivery delivery =>
      .ok { db with webhookDeliveries := db.webhookDeliveries ++ [delivery] }

/-- `prisma.$transaction`. -/
def transact (now : Time) : List Statement → Db → Except Thrown Db
  | [], db => .ok db
  | statement :: rest, db => statement.exec now db >>= transact now rest

/-! ## Other writers -/

/-- `STALE_PRE_SUBMISSION_MS`: ten minutes. -/
def stalePreSubmissionMs : Time := 10 * 60000

/-- One row, as the scheduler's `updateMany` over stale pre-submission work leaves it. -/
def ChargeRequest.recovered (now : Time) (row : ChargeRequest) : ChargeRequest :=
  if (row.status = .processing ∨ row.status = .simulated) ∧
      row.updatedAt + stalePreSubmissionMs ≤ now then
    { row with
      status := .retryableFailed
      failureCode := some "WORKER_INTERRUPTED"
      nextAttemptAt := some now
      updatedAt := now }
  else row

def recoverStalePreSubmissionCharges (now : Time) (db : Db) : Db :=
  { db with chargeRequests := FinMap.mapValues (ChargeRequest.recovered now) db.chargeRequests }

/-- `POST /mandates/:id/charge-authorizations`: a fresh authorization, waiting for a signature. -/
def createChargeAuthorization (db : Db) (authorization : ChargeAuthorization) :
    Except Thrown Db := do
  rejectIf ((db.chargeAuthorizations.lookup authorization.id).isSome ∨
    (FinMap.values db.chargeAuthorizations).any fun a => a.chargeId = authorization.chargeId)
    .uniqueConstraint
  return { db with
    chargeAuthorizations := db.chargeAuthorizations.insert authorization.id
      { authorization with
        status := .pending
        signedEntryCiphertext := none
        consumedAt := none } }

/-- The charge request that completing an authorization creates. -/
def newChargeRequest (now : Time) (id : Uuid) (authorization : ChargeAuthorization) :
    ChargeRequest where
  id := id
  merchantId := authorization.merchantId
  mandateId := authorization.mandateId
  chargeId := authorization.chargeId
  amount := authorization.amount
  invoiceHash := authorization.invoiceHash
  scheduledFor := authorization.scheduledFor
  status := .scheduled
  attemptCount := 0
  failureCode := none
  transactionHash := none
  nextAttemptAt := none
  authorizationId := some authorization.id
  updatedAt := now

/-- `POST /charge-authorizations/:id/complete`: the pending authorization becomes ready and the
charge request is created, in one transaction. -/
def completeChargeAuthorization (now : Time) (db : Db) (authorizationId chargeRequestId : Uuid)
    (ciphertext : ℕ) : Except Thrown Db :=
  match db.chargeAuthorizations.lookup authorizationId with
  | none => .error .recordNotFound
  | some authorization => do
      rejectIf (authorization.status ≠ .pending) .invalidStateTransition
      rejectIf ((db.chargeRequests.lookup chargeRequestId).isSome ∨
        (FinMap.values db.chargeRequests).any fun row =>
          row.chargeId = authorization.chargeId || row.authorizationId = some authorizationId)
        .uniqueConstraint
      return { db with
        chargeAuthorizations := db.chargeAuthorizations.insert authorizationId
          { authorization with status := .ready, signedEntryCiphertext := some ciphertext }
        chargeRequests := db.chargeRequests.insert chargeRequestId
          (newChargeRequest now chargeRequestId authorization) }

end Paymap.Relayer
