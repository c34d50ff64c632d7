import Paymap.Lib.FinMap
import Paymap.Lib.JobQueue
import Paymap.Relayer.Tables

set_option autoImplicit false

/-! # Webhook deliveries

The rows the delivery worker reads and writes, with the guarded transition of
`webhook-state-machine.ts`, the retry schedule and the classification of responses, and the
scheduler that puts due rows into the queue.
-/

namespace Paymap.Webhook

open Relayer (Uuid Time)

/-! ## Rows -/

inductive WebhookDeliveryStatus where
  | pending
  | delivering
  | delivered
  | retryScheduled
  | deadLetter
deriving DecidableEq, Repr

/-- The payload is the event's data, as JSON text. -/
structure WebhookDelivery where
  merchantId : Uuid
  eventId : String
  eventType : String
  payload : String
  attemptCount : ℕ
  nextAttemptAt : Option Time
  status : WebhookDeliveryStatus
  createdAt : Time
deriving DecidableEq

structure Merchant where
  webhookUrl : Option String
  /-- Encrypted. -/
  webhookSecret : Option String
deriving DecidableEq

structure Db where
  webhookDeliveries : FinMap Uuid WebhookDelivery
  merchants : FinMap Uuid Merchant

/-- What a job of the worker may end with instead of an outcome. -/
inductive Thrown where
  | webhookDeliveryNotFound
  | invalidStateTransition
  | databaseError
  | decryptError
  | sendError
  /-- Not an exception: the process is gone. -/
  | crashed
deriving DecidableEq, Repr

/-! ## The state machine (`webhook-state-machine.ts`) -/

/-- `WEBHOOK_DELIVERY_LEGAL_TRANSITIONS`. -/
def legalTransitions : WebhookDeliveryStatus → List WebhookDeliveryStatus
  | .pending => [.delivering]
  | .delivering => [.delivered, .retryScheduled, .deadLetter]
  | .retryScheduled => [.delivering]
  | .delivered => []
  | .deadLetter => []

/-- The columns a transition writes next to the status; `none` leaves a column as it is. -/
structure RowData where
  attemptCount : Option ℕ := none
  nextAttemptAt : Option (Option Time) := none
deriving DecidableEq

def WebhookDelivery.transitioned (row : WebhookDelivery) (target : WebhookDeliveryStatus)
    (data : RowData) : WebhookDelivery :=
  { row with
    status := target
    attemptCount := data.attemptCount.getD row.attemptCount
    nextAttemptAt := data.nextAttemptAt.getD row.nextAttemptAt }

def Db.setDelivery (db : Db) (id : Uuid) (row : WebhookDelivery) : Db :=
  { db with webhookDeliveries := db.webhookDeliveries.insert id row }

/-- The edge must be legal and the row must be in `source`: a guarded `updateMany`. -/
def transitionWebhookDelivery (db : Db) (id : Uuid) (source target : WebhookDeliveryStatus)
    (data : RowData) : Except Thrown Db :=
  if target ∈ legalTransitions source then
    match db.webhookDeliveries.lookup id with
    | some row =>
        if row.status = source then .ok (db.setDelivery id (row.transitioned target data))
        else .error .invalidStateTransition
    | none => .error .invalidStateTransition
  else .error .invalidStateTransition

theorem transitionWebhookDelivery_ok {db db' : Db} {id : Uuid}
    {source target : WebhookDeliveryStatus} {data : RowData} :
    transitionWebhookDelivery db id source target data = .ok db' ↔
      target ∈ legalTransitions source ∧
      ∃ row, db.webhookDeliveries.lookup id = some row ∧ row.status = source ∧
        db' = db.setDelivery id (row.transitioned target data) := by
  unfold transitionWebhookDelivery
  by_cases hlegal : target ∈ legalTransitions source
  · rw [if_pos hlegal]
    cases hrow : db.webhookDeliveries.lookup id with
    | none => simp
    | some row =>
        by_cases hstatus : row.status = source
        · simp [hlegal, hstatus, eq_comm]
        · simp [hstatus]
  · simp [hlegal]

theorem lookup_setDelivery (db : Db) (id id' : Uuid) (row : WebhookDelivery) :
    (db.setDelivery id row).webhookDeliveries.lookup id'
      = if id' = id then some row else db.webhookDeliveries.lookup id' :=
  FinMap.lookup_insert _ _ _ _

/-! ## Retries (`webhook-retry-schedule.ts`) -/

/-- `WEBHOOK_RETRY_DELAYS_MS`. -/
def webhookRetryDelaysMs : List Time := [1, 5, 30, 120, 360].map fun minutes => minutes * 60 * 1000

/-- `MAX_WEBHOOK_ATTEMPTS`. -/
def maxWebhookAttempts : ℕ := webhookRetryDelaysMs.length + 1

/-- `attemptCount` is the number of attempts already made, the one that failed included. -/
def nextWebhookRetryAt (attemptCount : ℕ) (start : Time) : Option Time :=
  match attemptCount with
  | 0 => none
  | n + 1 => webhookRetryDelaysMs[n]?.map (start + ·)

theorem nextWebhookRetryAt_isSome_iff (attemptCount : ℕ) (start : Time) :
    (nextWebhookRetryAt attemptCount start).isSome ↔
      0 < attemptCount ∧ attemptCount < maxWebhookAttempts := by
  cases attemptCount with
  | zero => simp [nextWebhookRetryAt]
  | succ n =>
      have hdue : (nextWebhookRetryAt (n + 1) start).isSome ↔
          n < webhookRetryDelaysMs.length := by
        simp [nextWebhookRetryAt]
      rw [hdue, maxWebhookAttempts]
      omega

/-! ## Responses (`webhook-classify.ts`) -/

inductive WebhookResponseClass where
  | success
  | retryable
  | permanent
deriving DecidableEq, Repr

inductive SendOutcome where
  | http (status : ℕ)
  | timeout
  | networkError (message : String)
  | redirect (status : ℕ) (location : Option String)
  | ssrfBlocked (message : String)
deriving DecidableEq

def classifyWebhookDeliveryOutcome : SendOutcome → WebhookResponseClass
  | .timeout => .retryable
  | .networkError _ => .retryable
  | .redirect _ _ => .permanent
  | .ssrfBlocked _ => .permanent
  | .http status =>
      if 200 ≤ status ∧ status < 300 then .success
      else if status = 408 ∨ status = 429 then .retryable
      else if 500 ≤ status then .retryable
      else .permanent

def describeWebhookDeliveryOutcome : SendOutcome → String
  | .timeout => "TIMEOUT"
  | .networkError message => "NETWORK_ERROR: " ++ message
  | .redirect status location =>
      "REDIRECT_NOT_ALLOWED (status " ++ toString status ++
        (match location with
         | some location =>
             -- an empty location is as good as none
             if location = "" then "" else ", location \"" ++ location ++ "\""
         | none => "") ++ ")"
  | .ssrfBlocked message => "SSRF_BLOCKED: " ++ message
  | .http status => "HTTP_" ++ toString status

/-! ## The scheduler (`webhook-scheduler.ts`, `webhook-queue.ts`) -/

/-- The `where` of `scheduleDueWebhookDeliveries`. -/
def WebhookDelivery.isDue (now : Time) (row : WebhookDelivery) : Bool :=
  row.status = .pending ||
    (row.status = .retryScheduled && row.nextAttemptAt.any fun nextAttemptAt => nextAttemptAt ≤ now)

/-- `removeOnComplete` and `removeOnFail` of a delivery job. -/
def webhookRetention : Retention := ⟨1000, 1000⟩

/-- The job has the id of its row. -/
def enqueueWebhookDelivery (queue : JobQueue Uuid) (webhookDeliveryId : Uuid) : JobQueue Uuid :=
  queue.add webhookDeliveryId

def dueDeliveries (now : Time) (db : Db) : List Uuid :=
  FinMap.keysWhere (WebhookDelivery.isDue now) db.webhookDeliveries

def scheduleDueWebhookDeliveries (now : Time) (db : Db) (queue : JobQueue Uuid) : JobQueue Uuid :=
  (dueDeliveries now db).foldl enqueueWebhookDelivery queue

theorem scheduleDueWebhookDeliveries_eq (now : Time) (db : Db) (queue : JobQueue Uuid) :
    scheduleDueWebhookDeliveries now db queue = queue.addAll (dueDeliveries now db) := rfl

theorem mem_dueDeliveries {now : Time} {db : Db} {id : Uuid} :
    id ∈ dueDeliveries now db ↔
      ∃ row, db.webhookDeliveries.lookup id = some row ∧ row.isDue now = true :=
  FinMap.mem_keysWhere

end Paymap.Webhook
