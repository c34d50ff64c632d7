import Paymap.Lib.Runs
import Paymap.Webhook.Worker

set_option autoImplicit false

/-! # Delivering webhooks

`exec` interleaves any number of delivery workers with the scheduler's ticks, the queue, and those
who write rows and configure endpoints. A worker is started with a job it takes from the queue and
reports how the job ended; a process may be gone at any moment, and then, or when it has merely been
slow, the queue finds that the job has stalled. Each read, write and request may fail (`Reply`).
-/

namespace Paymap.Webhook

open Relayer (Uuid Time)

structure Shared where
  db : Db
  queue : JobQueue Uuid
  /-- The job each worker was started with, until it is reported. -/
  jobs : List (Option Uuid)
  clock : Time

/-- What becomes of an effect of a worker. -/
inductive Reply where
  /-- It is performed and answered; the endpoint, if it is asked, does `outcome`. -/
  | served (outcome : SendOutcome)
  | lost
  /-- It is performed, and its answer does not come back. -/
  | unanswered
deriving DecidableEq

def perform (reply : Reply) : (e : Effect) → Shared → Answer e × Shared
  | .now, s => (s.clock, s)
  | .findWebhookDelivery id, s =>
      match reply with
      | .served _ => (.ok (s.db.webhookDeliveries.lookup id), s)
      | _ => (.error .databaseError, s)
  | .findMerchant id, s =>
      match reply with
      | .served _ => (.ok (s.db.merchants.lookup id), s)
      | _ => (.error .databaseError, s)
  | .transition id source target data, s =>
      match reply, transitionWebhookDelivery s.db id source target data with
      | .lost, _ => (.error .databaseError, s)
      | .unanswered, .ok db => (.error .databaseError, { s with db := db })
      | .unanswered, .error _ => (.error .databaseError, s)
      | .served _, .ok db => (.ok (), { s with db := db })
      | .served _, .error e => (.error e, s)
  | .send _, s =>
      match reply with
      | .served outcome => (some outcome, s)
      | _ => (none, s)

inductive Action where
  /-- A row is written: `enqueueChargeWebhook`, or `POST /webhook-endpoints/test`. -/
  | create (id merchantId : Uuid) (eventId eventType payload : String)
  | setMerchant (id : Uuid) (merchant : Merchant)
  | tick (ms : ℕ)
  /-- A tick of the scheduler, as one step: it reads the rows that are due and adds all their jobs. -/
  | schedule
  /-- A worker takes a waiting job. -/
  | take (webhookDeliveryId : Uuid)
  | work (worker : ℕ) (reply : Reply)
  | crash (worker : ℕ)
  /-- A worker that has come to the end of its job reports it to the queue. -/
  | report (worker : ℕ)
  /-- An active job has stalled and waits again, or has stalled too often and fails. -/
  | stall (webhookDeliveryId : Uuid)
  | stallFail (webhookDeliveryId : Uuid)

abbrev System := Workers Shared (Worker WebhookDeliveryOutcome)

/-- A new row; its id and its event id are unique. -/
def createDelivery (now : Time) (db : Db) (id merchantId : Uuid)
    (eventId eventType payload : String) : Db :=
  if (db.webhookDeliveries.lookup id).isSome ∨
      (FinMap.values db.webhookDeliveries).any (fun row => row.eventId = eventId) then db
  else db.setDelivery id ⟨merchantId, eventId, eventType, payload, 0, none, .pending, now⟩

/-- How the job of a worker has ended; a process that is gone reports nothing. -/
def ending? : Worker WebhookDeliveryOutcome → Option Ending
  | .ret _ => some .completed
  | .raise .crashed => none
  | .raise _ => some .failed
  | .call _ _ => none

/-- The job that a worker reports, and how it has ended. -/
def reported? (s : System) (worker : ℕ) : Option (Uuid × Ending) := do
  let id ← s.shared.jobs[worker]?.join
  let ending ← (s.running[worker]?).bind ending?
  return (id, ending)

/-- What an action does that is not a worker's step. -/
def outsideEffect (s : System) : Action → Shared
  | .create id merchantId eventId eventType payload =>
      { s.shared with
        db := createDelivery s.shared.clock s.shared.db id merchantId eventId eventType payload }
  | .setMerchant id merchant =>
      { s.shared with
        db := { s.shared.db with merchants := s.shared.db.merchants.insert id merchant } }
  | .tick ms => { s.shared with clock := s.shared.clock + ms }
  | .schedule =>
      { s.shared with
        queue := scheduleDueWebhookDeliveries s.shared.clock s.shared.db s.shared.queue }
  | .take id => { s.shared with queue := s.shared.queue.take id, jobs := s.shared.jobs ++ [some id] }
  | .report worker =>
      match reported? s worker with
      | some (id, ending) =>
          { s.shared with
            queue := s.shared.queue.finish webhookRetention id ending
            jobs := s.shared.jobs.set worker none }
      | none => s.shared
  | .stall id => { s.shared with queue := s.shared.queue.release id }
  | .stallFail id =>
      { s.shared with queue := s.shared.queue.finish webhookRetention id .failed }
  | .work _ _ => s.shared
  | .crash _ => s.shared

def exec (deps : WebhookDeliveryDeps) (s : System) : Action → System
  | .work worker reply => s.work (perform reply) worker
  | .crash worker => s.stop .crashed worker
  | .take id =>
      if id ∈ s.shared.queue.waiting then
        Workers.start (processWebhookDelivery deps id) { s with shared := outsideEffect s (.take id) }
      else s
  | action => { s with shared := outsideEffect s action }

/-- No row, no job, no worker. -/
def initial : System := ⟨⟨⟨∅, ∅⟩, .empty, [], 0⟩, []⟩

abbrev run (deps : WebhookDeliveryDeps) (s : System) (actions : List Action) : System :=
  Runs.run (exec deps) s actions

end Paymap.Webhook
