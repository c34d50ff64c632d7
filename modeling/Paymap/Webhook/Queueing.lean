import Paymap.Webhook.System

set_option autoImplicit false

/-! # Is a due delivery in the queue?

Two stores have to agree. A row says when it is to be attempted next; the queue takes a job for it
only if it has none of that id, and it still has those that have ended lately. An attempt that is to
be repeated ends its job as completed, so when the row is due a minute later the scheduler's `add`
does nothing. The last theorem says exactly when a tick puts all due rows into the queue: when a
thousand other jobs have ended since.
-/

namespace Paymap.Webhook

open Relayer (Uuid)

/-- Every due row has a waiting or an active job. -/
def DueQueued (s : System) : Prop :=
  ∀ id row, s.shared.db.webhookDeliveries.lookup id = some row →
    row.isDue s.shared.clock = true → s.shared.queue.Live id

/-! ## The jobs that have ended -/

/-- The job that ends in a step. -/
def endings (s : System) : Action → List (Uuid × Ending)
  | .report worker =>
      match reported? s worker with
      | some (id, ending) => if id ∈ s.shared.queue.active then [(id, ending)] else []
      | none => []
  | .stallFail id => if id ∈ s.shared.queue.active then [(id, .failed)] else []
  | _ => []

/-- The jobs that have ended like this, the newest first. -/
def newest (ending : Ending) (h : List (Uuid × Ending)) : List Uuid :=
  ((h.filter fun entry => entry.2 = ending).map Prod.fst).reverse

/-- The jobs that have ended like this in a run, the newest first. -/
def ended (deps : WebhookDeliveryDeps) (actions : List Action) (ending : Ending) : List Uuid :=
  newest ending (Runs.notes (exec deps) endings initial actions)

theorem newest_append (ending : Ending) (h : List (Uuid × Ending)) (id : Uuid) :
    newest ending (h ++ [(id, ending)]) = id :: newest ending h := by
  simp [newest]

theorem newest_append_of_ne {ending ending' : Ending} (hne : ending' ≠ ending)
    (h : List (Uuid × Ending)) (id : Uuid) :
    newest ending (h ++ [(id, ending')]) = newest ending h := by
  simp [newest, hne]

/-! ## What the queue retains -/

/-- The queue has one job of each id, and retains the jobs that have ended last. -/
structure QueueKept (queue : JobQueue Uuid) (h : List (Uuid × Ending)) : Prop where
  distinct : queue.Distinct
  retains : JobQueue.Retains webhookRetention queue (newest .completed h) (newest .failed h)

theorem QueueKept.finish {queue : JobQueue Uuid} {h : List (Uuid × Ending)}
    (hk : QueueKept queue h) (id : Uuid) (ending : Ending) :
    QueueKept (queue.finish webhookRetention id ending)
      (h ++ if id ∈ queue.active then [(id, ending)] else []) := by
  refine ⟨hk.distinct.finish _ id ending, ?_⟩
  by_cases hactive : id ∈ queue.active
  · rw [if_pos hactive]
    cases ending with
    | completed =>
        rw [newest_append, newest_append_of_ne (by simp)]
        exact hk.retains.finish_completed hactive
    | failed =>
        rw [newest_append, newest_append_of_ne (by simp)]
        exact hk.retains.finish_failed hactive
  · rw [if_neg hactive, List.append_nil, JobQueue.finish_eq_self hactive]
    exact hk.retains

theorem QueueKept.take {queue : JobQueue Uuid} {h : List (Uuid × Ending)} (hk : QueueKept queue h)
    (id : Uuid) : QueueKept (queue.take id) h := by
  refine ⟨hk.distinct.take id, hk.retains.frame ?_ ?_⟩ <;>
    (unfold JobQueue.take; split <;> rfl)

theorem QueueKept.release {queue : JobQueue Uuid} {h : List (Uuid × Ending)}
    (hk : QueueKept queue h) (id : Uuid) : QueueKept (queue.release id) h := by
  refine ⟨hk.distinct.release id, hk.retains.frame ?_ ?_⟩ <;>
    (unfold JobQueue.release; split <;> rfl)

/-- An action that ends no job notes none. -/
theorem QueueKept.unended {queue : JobQueue Uuid} {h : List (Uuid × Ending)}
    (hk : QueueKept queue h) : QueueKept queue (h ++ []) := by
  rw [List.append_nil]
  exact hk

theorem QueueKept.addAll {queue : JobQueue Uuid} {h : List (Uuid × Ending)}
    (hk : QueueKept queue h) (ids : List Uuid) : QueueKept (queue.addAll ids) h :=
  ⟨hk.distinct.addAll ids, hk.retains.frame (queue.ended_addAll ids).1 (queue.ended_addAll ids).2⟩

/-- A worker's effects leave the queue alone. -/
theorem perform_queue (reply : Reply) (e : Effect) (s : Shared) :
    (perform reply e s).2.queue = s.queue := by
  cases e with
  | transition id source target data =>
      simp only [perform]
      split <;> rfl
  | _ =>
      simp only [perform]
      try split
      all_goals rfl

/-- **What one action does to the queue**, and which job it ends. -/
theorem queueKept_exec (deps : WebhookDeliveryDeps) (q : System × List (Uuid × Ending))
    (action : Action) (hk : QueueKept q.1.shared.queue q.2) :
    QueueKept (exec deps q.1 action).shared.queue (q.2 ++ endings q.1 action) := by
  cases action with
  | report worker =>
      simp only [exec, outsideEffect, endings]
      cases reported? q.1 worker with
      | some job => exact hk.finish job.1 job.2
      | none => exact hk.unended
  | stallFail id => exact hk.finish id .failed
  | stall id => exact (hk.release id).unended
  | schedule => exact (hk.addAll _).unended
  | take id =>
      apply QueueKept.unended
      simp only [exec]
      split
      · exact hk.take id
      · exact hk
  | work worker reply =>
      apply QueueKept.unended
      simp only [exec]
      rcases Workers.work_cases (perform reply) worker q.1 with hidle | ⟨e, k, -, hstep⟩
      · rw [hidle]
        exact hk
      · rw [hstep, perform_queue]
        exact hk
  | _ => exact hk.unended

theorem queueKept_run (deps : WebhookDeliveryDeps) (actions : List Action) :
    QueueKept (run deps initial actions).shared.queue
      (Runs.notes (exec deps) endings initial actions) := by
  have hrun := @Runs.run_invariant _ _ (Runs.noting (exec deps) endings)
    (fun q : System × List (Uuid × Ending) => QueueKept q.1.shared.queue q.2)
    (queueKept_exec deps) (initial, [])
    ⟨JobQueue.distinct_empty, JobQueue.retains_empty _⟩ actions
  rw [Runs.run_noting] at hrun
  exact hrun

/-! ## A tick of the scheduler -/

/-- **When are all due rows in the queue?** After a tick, in any run: exactly when the job of no due
row is among the last thousand that have completed, or among the last thousand that have failed. -/
theorem due_queued_iff (deps : WebhookDeliveryDeps) (actions : List Action) :
    DueQueued (exec deps (run deps initial actions) .schedule) ↔
      ∀ id row, (run deps initial actions).shared.db.webhookDeliveries.lookup id = some row →
        row.isDue (run deps initial actions).shared.clock = true →
        id ∉ (ended deps actions .completed).take 1000 ∧
          id ∉ (ended deps actions .failed).take 1000 := by
  obtain ⟨hdistinct, hretains⟩ := queueKept_run deps actions
  generalize hs : run deps initial actions = s at *
  have htick : (exec deps s .schedule).shared.queue
      = s.shared.queue.addAll (dueDeliveries s.shared.clock s.shared.db) :=
    scheduleDueWebhookDeliveries_eq _ _ _
  have hlive : ∀ id, (exec deps s .schedule).shared.queue.Live id ↔ s.shared.queue.Live id ∨
      (id ∈ dueDeliveries s.shared.clock s.shared.db ∧ ¬ s.shared.queue.Retained id) := by
    intro id
    rw [htick]
    exact JobQueue.live_addAll _ id
  have hretained : ∀ id, ¬ s.shared.queue.Retained id ↔
      id ∉ (ended deps actions .completed).take 1000 ∧
        id ∉ (ended deps actions .failed).take 1000 := by
    intro id
    rw [hretains.retained_iff, not_or]
    rfl
  constructor
  · intro hqueued id row hrow hdue
    rw [← hretained]
    rcases (hlive id).mp (hqueued id row hrow hdue) with hlive | ⟨-, hnot⟩
    · -- the job was already there, and one id is not both live and ended
      exact hdistinct.not_retained hlive
    · exact hnot
  · intro hnone id row hrow hdue
    refine (hlive id).mpr (.inr ⟨mem_dueDeliveries.mpr ⟨row, hrow, hdue⟩, ?_⟩)
    exact (hretained id).mpr (hnone id row hrow hdue)

/-! ## A retry that is not queued -/

section

def mockDeps : WebhookDeliveryDeps := ⟨"key", fun stored _ => .ok stored, false, false⟩

/-- A row and an endpoint for it, and a worker that takes its job. -/
def mockStart : List Action :=
  [.create 1 1 "event" "webhook.test" "null", .setMerchant 1 ⟨some "https://m", some "secret"⟩,
    .schedule, .take 1]

/-- The endpoint answers with an error of its own, and the row is to be attempted again. -/
def mockRetry : List Action :=
  mockStart ++ List.replicate 7 (.work 0 (.served (.http 500))) ++ [.report 0]

set_option maxRecDepth 4000 in
/-- **The retry is due and not in the queue.** -/
theorem retry_not_queued :
    ¬ DueQueued (exec mockDeps (run mockDeps initial (mockRetry ++ [.tick 60000])) .schedule) := by
  intro h
  have hrow : (exec mockDeps (run mockDeps initial (mockRetry ++ [.tick 60000]))
      .schedule).shared.db.webhookDeliveries.lookup 1
      = some ⟨1, "event", "webhook.test", "null", 1, some 60000, .retryScheduled, 0⟩ := by decide
  have hnot : ¬ (exec mockDeps (run mockDeps initial (mockRetry ++ [.tick 60000]))
      .schedule).shared.queue.Live 1 := by decide
  exact hnot (h 1 _ hrow (by decide))

end

end Paymap.Webhook
