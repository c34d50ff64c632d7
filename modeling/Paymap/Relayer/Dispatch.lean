import Paymap.Lib.JobQueue
import Paymap.Relayer.Attempts

set_option autoImplicit false

/-! # Jobs and retries

The queue between the scheduler and the workers of the pipeline (`scheduler.ts`, `queue.ts`,
`worker.ts`). A tick recovers stale work, reads what is due, and adds a job for each request it has
read, one after the other and in its own time; any number of ticks may be under way. A job has the id
of its request, and when it has ended, in whatever way, its id is free again. A worker that has taken
a job runs the pipeline for its request. The process of a worker may be gone at any moment, and a job
whose worker is gone, or only slow, may be found stalled.

A claim looks at the status of the row and at no clock, so a retry is as punctual as the queue. As long
as a job is put into the queue only when its request may be claimed, and is not given to a second worker
while the first one is at it, no request is claimed before the time that its last failure has set.
-/

namespace Paymap.Relayer.Dispatch

open Registry (Host)

/-! ## Ticks -/

/-- A tick that has recovered stale work. -/
inductive Tick where
  /-- It is about to read what was due at `now`. -/
  | reading (now : Time)
  /-- These are still to be added to the queue. -/
  | enqueuing (due : List Uuid)

/-- What `scheduleDueChargeRequests` finds. -/
def dueChargeRequests (now : Time) (db : Db) : List Uuid :=
  FinMap.keysWhere (fun row =>
    (row.status = .scheduled ∧ row.scheduledFor ≤ now) ∨
      (row.status = .retryableFailed ∧ row.nextAttemptAt.any fun t => t ≤ now)) db.chargeRequests

/-- `removeOnComplete` and `removeOnFail`. -/
def chargeRetention : Retention := ⟨0, 0⟩

/-! ## The system -/

structure Shared (T : Type) where
  relayer : Relayer.Shared T
  queue : JobQueue Uuid
  /-- The job of each worker; nothing when it is reported or the process is gone. -/
  jobs : List (Option Uuid)
  ticks : List Tick

abbrev System (T : Type) := Workers (Shared T) (Pipeline PipelineOutcome)

section

variable {T : Type}

def perform (host : Host T) (reply : Reply) (e : Effect) (s : Shared T) : Answer e × Shared T :=
  ((Relayer.perform host reply e s.relayer).1,
    { s with relayer := (Relayer.perform host reply e s.relayer).2 })

inductive Action (T : Type) where
  /-- A tick recovers stale work. -/
  | startTick
  /-- It reads, or it adds its next job. -/
  | stepTick (tick : ℕ)
  /-- A worker takes a waiting job. -/
  | take (chargeRequestId : Uuid)
  | work (worker : ℕ) (reply : Reply)
  /-- A worker that has come to the end of its job reports it to the queue. -/
  | report (worker : ℕ)
  /-- The process of a worker is gone. -/
  | crash (worker : ℕ)
  /-- An active job has stalled and waits again, or has stalled too often and fails. -/
  | stall (chargeRequestId : Uuid)
  | stallFail (chargeRequestId : Uuid)
  /-- Whatever happens outside the workers. -/
  | outside (action : Relayer.Action T)

/-- How the job of a worker has ended. -/
def ending? : Pipeline PipelineOutcome → Option Ending
  | .ret _ => some .completed
  | .raise _ => some .failed
  | .call _ _ => none

/-- The job that a worker reports, and how it has ended. -/
def reported? (s : System T) (worker : ℕ) : Option (Uuid × Ending) := do
  let id ← s.shared.jobs[worker]?.join
  let ending ← (s.running[worker]?).bind ending?
  return (id, ending)

/-- A tick takes its next step. -/
def Shared.stepTick (s : Shared T) (tick : ℕ) : Shared T :=
  match s.ticks[tick]? with
  | some (.reading now) =>
      { s with ticks := s.ticks.set tick (.enqueuing (dueChargeRequests now s.relayer.db)) }
  | some (.enqueuing (id :: due)) =>
      { s with queue := s.queue.add id, ticks := s.ticks.set tick (.enqueuing due) }
  | _ => s

/-- What an action does that is not a worker's step. -/
def outsideEffect (host : Host T) (s : System T) : Action T → Shared T
  | .startTick =>
      { s.shared with
        relayer := Relayer.outsideEffect host .recoverStale s.shared.relayer
        ticks := s.shared.ticks ++ [.reading s.shared.relayer.clock] }
  | .stepTick tick => s.shared.stepTick tick
  | .take id => { s.shared with queue := s.shared.queue.take id, jobs := s.shared.jobs ++ [some id] }
  | .work _ _ => s.shared
  | .report worker =>
      match reported? s worker with
      | some (id, ending) =>
          { s.shared with
            queue := s.shared.queue.finish chargeRetention id ending
            jobs := s.shared.jobs.set worker none }
      | none => s.shared
  | .crash worker => { s.shared with jobs := s.shared.jobs.set worker none }
  | .stall id => { s.shared with queue := s.shared.queue.release id }
  | .stallFail id => { s.shared with queue := s.shared.queue.finish chargeRetention id .failed }
  | .outside action =>
      { s.shared with relayer := Relayer.outsideEffect host action s.shared.relayer }

def exec (host : Host T) (deps : PipelineDeps) (s : System T) : Action T → System T
  | .take id =>
      if id ∈ s.shared.queue.waiting then
        Workers.start (processChargeRequest deps id) { s with shared := outsideEffect host s (.take id) }
      else s
  | .work worker reply =>
      match s.shared.jobs[worker]? with
      | some (some _) => s.work (perform host reply) worker
      | _ => s
  | action => { s with shared := outsideEffect host s action }

/-- No row, no job, no worker. -/
def initial (t₀ : U64) (tok₀ : T) : System T :=
  ⟨⟨(Relayer.initial t₀ tok₀).shared, .empty, [], []⟩, []⟩

abbrev run (host : Host T) (deps : PipelineDeps) (s : System T) (actions : List (Action T)) :
    System T := Runs.run (exec host deps) s actions

end

/-! ## Who may be claimed -/

/-- The request is not waiting for a later attempt. -/
def mayBeClaimed (db : Db) (now : Time) (id : Uuid) : Bool :=
  match db.chargeRequests.lookup id with
  | none => true
  | some row => row.status ≠ .retryableFailed || row.nextAttemptAt.any fun t => t ≤ now

section

variable {db db' : Db} {now now' at' : Time} {id : Uuid}

theorem mayBeClaimed_iff :
    mayBeClaimed db now id = true ↔ ∀ row, db.chargeRequests.lookup id = some row →
      row.status = .retryableFailed → ∃ t, row.nextAttemptAt = some t ∧ t ≤ now := by
  unfold mayBeClaimed
  cases db.chargeRequests.lookup id with
  | none => simp
  | some row =>
      simp only [Bool.or_eq_true, decide_eq_true_eq, Option.some.injEq, forall_eq',
        Option.any_eq_true]
      exact (Decidable.imp_iff_not_or).symm

theorem mayBeClaimed_mono (hle : now ≤ now') (h : mayBeClaimed db now id = true) :
    mayBeClaimed db now' id = true := by
  rw [mayBeClaimed_iff] at h ⊢
  intro row hrow hstatus
  obtain ⟨t, ht, htime⟩ := h row hrow hstatus
  exact ⟨t, ht, htime.trans hle⟩

theorem mayBeClaimed_congr (h : db'.chargeRequests.lookup id = db.chargeRequests.lookup id) :
    mayBeClaimed db' now id = mayBeClaimed db now id := by
  unfold mayBeClaimed
  rw [h]


/-- The statement sets the next attempt of this request. -/
def putsOff (id : Uuid) : Statement → Bool
  | .transition id' _ target _ => id' = id && target = .retryableFailed
  | _ => false

/-- A row that is written with what it says of its next attempt, or with another status. -/
theorem mayBeClaimed_set {id' : Uuid} {row row' : ChargeRequest}
    (hrow : db.chargeRequests.lookup id' = some row)
    (hrow' : id' = id → row'.status ≠ .retryableFailed ∨
      (row'.status = row.status ∧ row'.nextAttemptAt = row.nextAttemptAt))
    (h : mayBeClaimed db now id = true) :
    mayBeClaimed (db.setChargeRequest id' row') now id = true := by
  rw [mayBeClaimed_iff] at h ⊢
  intro stored hstored hstatus
  change (db.chargeRequests.insert id' row').lookup id = some stored at hstored
  rw [FinMap.lookup_insert] at hstored
  by_cases hid : id = id'
  · subst hid
    rw [if_pos rfl] at hstored
    obtain rfl := Option.some.inj hstored
    rcases hrow' rfl with hne | ⟨hsame, hnext⟩
    · exact absurd hstatus hne
    · rw [hnext]
      exact h row hrow (hsame.symm.trans hstatus)
  · rw [if_neg hid] at hstored
    exact h stored hstored hstatus

theorem exec_mayBeClaimed {statement : Statement} (hno : putsOff id statement = false)
    (hok : statement.exec at' db = .ok db') (h : mayBeClaimed db now id = true) :
    mayBeClaimed db' now id = true := by
  have hcongr : db'.chargeRequests = db.chargeRequests → mayBeClaimed db' now id = true :=
    fun hsame => (mayBeClaimed_congr (congrArg (·.lookup id) hsame)).trans h
  cases statement with
  | transition id' source target data =>
      obtain ⟨-, row, hrow, -, rfl⟩ := transitionChargeRequest_ok.mp hok
      refine mayBeClaimed_set hrow (fun hid => .inl ?_) h
      show target ≠ .retryableFailed
      simpa [putsOff, hid] using hno
  | setTransactionHash id' hash =>
      simp only [Statement.exec, setTransactionHash] at hok
      split at hok
      · rename_i row hrow
        cases hok
        exact mayBeClaimed_set hrow (fun _ => .inr ⟨rfl, rfl⟩) h
      · cases hok
  | createPayment payment => exact hcongr (exec_requests rfl hok)
  | updateAuthorization id' status consumedAt => exact hcongr (exec_requests rfl hok)
  | createDelivery delivery => exact hcongr (exec_requests rfl hok)

theorem transact_mayBeClaimed {statements : List Statement}
    (hno : ∀ statement ∈ statements, putsOff id statement = false)
    (hok : transact at' statements db = .ok db') (h : mayBeClaimed db now id = true) :
    mayBeClaimed db' now id = true := by
  induction statements generalizing db with
  | nil =>
      obtain rfl := transact_nil_ok.mp hok
      exact h
  | cons statement rest ih =>
      obtain ⟨db₁, hfirst, hrest⟩ := transact_cons_ok.mp hok
      have hmid := exec_mayBeClaimed (hno statement List.mem_cons_self) hfirst h
      exact ih (fun st hst => hno st (List.mem_cons_of_mem _ hst)) hrest hmid

theorem putsOff_of_writesRequest {statement : Statement}
    (hno : statement.writesRequest = false) : putsOff id statement = false := by
  cases statement with
  | transition => cases hno
  | _ => rfl

/-- Recovery makes requests due at once. -/
theorem mayBeClaimed_recover (hle : at' ≤ now) (h : mayBeClaimed db now id = true) :
    mayBeClaimed (recoverStalePreSubmissionCharges at' db) now id = true := by
  rw [mayBeClaimed_iff] at h ⊢
  intro row hrow hstatus
  unfold recoverStalePreSubmissionCharges at hrow
  rw [FinMap.lookup_mapValues, Option.map_eq_some_iff] at hrow
  obtain ⟨before, hbefore, rfl⟩ := hrow
  unfold ChargeRequest.recovered at hstatus ⊢
  split
  · exact ⟨at', rfl, hle⟩
  · rename_i hfresh
    rw [if_neg hfresh] at hstatus
    exact h before hbefore hstatus

end

/-! ## What a worker does to it -/

section

variable {T : Type} {host : Host T} {reply : Reply} {s s' : Relayer.Shared T} {p p' : Phase}
  {e : Effect}

/-- A worker that has not claimed its request yet. -/
def opening? : Phase → Option Uuid
  | .fresh id => some id
  | .found id _ => some id
  | _ => none

/-- A worker puts off no request but the one it has claimed. -/
theorem worked_mayBeClaimed (hw : Worked reply s p e s' p') {id : Uuid} {now : Time}
    (hother : ∀ row, p.claimed? ≠ some (id, row)) (h : mayBeClaimed s.db now id = true) :
    mayBeClaimed s'.db now id = true := by
  cases hw with
  | claim id' row db hdb =>
      exact transact_mayBeClaimed (by simp [claim, putsOff]) hdb h
  | expire id' row mandate authorizationId db hdb =>
      exact transact_mayBeClaimed (by simp [putsOff]) hdb h
  | simulate id' row mandate db hdb => exact transact_mayBeClaimed (by simp [putsOff]) hdb h
  | submit id' row mandate db hdb => exact transact_mayBeClaimed (by simp [putsOff]) hdb h
  | setHash id' row mandate error hash db hdb =>
      exact transact_mayBeClaimed (by simp [putsOff]) hdb h
  | retry p id' row source classified time nextAttemptAt db hfails hdue hdb =>
      refine transact_mayBeClaimed ?_ hdb h
      intro statement hmem
      obtain rfl := List.mem_singleton.mp hmem
      have hne : id' ≠ id := by
        rintro rfl
        exact hother row hfails.claimed
      simp [putsOff, hne]
  | giveUp p id' row source classified time db hfails hexhausted hdb =>
      exact transact_mayBeClaimed (by simp [failPermanently, putsOff]) hdb h
  | succeed id' row mandate receipt txHash ledger time db hdb =>
      refine transact_mayBeClaimed (fun statement hmem => ?_) hdb h
      obtain ⟨rest, hbody, hrest⟩ :=
        recordSuccess_eq id' row mandate receipt txHash ledger time
      rw [hbody] at hmem
      rcases List.mem_append.mp hmem with hmem | hmem
      · obtain rfl := List.mem_singleton.mp hmem
        rfl
      · rcases List.mem_cons.mp hmem with rfl | hmem
        · simp [putsOff]
        · exact putsOff_of_writesRequest (hrest statement hmem)
  | _ => exact h

theorem worked_clock (hw : Worked reply s p e s' p') : s'.clock = s.clock := by
  cases hw <;> rfl

/-- The worker goes on with the request that it was started for. -/
theorem worked_request (hw : Worked reply s p e s' p') :
    (∀ id, p'.request? = some id → p.request? = some id) ∧
      ∀ id, opening? p' = some id → opening? p = some id := by
  cases hw with
  | idle => exact ⟨fun _ h => h, fun _ h => h⟩
  | find => exact ⟨fun _ h => h, fun _ h => h⟩
  | _ => refine ⟨fun id h => ?_, fun id h => ?_⟩ <;> first | exact h | cases h

end

/-! ## What holds while jobs are given out in time -/

section

variable {T : Type} {host : Host T}

/-- The request may be claimed now. -/
def Shared.allows (s : Shared T) (id : Uuid) : Bool :=
  mayBeClaimed s.relayer.db s.relayer.clock id

/-- A worker has the job of this request. -/
def Shared.atWork (s : Shared T) (id : Uuid) : Bool := s.jobs.contains (some id)

/-- A job is added, or waits again, only when its request may be claimed, and it is taken away only
from a worker that is gone. -/
def inTime (s : System T) : Action T → Bool
  | .stepTick tick =>
      match s.shared.ticks[tick]? with
      | some (.enqueuing (id :: _)) => s.shared.queue.ids.contains id || s.shared.allows id
      | _ => true
  | .stall id =>
      !s.shared.queue.active.contains id || (s.shared.allows id && !s.shared.atWork id)
  | .stallFail id => !s.shared.queue.active.contains id || !s.shared.atWork id
  | _ => true

/-- A job is with at most one worker, and until that worker has claimed the request it may be. -/
structure Punctual (s : Shared T) (phases : List Phase) : Prop where
  distinct : s.queue.Distinct
  length_eq : phases.length = s.jobs.length
  active : ∀ (i : ℕ) id, s.jobs[i]? = some (some id) → id ∈ s.queue.active
  unique : ∀ (i j : ℕ) id, s.jobs[i]? = some (some id) → s.jobs[j]? = some (some id) → i = j
  request : ∀ (i : ℕ) id p, s.jobs[i]? = some (some id) → phases[i]? = some p →
    ∀ id', p.request? = some id' → id' = id
  waiting : ∀ id ∈ s.queue.waiting, s.allows id = true
  opening : ∀ (i : ℕ) id p, s.jobs[i]? = some (some id) → phases[i]? = some p → opening? p = some id →
    s.allows id = true

variable {s s' : Shared T} {phases : List Phase}

/-- The tables have changed, and the queue perhaps, but for the jobs of the workers. -/
theorem Punctual.frame (h : Punctual s phases) (hjobs : s'.jobs = s.jobs)
    (hdistinct : s'.queue.Distinct) (hactive : ∀ (i : ℕ) id, s.jobs[i]? = some (some id) →
      id ∈ s.queue.active → id ∈ s'.queue.active)
    (hwaiting : ∀ id ∈ s'.queue.waiting, id ∈ s.queue.waiting ∨ s'.allows id = true)
    (hallows : ∀ id, s.allows id = true → s'.allows id = true) : Punctual s' phases where
  distinct := hdistinct
  length_eq := by rw [hjobs, h.length_eq]
  active i id hi := by
    rw [hjobs] at hi
    exact hactive i id hi (h.active i id hi)
  unique i j id hi hj := h.unique i j id (hjobs ▸ hi) (hjobs ▸ hj)
  request i id p hi := h.request i id p (hjobs ▸ hi)
  waiting id hid := (hwaiting id hid).elim (fun hold => hallows id (h.waiting id hold)) fun h => h
  opening i id p hi hp hopen := hallows id (h.opening i id p (hjobs ▸ hi) hp hopen)

/-- A worker's job is nobody's any more. -/
theorem Punctual.drop (h : Punctual s phases) {worker : ℕ} {q : JobQueue Uuid}
    (hdistinct : q.Distinct) (hactive : ∀ (i : ℕ) id, i ≠ worker → s.jobs[i]? = some (some id) →
      id ∈ s.queue.active → id ∈ q.active)
    (hwaiting : q.waiting = s.queue.waiting) :
    Punctual { s with queue := q, jobs := s.jobs.set worker none } phases := by
  have hold : ∀ {i : ℕ} {id : Uuid}, (s.jobs.set worker none)[i]? = some (some id) →
      i ≠ worker ∧ s.jobs[i]? = some (some id) := by
    intro i id hi
    rcases Workers.getElem?_set_cases hi with ⟨-, hnone⟩ | hother
    · cases hnone
    · exact hother
  exact
    { distinct := hdistinct
      length_eq := by rw [List.length_set, h.length_eq]
      active := fun i id hi => hactive i id (hold hi).1 (hold hi).2 (h.active i id (hold hi).2)
      unique := fun i j id hi hj => h.unique i j id (hold hi).2 (hold hj).2
      request := fun i id p hi => h.request i id p (hold hi).2
      waiting := fun id hid => h.waiting id (hwaiting ▸ hid)
      opening := fun i id p hi => h.opening i id p (hold hi).2 }

/-- A worker takes a waiting job. -/
theorem Punctual.take (h : Punctual s phases) {id : Uuid} (hid : id ∈ s.queue.waiting) :
    Punctual { s with queue := s.queue.take id, jobs := s.jobs ++ [some id] }
      (phases ++ [.fresh id]) := by
  -- nobody has the job yet, as it is waiting
  have hnobody : ∀ i : ℕ, s.jobs[i]? ≠ some (some id) := by
    intro i hi
    have hnodup := (List.nodup_append.mp (List.nodup_append.mp h.distinct).1).2.2
    exact hnodup id hid id (h.active i id hi) rfl
  have htake : s.queue.take id
      = { s.queue with waiting := s.queue.waiting.erase id, active := s.queue.active ++ [id] } :=
    if_pos hid
  have hcases : ∀ {i : ℕ} {id' : Uuid}, (s.jobs ++ [some id])[i]? = some (some id') →
      s.jobs[i]? = some (some id') ∨ (i = s.jobs.length ∧ id' = id) := by
    intro i id' hi
    rw [List.getElem?_append] at hi
    split_ifs at hi with hlt
    · exact .inl hi
    · have hlast := List.getElem?_eq_some_iff.mp hi
      obtain ⟨hbound, hlast⟩ := hlast
      rw [List.length_singleton] at hbound
      have hmem : some id' = some id := List.mem_singleton.mp (List.mem_of_getElem? hi)
      exact .inr ⟨by omega, Option.some.inj hmem⟩
  have hphase : ∀ {i : ℕ} {p : Phase}, (phases ++ [.fresh id])[i]? = some p →
      (i < s.jobs.length ∧ phases[i]? = some p) ∨ (i = s.jobs.length ∧ p = .fresh id) := by
    intro i p hi
    rw [List.getElem?_append, h.length_eq] at hi
    split_ifs at hi with hlt
    · exact .inl ⟨hlt, hi⟩
    · have hbound := (List.getElem?_eq_some_iff.mp hi).1
      rw [List.length_singleton] at hbound
      exact .inr ⟨by omega, List.mem_singleton.mp (List.mem_of_getElem? hi)⟩
  have hlt : ∀ {i : ℕ} {id' : Uuid}, s.jobs[i]? = some (some id') → i < s.jobs.length :=
    fun hi => (List.getElem?_eq_some_iff.mp hi).1
  refine ⟨h.distinct.take id, by simp [h.length_eq], fun i id' hi => ?_, fun i j id' hi hj => ?_,
    fun i id' p hi hp => ?_, fun id' hid' => ?_, fun i id' p hi hp hopen => ?_⟩
  · show id' ∈ (s.queue.take id).active
    rw [htake]
    rcases hcases hi with hold | ⟨-, rfl⟩
    · exact List.mem_append_left _ (h.active i id' hold)
    · exact List.mem_append_right _ (List.mem_singleton_self _)
  · rcases hcases hi with holdi | ⟨hi', hid'⟩
    · rcases hcases hj with holdj | ⟨-, hid'⟩
      · exact h.unique i j id' holdi holdj
      · exact absurd holdi (hid' ▸ hnobody i)
    · rcases hcases hj with holdj | ⟨hj', -⟩
      · exact absurd holdj (hid' ▸ hnobody j)
      · exact hi'.trans hj'.symm
  · rcases hcases hi with hi | ⟨rfl, rfl⟩
    · rcases hphase hp with ⟨-, hp⟩ | ⟨rfl, -⟩
      · exact h.request i id' p hi hp
      · exact absurd (hlt hi) (lt_irrefl _)
    · rcases hphase hp with ⟨hlt', -⟩ | ⟨-, rfl⟩
      · exact absurd hlt' (lt_irrefl _)
      · rintro _ ⟨⟩
        rfl
  · change id' ∈ (s.queue.take id).waiting at hid'
    rw [htake] at hid'
    exact h.waiting id' (List.mem_of_mem_erase hid')
  · rcases hcases hi with hi | ⟨-, rfl⟩
    · rcases hphase hp with ⟨-, hp⟩ | ⟨rfl, -⟩
      · exact h.opening i id' p hi hp hopen
      · exact absurd (hlt hi) (lt_irrefl _)
    · exact h.waiting _ hid

/-- What happens outside the workers puts off no request. -/
theorem outside_allows (action : Relayer.Action T) {s : Relayer.Shared T} {id : Uuid}
    (h : mayBeClaimed s.db s.clock id = true) :
    mayBeClaimed (Relayer.outsideEffect host action s).db
      (Relayer.outsideEffect host action s).clock id = true := by
  have hclock : s.clock ≤ (Relayer.outsideEffect host action s).clock := by
    cases action with
    | tick ms => exact Nat.le_add_right _ _
    | createAuthorization authorization =>
        simp only [Relayer.outsideEffect, Relayer.Shared.write]
        split <;> exact le_rfl
    | completeAuthorization authorizationId chargeRequestId ciphertext =>
        simp only [Relayer.outsideEffect, Relayer.Shared.write]
        split <;> exact le_rfl
    | _ => exact le_rfl
  refine mayBeClaimed_mono hclock ?_
  have hhappens := happens_outside host action s
  generalize Relayer.outsideEffect host action s = s' at hhappens
  cases hhappens with
  | apart _ _ hrequests _ _ _ _ =>
      exact (mayBeClaimed_congr (congrArg (·.lookup id) hrequests)).trans h
  | recover => exact mayBeClaimed_recover le_rfl h
  | complete authorizationId id' ciphertext db hdb =>
      -- a new request is scheduled
      obtain ⟨authorization, -, -, -, hrequests, -, -⟩ := completeChargeAuthorization_ok hdb
      rw [mayBeClaimed_iff] at h ⊢
      intro row hrow hstatus
      change db.chargeRequests.lookup id = some row at hrow
      rw [hrequests, FinMap.lookup_insert] at hrow
      split_ifs at hrow with hid
      · obtain rfl := Option.some.inj hrow
        cases hstatus
      · exact h row hrow hstatus
  | _ => exact h

/-- A worker puts off its own request only, and only when it has claimed it. -/
theorem Punctual.work {phases : List Phase} {s : Shared T} (h : Punctual s phases) {i : ℕ}
    {id : Uuid} (hjob : s.jobs[i]? = some (some id)) {reply : Reply} {p p' : Phase} {e : Effect}
    (hp : phases[i]? = some p)
    (hworked : Worked reply s.relayer p e (Relayer.perform host reply e s.relayer).2 p') :
    Punctual (perform host reply e s).2 (phases.set i p') := by
  have hclock : (Relayer.perform host reply e s.relayer).2.clock = s.relayer.clock :=
    worked_clock hworked
  obtain ⟨hrequest, hopening⟩ := worked_request hworked
  -- a request that the worker has not claimed stays as claimable as it was
  have hkeeps : ∀ id', (∀ row, p.claimed? ≠ some (id', row)) → s.allows id' = true →
      (perform host reply e s).2.allows id' = true := by
    intro id' hother hallows
    show mayBeClaimed _ (Relayer.perform host reply e s.relayer).2.clock id' = true
    rw [hclock]
    exact worked_mayBeClaimed hworked hother hallows
  have hapart : ∀ id', id' ≠ id → ∀ row, p.claimed? ≠ some (id', row) := by
    intro id' hne row hclaimed
    refine hne (h.request i id p hjob hp id' ?_)
    cases p with
    | working => exact congrArg (Option.map Prod.fst) hclaimed
    | simulated => exact congrArg (Option.map Prod.fst) hclaimed
    | submitting => exact congrArg (Option.map Prod.fst) hclaimed
    | waiting => exact congrArg (Option.map Prod.fst) hclaimed
    | answered => exact congrArg (Option.map Prod.fst) hclaimed
    | _ => cases hclaimed
  refine ⟨h.distinct, by rw [List.length_set]; exact h.length_eq, h.active, h.unique,
    fun j id' q hj hq => ?_, fun id' hid' => ?_, fun j id' q hj hq hopen => ?_⟩
  · rcases Workers.getElem?_set_cases hq with ⟨rfl, rfl⟩ | ⟨-, hq⟩
    · exact fun id'' hreq => h.request j id' p hj hp id'' (hrequest id'' hreq)
    · exact h.request j id' q hj hq
  · -- the worker's request is not waiting, as its job is active
    have hne : id' ≠ id := by
      rintro rfl
      have hnodup := (List.nodup_append.mp (List.nodup_append.mp h.distinct).1).2.2
      exact hnodup id' hid' id' (h.active i id' hjob) rfl
    exact hkeeps id' (hapart id' hne) (h.waiting id' hid')
  · rcases Workers.getElem?_set_cases hq with ⟨rfl, rfl⟩ | ⟨hji, hq⟩
    · have hold := hopening id' hopen
      refine hkeeps id' (fun row hclaimed => ?_) (h.opening j id' p hj hp hold)
      cases p with
      | found => cases hclaimed
      | fresh => cases hclaimed
      | _ => cases hold
    · have hne : id' ≠ id := by
        rintro rfl
        exact hji (h.unique j i id' hj hjob)
      exact hkeeps id' (hapart id' hne) (h.opening j id' q hj hq hopen)

/-- A reported job is the job of a worker. -/
theorem reported_job {s : System T} {worker : ℕ} {id : Uuid} {ending : Ending}
    (h : reported? s worker = some (id, ending)) : s.shared.jobs[worker]? = some (some id) := by
  obtain ⟨id', hjob, h⟩ := Option.bind_eq_some_iff.mp h
  obtain ⟨ending', -, h⟩ := Option.bind_eq_some_iff.mp h
  cases h
  exact Option.join_eq_some_iff.mp hjob

theorem finish_active {q : JobQueue Uuid} {id id' : Uuid} {ending : Ending} (hne : id' ≠ id)
    (h : id' ∈ q.active) : id' ∈ (q.finish chargeRetention id ending).active := by
  unfold JobQueue.finish
  split
  · cases ending <;> exact (List.mem_erase_of_ne hne).mpr h
  · exact h

theorem finish_waiting (q : JobQueue Uuid) (id : Uuid) (ending : Ending) :
    (q.finish chargeRetention id ending).waiting = q.waiting := by
  unfold JobQueue.finish
  split
  · cases ending <;> rfl
  · rfl

/-! ### What the queue does by itself -/

theorem atWork_of_job {s : Shared T} {i : ℕ} {id : Uuid} (hi : s.jobs[i]? = some (some id)) :
    s.atWork id = true := by
  simpa [Shared.atWork] using List.mem_of_getElem? hi

/-- A job is added, whose request may be claimed. -/
theorem Punctual.stepTick {s : System T} {phases : List Phase} (h : Punctual s.shared phases) {tick : ℕ}
    (htime : inTime s (.stepTick tick) = true) : Punctual (s.shared.stepTick tick) phases := by
  change (match s.shared.ticks[tick]? with
    | some (.enqueuing (id :: _)) => s.shared.queue.ids.contains id || s.shared.allows id
    | _ => true) = true at htime
  unfold Shared.stepTick
  split
  · exact h.frame rfl h.distinct (fun _ _ _ h => h) (fun _ h => .inl h) fun _ h => h
  · rename_i id due htick
    rw [htick] at htime
    refine h.frame rfl (h.distinct.add id) (fun j id' hj hactive => ?_) (fun id' hid' => ?_)
      fun _ h => h
    · show id' ∈ (s.shared.queue.add id).active
      unfold JobQueue.add
      split <;> exact hactive
    · change id' ∈ (s.shared.queue.add id).waiting at hid'
      unfold JobQueue.add at hid'
      split at hid'
      · exact .inl hid'
      · rename_i hnew
        rcases List.mem_append.mp hid' with hold | hadded
        · exact .inl hold
        · -- the job is new, and so its request may be claimed
          rw [List.mem_singleton.mp hadded]
          have hallows : s.shared.allows id = true := by simpa [hnew] using htime
          exact .inr hallows
  · exact h

/-- A worker has come to an end, and its job is done. -/
theorem Punctual.report {s : System T} {phases : List Phase} (h : Punctual s.shared phases)
    (worker : ℕ) : Punctual (outsideEffect host s (.report worker)) phases := by
  show Punctual (match reported? s worker with
    | some (id, ending) =>
        { s.shared with
          queue := s.shared.queue.finish chargeRetention id ending
          jobs := s.shared.jobs.set worker none }
    | none => s.shared) phases
  split
  · rename_i id ending hreport
    have hjob := reported_job hreport
    refine h.drop (h.distinct.finish _ _ _) (fun i id' hi hjob' hactive => ?_) (finish_waiting _ _ _)
    refine finish_active ?_ hactive
    rintro rfl
    exact hi (h.unique i worker id' hjob' hjob)
  · exact h

/-- A job waits again, when no worker is at it and its request may be claimed. -/
theorem Punctual.stall {s : System T} {phases : List Phase} (h : Punctual s.shared phases) {id : Uuid}
    (htime : inTime s (.stall id) = true) : Punctual (outsideEffect host s (.stall id)) phases := by
  refine h.frame rfl (h.distinct.release id) (fun i id' hi hactive => ?_) (fun id' hid' => ?_)
    fun _ h => h
  · show id' ∈ (s.shared.queue.release id).active
    unfold JobQueue.release
    split
    · rename_i hmem
      refine (List.mem_erase_of_ne ?_).mpr hactive
      rintro rfl
      simp only [inTime, hmem, List.contains_eq_mem, decide_true, Bool.not_true,
        Bool.false_or, Bool.and_eq_true, Bool.not_eq_true'] at htime
      rw [atWork_of_job hi] at htime
      cases htime.2
    · exact hactive
  · change id' ∈ (s.shared.queue.release id).waiting at hid'
    unfold JobQueue.release at hid'
    split at hid'
    · rename_i hmem
      rcases List.mem_append.mp hid' with hold | hreleased
      · exact .inl hold
      · rw [List.mem_singleton.mp hreleased]
        simp only [inTime, hmem, List.contains_eq_mem, decide_true, Bool.not_true,
          Bool.false_or, Bool.and_eq_true] at htime
        exact .inr htime.1
    · exact .inl hid'

/-- A job is given up, when no worker is at it. -/
theorem Punctual.stallFail {s : System T} {phases : List Phase} (h : Punctual s.shared phases)
    {id : Uuid} (htime : inTime s (.stallFail id) = true) :
    Punctual (outsideEffect host s (.stallFail id)) phases := by
  refine h.frame rfl (h.distinct.finish _ _ _) (fun i id' hi hactive => ?_)
    (fun id' hid' => .inl ?_) fun _ h => h
  · by_cases hne : id' = id
    · subst hne
      simp [inTime, hactive, atWork_of_job hi] at htime
    · exact finish_active hne hactive
  · exact (finish_waiting s.shared.queue id .failed) ▸ hid'

/-- **Every action in time** keeps the workers punctual. -/
theorem punctual_exec {deps : PipelineDeps} {s : System T} {a : Action T}
    (htime : inTime s a = true) (h : Workers.Tracked Move Punctual s) :
    Workers.Tracked Move Punctual (exec host deps s a) := by
  -- an action that is no worker's may only rewrite the shared state
  have houtside : ∀ shared : Shared T, (∀ phases, Punctual s.shared phases →
      Punctual shared phases) → Workers.Tracked Move Punctual { s with shared := shared } :=
    fun shared hkeeps => h.outside (f := fun _ => shared) fun phases _ hp => hkeeps phases hp
  cases a with
  | startTick =>
      refine houtside _ fun phases hp => ?_
      have hallows : ∀ id, s.shared.allows id = true →
          (outsideEffect host s .startTick).allows id = true :=
        fun id hid => @outside_allows _ host .recoverStale _ id hid
      exact hp.frame rfl hp.distinct (fun _ _ _ h => h) (fun _ h => .inl h) hallows
  | outside action =>
      refine houtside _ fun phases hp => ?_
      have hallows : ∀ id, s.shared.allows id = true →
          (outsideEffect host s (.outside action)).allows id = true :=
        fun id hid => outside_allows action hid
      exact hp.frame rfl hp.distinct (fun _ _ _ h => h) (fun _ h => .inl h) hallows
  | stepTick tick => exact houtside _ fun phases hp => hp.stepTick htime
  | take id =>
      unfold exec
      dsimp only
      split
      · rename_i hwaiting
        obtain ⟨phases, hin, hp⟩ := h
        have hbefore : Workers.Tracked Move (fun shared phases' =>
            shared = outsideEffect host s (.take id) ∧ phases' = phases)
            { s with shared := outsideEffect host s (.take id) } := ⟨phases, hin, rfl, rfl⟩
        refine hbefore.start_to (processChargeRequest_obeys deps id) fun phases' hsame => ?_
        rw [hsame.1, hsame.2]
        exact hp.take hwaiting
      · exact h
  | work worker reply =>
      unfold exec
      dsimp only
      split
      · rename_i id hjob
        refine h.work fun phases p e k p' hp hphase hk hmove => ?_
        exact hp.work hjob hphase (worked_of_move hmove)
      · exact h
  | report worker => exact houtside _ fun phases hp => hp.report worker
  | crash worker =>
      exact houtside _ fun phases hp => hp.drop hp.distinct (fun _ _ _ _ h => h) rfl
  | stall id => exact houtside _ fun phases hp => hp.stall htime
  | stallFail id => exact houtside _ fun phases hp => hp.stallFail htime

theorem punctual_initial (t₀ : U64) (tok₀ : T) :
    Workers.Tracked Move Punctual (initial t₀ tok₀) := by
  refine ⟨[], ⟨rfl, fun hi => by cases hi⟩, ?_⟩
  exact
    { distinct := JobQueue.distinct_empty
      length_eq := rfl
      active := fun i id hi => by cases hi
      unique := fun i j id hi => by cases hi
      request := fun i id p hi => by cases hi
      waiting := fun id hid => by cases hid
      opening := fun i id p hi => by cases hi }

end

/-! ## No early retry -/

section

variable {T : Type} {host : Host T}

/-- A request that gets from `retryable_failed` to `processing` was due for its next attempt. -/
def ClaimsOnTime (s s' : System T) : Prop :=
  ∀ id row, s.shared.relayer.db.chargeRequests.lookup id = some row →
    row.status = .retryableFailed → s'.shared.relayer.db.statusOf id = some .processing →
    ∃ t, row.nextAttemptAt = some t ∧ t ≤ s.shared.relayer.clock

/-- No request gets from `retryable_failed` to `processing`. -/
def NoClaim (db db' : Db) : Prop :=
  ∀ id, db.statusOf id = some .retryableFailed → db'.statusOf id ≠ some .processing

theorem NoClaim.refl (db : Db) : NoClaim db db := by
  intro id hbefore hafter
  rw [hbefore] at hafter
  cases hafter

theorem noClaim_outside (action : Relayer.Action T) (s : Relayer.Shared T) :
    NoClaim s.db (Relayer.outsideEffect host action s).db := by
  intro id hbefore hafter
  have hkept := (happens_outside host action s).statusOf hbefore (by simp) (by simp)
  rw [hkept] at hafter
  cases hafter

theorem NoClaim.onTime {s s' : System T} (h : NoClaim s.shared.relayer.db s'.shared.relayer.db) :
    ClaimsOnTime s s' := by
  intro id row hrow hstatus hafter
  refine absurd hafter (h id ?_)
  unfold Db.statusOf
  rw [hrow, Option.map_some, hstatus]

/-- Only the jobs of the workers claim requests, and a worker that has not claimed its request yet
finds it claimable. -/
theorem claims_onTime (deps : PipelineDeps) {s : System T} (a : Action T)
    (h : Workers.Tracked Move Punctual s) : ClaimsOnTime s (exec host deps s a) := by
  cases a with
  | startTick => exact NoClaim.onTime (@noClaim_outside _ host .recoverStale _)
  | outside action => exact NoClaim.onTime (noClaim_outside action _)
  | stepTick tick =>
      have hsame : (s.shared.stepTick tick).relayer = s.shared.relayer := by
        unfold Shared.stepTick
        split <;> rfl
      refine NoClaim.onTime ?_
      show NoClaim _ (s.shared.stepTick tick).relayer.db
      rw [hsame]
      exact .refl _
  | take id =>
      refine NoClaim.onTime ?_
      unfold exec
      dsimp only
      split <;> exact .refl _
  | report worker =>
      have hsame : (outsideEffect host s (.report worker)).relayer = s.shared.relayer := by
        show Shared.relayer (match reported? s worker with
          | some (id, ending) =>
              { s.shared with
                queue := s.shared.queue.finish chargeRetention id ending
                jobs := s.shared.jobs.set worker none }
          | none => s.shared) = _
        split <;> rfl
      refine NoClaim.onTime ?_
      show NoClaim _ (outsideEffect host s (.report worker)).relayer.db
      rw [hsame]
      exact .refl _
  | crash worker => exact NoClaim.onTime (.refl _)
  | stall id => exact NoClaim.onTime (.refl _)
  | stallFail id => exact NoClaim.onTime (.refl _)
  | work worker reply =>
      unfold exec
      dsimp only
      split
      · rename_i id hjob
        obtain ⟨phases, hin, hp⟩ := h
        rcases Workers.work_cases (perform host reply) worker s with hidle | ⟨e, k, hk, hwork⟩
        · rw [hidle]
          exact NoClaim.onTime (.refl _)
        · obtain ⟨p, hphase, hmoves⟩ := hin.allows hk
          obtain ⟨p', hmove, -⟩ := hmoves (perform host reply e s.shared).1
          rw [hwork]
          have hworked : Worked reply s.shared.relayer p e
              (Relayer.perform host reply e s.shared.relayer).2 p' := worked_of_move hmove
          rcases hworked.attempts with ⟨id', row', db, rfl, rfl, rfl, hcommit, hdb⟩ | hunclaimed
          · -- a claim of the worker's own request, which may be claimed
            intro id'' row hrow hstatus hafter
            change (Relayer.perform host reply (.transact [claim id' row'])
              s.shared.relayer).2.db.statusOf id'' = some .processing at hafter
            rw [hcommit] at hafter
            have hmoved := moves_of_transact_one hdb
            by_cases hid : id'' = id'
            · subst hid
              obtain rfl := hp.request worker id _ hjob hphase id'' rfl
              have hallows := hp.opening worker id'' _ hjob hphase rfl
              exact mayBeClaimed_iff.mp hallows row hrow hstatus
            · have hsame : db.statusOf id'' = s.shared.relayer.db.statusOf id'' :=
                hmoved.others id'' hid
              change db.statusOf id'' = some .processing at hafter
              rw [hsame, Db.statusOf, hrow, Option.map_some, hstatus] at hafter
              cases hafter
          · refine NoClaim.onTime fun id'' hbefore hafter => ?_
            have hprocessing := hunclaimed.processing hafter
            rw [hbefore] at hprocessing
            cases hprocessing
      · exact NoClaim.onTime (.refl _)

/-- **No early retry.** In a run in which a job is added, or waits again, only when its request may be
claimed, and is taken away only from a worker that is gone, every request that is claimed was due. -/
theorem no_early_retry (host : Host T) (deps : PipelineDeps) (t₀ : U64) (tok₀ : T)
    (actions : List (Action T))
    (htime : ∀ q ∈ Runs.trace (exec host deps) (initial t₀ tok₀) actions, inTime q.1 q.2 = true) :
    ∀ q ∈ Runs.trace (exec host deps) (initial t₀ tok₀) actions,
      ClaimsOnTime q.1 (exec host deps q.1 q.2) := by
  intro q hq
  have hpunctual : Workers.Tracked Move Punctual q.1 :=
    Runs.trace_invariant_along (C := fun s a => inTime s a = true)
      (fun _ _ ha h => punctual_exec ha h) (punctual_initial t₀ tok₀) htime hq
  exact claims_onTime deps q.2 hpunctual

end

/-! ## A tick that adds what it has read before

The request of `mockRequest` is due for two ticks. The job of the first one is taken, its attempt fails
and is put off for six hours, and the second tick adds the job again. -/

section

open Registry (MockToken mockCreation mockFunds mockHost mockId)

def dueRequest : List (Action MockToken) :=
  [.chain mockCreation, .setMerchant 1 ⟨2⟩, .setCheckoutSession 1 mockId ⟨3⟩,
    .createAuthorization ⟨1, 1, mockId, ⟨1⟩, 5, ⟨0⟩, 0, none, 720, .pending, none⟩,
    .completeAuthorization 1 1 42].map .outside

def serve (worker steps : ℕ) : List (Action MockToken) :=
  List.replicate steps (.work worker (.served [⟨2⟩]))

/-- Two ticks read, the first adds the job, and the attempt fails as the RPC is down. -/
def overlappingTicks : List (Action MockToken) :=
  dueRequest ++ [.startTick, .startTick, .stepTick 0, .stepTick 1, .stepTick 0, .take 1] ++
    serve 0 2 ++ [.work 0 .lost] ++ serve 0 2 ++ [.report 0]

/-- The second tick adds the job, and a worker claims the request. -/
def staleEnqueue : List (Action MockToken) := [.stepTick 1, .take 1] ++ serve 1 1

/-- The same, but six hours later. -/
def retryInTime : List (Action MockToken) :=
  overlappingTicks ++ [.outside (.tick 21600000)] ++ staleEnqueue ++ serve 1 1

def mockStart : System MockToken := initial 0 mockFunds

set_option maxRecDepth 8000 in
theorem no_early_retry_in_time :
    (∀ q ∈ Runs.trace (exec mockHost mockDeps) mockStart retryInTime,
      ClaimsOnTime q.1 (exec mockHost mockDeps q.1 q.2)) ∧
    ((run mockHost mockDeps mockStart retryInTime).shared.relayer.db.chargeRequests.lookup 1).map
      (fun row => (row.status, row.attemptCount)) = some (.processing, 2) :=
  ⟨no_early_retry mockHost mockDeps 0 mockFunds retryInTime (by decide), by decide⟩

set_option maxRecDepth 8000 in
/-- **A retry six hours early.** -/
theorem stale_tick_retries_early :
    ¬ ∀ q ∈ Runs.trace (exec mockHost mockDeps) mockStart
        (overlappingTicks ++ staleEnqueue ++ [.work 1 (.served [⟨2⟩])]),
      ClaimsOnTime q.1 (exec mockHost mockDeps q.1 q.2) := by
  intro h
  have hbefore : ((run mockHost mockDeps mockStart
      (overlappingTicks ++ staleEnqueue)).shared.relayer.db.chargeRequests.lookup 1).map
      (fun row => (row.status, row.nextAttemptAt))
      = some (.retryableFailed, some 21600000) := by decide
  have hclock : (run mockHost mockDeps mockStart
      (overlappingTicks ++ staleEnqueue)).shared.relayer.clock = 0 := by decide
  have hafter : (exec mockHost mockDeps (run mockHost mockDeps mockStart
      (overlappingTicks ++ staleEnqueue)) (.work 1 (.served [⟨2⟩]))).shared.relayer.db.statusOf 1
      = some .processing := by decide
  obtain ⟨row, hrow, hcolumns⟩ := Option.map_eq_some_iff.mp hbefore
  simp only [Prod.mk.injEq] at hcolumns
  have hclaim := h _ (Runs.mem_trace_append_cons mockStart
    (overlappingTicks ++ staleEnqueue) _ [])
  obtain ⟨t, ht, htime⟩ := hclaim 1 row hrow hcolumns.1 hafter
  rw [hcolumns.2] at ht
  obtain rfl := Option.some.inj ht
  change 21600000 ≤ (run mockHost mockDeps mockStart
    (overlappingTicks ++ staleEnqueue)).shared.relayer.clock at htime
  rw [hclock] at htime
  exact absurd htime (by decide)

end

end Paymap.Relayer.Dispatch
