import Paymap.Relayer.Consistency

set_option autoImplicit false

/-! # Deeds

The deeds of a run, in order: which job was started, which transition a worker has committed, when a
worker has called `submit()`. What is read off them: how often a request was claimed and submitted,
and which worker is between its transition to `submitted` and the one that ends it. `notes_of_move`
says which deeds go with each step of the pipeline.
-/

namespace Paymap.Relayer

open Registry (Host Mandate)

/-! ## Deeds -/

inductive Deed where
  | starts (id : Uuid)
  | transition (worker : ℕ) (id : Uuid) (source target : ChargeRequestStatus)
  | submit (worker : ℕ)
deriving DecidableEq

/-- The transition a statement makes when its transaction commits. -/
def Statement.deed? (worker : ℕ) : Statement → Option Deed
  | .transition id source target _ => some (.transition worker id source target)
  | _ => none

/-- What a worker has done when its effect is answered. -/
def effectDeeds (worker : ℕ) : (e : Effect) → Answer e → List Deed
  | .transact statements, .ok () => statements.filterMap (Statement.deed? worker)
  | .sendTransaction _, _ => [.submit worker]
  | _, _ => []

section

variable {T : Type}

def deeds (host : Host T) (s : System T) : Action T → List Deed
  | .start id => [.starts id]
  | .work worker reply =>
      match s.running[worker]? with
      | some (.call e _) => effectDeeds worker e (perform host reply e s.shared).1
      | _ => []
  | _ => []

/-- The deeds of a run. -/
def history (host : Host T) (deps : PipelineDeps) (s : System T) (actions : List (Action T)) :
    List Deed :=
  Runs.notes (exec host deps) (deeds host) s actions

end

/-! ## Reading a history -/

namespace Deed

def job? : Deed → Option Uuid
  | .starts id => some id
  | _ => none

/-- Where this worker has taken this request. -/
def target? (worker : ℕ) (id : Uuid) : Deed → Option ChargeRequestStatus
  | .transition worker' id' _ target => if worker' = worker ∧ id' = id then some target else none
  | _ => none

def takesTo (id : Uuid) (target : ChargeRequestStatus) : Deed → Bool
  | .transition _ id' _ target' => id' = id && target' = target
  | _ => false

def submitsBy (isFor : ℕ → Bool) : Deed → Bool
  | .submit worker => isFor worker
  | _ => false

end Deed

/-- The requests the workers were started for, worker `0` first. -/
def jobs (h : List Deed) : List Uuid := h.filterMap Deed.job?

/-- The worker is between its own transition to `submitted` and the one that records the result. -/
def Submitting (h : List Deed) (worker : ℕ) (id : Uuid) : Prop :=
  (h.filterMap (Deed.target? worker id)).getLast? = some .submitted

def transitionsTo (h : List Deed) (id : Uuid) (target : ChargeRequestStatus) : ℕ :=
  h.countP (Deed.takesTo id target)

/-- The successful claims of a request. -/
def claims (h : List Deed) (id : Uuid) : ℕ := transitionsTo h id .processing

/-- The calls of `submit()` made for a request, that is by workers whose job it is. -/
def submitCalls (h : List Deed) (id : Uuid) : ℕ :=
  h.countP (Deed.submitsBy fun worker => (jobs h)[worker]? = some id)

section

variable {h : List Deed} {worker : ℕ} {id : Uuid}

theorem jobs_append (h h' : List Deed) : jobs (h ++ h') = jobs h ++ jobs h' :=
  List.filterMap_append

theorem transitionsTo_append (h h' : List Deed) (id : Uuid) (target : ChargeRequestStatus) :
    transitionsTo (h ++ h') id target = transitionsTo h id target + transitionsTo h' id target :=
  List.countP_append

theorem transitionsTo_transition (worker : ℕ) (id id' : Uuid)
    (source target target' : ChargeRequestStatus) :
    transitionsTo [.transition worker id' source target'] id target
      = if id' = id ∧ target' = target then 1 else 0 := by
  by_cases heq : id' = id ∧ target' = target
  · simp [transitionsTo, Deed.takesTo, heq]
  · rw [if_neg heq]
    simpa [transitionsTo, Deed.takesTo] using heq

/-- Deeds that are no transition of this request by this worker. -/
theorem submitting_append_of_none {d : Deed} (hnone : d.target? worker id = none) :
    Submitting (h ++ [d]) worker id ↔ Submitting h worker id := by
  unfold Submitting
  rw [List.filterMap_append, List.filterMap_cons, hnone, List.filterMap_nil, List.append_nil]

theorem submitting_append_of_some {d : Deed} {target : ChargeRequestStatus}
    (hsome : d.target? worker id = some target) :
    Submitting (h ++ [d]) worker id ↔ target = .submitted := by
  unfold Submitting
  rw [List.filterMap_append, List.filterMap_cons, hsome, List.filterMap_nil,
    List.getLast?_concat, Option.some.injEq]

/-- A transition is about its own worker and request. -/
theorem submitting_append_transition {w w' : ℕ} {id id' : Uuid}
    {source target : ChargeRequestStatus} :
    Submitting (h ++ [.transition w id source target]) w' id' ↔
      if w' = w ∧ id' = id then target = .submitted else Submitting h w' id' := by
  split
  · rename_i heq
    obtain ⟨rfl, rfl⟩ := heq
    exact submitting_append_of_some (by simp [Deed.target?])
  · rename_i hne
    refine submitting_append_of_none ?_
    rw [Deed.target?, if_neg fun heq => hne ⟨heq.1.symm, heq.2.symm⟩]

/-- A later job changes nothing about the calls of the workers there are. -/
theorem submitCalls_append {h' : List Deed} (hlt : ∀ w, .submit w ∈ h → w < (jobs h).length) :
    submitCalls (h ++ h') id = submitCalls h id +
      h'.countP (Deed.submitsBy fun w => (jobs (h ++ h'))[w]? = some id) := by
  unfold submitCalls
  rw [List.countP_append]
  congr 1
  refine List.countP_congr fun d hmem => ?_
  cases d with
  | submit w =>
      simp only [Deed.submitsBy, jobs_append]
      rw [List.getElem?_append_left (hlt w hmem)]
  | starts id' => rfl
  | transition w id' source target => rfl

end

/-! ## The deeds of one step -/

/-- The request a worker was started for. -/
def Phase.request? : Phase → Option Uuid
  | .fresh id => some id
  | .over => none
  | p => p.row?.map Prod.fst

/-- The request whose transaction the worker is about to send. -/
def Phase.submitting? : Phase → Option Uuid
  | .submitting id _ _ => some id
  | _ => none

/-- What a worker's step does, with its deeds. -/
inductive Notes (worker : ℕ) (db db' : Db) (p p' : Phase) : List Deed → Prop where
  | silent (same : db.SameRequests db')
      (kept : p' = .over ∨ p'.request? = p.request? ∧ p'.owned? = p.owned? ∧
        p'.submitting? = p.submitting?) : Notes worker db db' p p' []
  | submit (id : Uuid) (same : db.SameRequests db') (was : p.submitting? = some id)
      (request : p'.request? = some id) (owned : p'.owned? = some id)
      (sent : p'.submitting? = none) : Notes worker db db' p p' [.submit worker]
  | transition (id : Uuid) (source target : ChargeRequestStatus)
      (moves : db.Moves db' id source target) (was : p.request? = some id)
      (request : p' = .over ∨ p'.request? = some id)
      (releases : source = .submitted → p.owned? = some id)
      (takes : target ≠ .submitted → p'.owned? = none)
      (owned : ∀ id', p'.owned? = some id' → id' = id)
      (submitting : ∀ id', p'.submitting? = some id' → p'.owned? = some id') :
      Notes worker db db' p p' [.transition worker id source target]

section

variable {T : Type} {host : Host T} {s s' : Shared T} {p p' : Phase}

/-- The deeds of a transaction are its transitions, if it commits. -/
theorem effectDeeds_transact {reply : Reply} (worker : ℕ) {statements : List Statement}
    {a : Except Thrown Unit} (h : perform host reply (.transact statements) s = (a, s')) :
    (effectDeeds worker (.transact statements) a = statements.filterMap (Statement.deed? worker) ∧
      ∃ db, transact s.clock statements s.db = .ok db ∧ s' = s.commit db ∧ a = .ok ()) ∨
    (effectDeeds worker (.transact statements) a = [] ∧ s' = s ∧ ∃ e, a = .error e) := by
  rcases perform_transact h with ⟨rfl, db, hdb, rfl⟩ | ⟨⟨e, rfl⟩, rfl⟩
  · exact .inl ⟨rfl, db, hdb, rfl, rfl⟩
  · exact .inr ⟨rfl, rfl, e, rfl⟩

theorem deeds_recordSuccess (worker : ℕ) (id : Uuid) (row : ChargeRequest) (mandate : Mandate)
    (receipt : Registry.PaymentReceipt) (txHash : TxHash) (ledger : ℕ) (now : Time) :
    (recordSuccess id row mandate receipt txHash ledger now).filterMap (Statement.deed? worker)
      = [.transition worker id .submitted .succeeded] := by
  unfold recordSuccess
  by_cases hlast : completesMandate mandate = true
  · rw [if_pos hlast]
    cases row.authorizationId <;> rfl
  · rw [if_neg hlast]
    cases row.authorizationId <;> rfl

/-- A committed transaction of one transition, that ends in phase `p'`. -/
theorem notes_of_transition {worker : ℕ} {id : Uuid} {source target : ChargeRequestStatus}
    {statements : List Statement} {db : Db}
    (hdeeds : statements.filterMap (Statement.deed? worker)
      = [.transition worker id source target])
    (hmoves : s.db.Moves db id source target) (hwas : p.request? = some id)
    (hreleases : source = .submitted → p.owned? = some id) (hover : p' = .over) :
    Notes worker s.db db p p' (statements.filterMap (Statement.deed? worker)) := by
  subst hover
  rw [hdeeds]
  exact .transition id source target hmoves hwas (.inl rfl) hreleases (fun _ => rfl)
    (fun _ h => by cases h) (fun _ h => by cases h)

/-- **What a worker's step does, with its deeds.** -/
theorem notes_of_move {reply : Reply} {worker : ℕ} {e : Effect}
    (hmove : Move p e (perform host reply e s).1 p') :
    Notes worker s.db (perform host reply e s).2.db p p'
      (effectDeeds worker e (perform host reply e s).1) := by
  generalize hperf : perform host reply e s = r at hmove ⊢
  obtain ⟨a, s'⟩ := r
  dsimp only at hmove ⊢
  cases hmove with
  | now t =>
      cases hperf
      exact .silent (.refl _) (.inr ⟨rfl, rfl, rfl⟩)
  | missing id =>
      obtain ⟨-, rfl⟩ := Prod.mk.inj hperf
      exact .silent (.refl _) (.inl rfl)
  | find id row =>
      obtain ⟨-, rfl⟩ := Prod.mk.inj hperf
      exact .silent (.refl _) (.inr ⟨rfl, rfl, rfl⟩)
  | claimLost id row e =>
      rcases effectDeeds_transact worker hperf with ⟨-, _, -, -, ha⟩ | ⟨hnone, rfl, -⟩
      · cases ha
      · exact .silent (.refl _) (.inl rfl)
  | claim id row =>
      rcases effectDeeds_transact worker hperf with ⟨-, db, hdb, rfl, -⟩ | ⟨-, -, e, ha⟩
      · exact .transition id (claimFrom row) .processing (moves_of_transact_one hdb) rfl (.inr rfl)
          (fun h => absurd h (claimFrom_ne row)) (fun _ => rfl) (fun _ h => by cases h)
          (fun _ h => by cases h)
      · cases ha
  | read id row mandate e a hreads =>
      obtain rfl := perform_read hreads hperf
      cases e with
      | transact statements => cases hreads
      | sendTransaction args => cases hreads
      | _ => exact .silent (.refl _) (.inr ⟨rfl, rfl, rfl⟩)
  | mandateUnread id row f =>
      obtain ⟨rfl, -⟩ := perform_getMandate hperf
      exact .silent (.refl _) (.inr ⟨rfl, rfl, rfl⟩)
  | mandateRead id row mandate =>
      obtain ⟨rfl, -⟩ := perform_getMandate hperf
      exact .silent (.refl _) (.inr ⟨rfl, rfl, rfl⟩)
  | expire id row mandate authorizationId a =>
      rcases effectDeeds_transact worker hperf with ⟨hdeeds, db, hdb, rfl, -⟩ | ⟨hdeeds, rfl, -⟩
      · rw [hdeeds]
        exact .silent (sameRequests_updateAuthorization hdb) (.inr ⟨rfl, rfl, rfl⟩)
      · rw [hdeeds]
        exact .silent (.refl _) (.inr ⟨rfl, rfl, rfl⟩)
  | simulateLost id row mandate e =>
      rcases effectDeeds_transact worker hperf with ⟨-, _, -, -, ha⟩ | ⟨hnone, rfl, -⟩
      · cases ha
      · exact .silent (.refl _) (.inl rfl)
  | simulate id row mandate =>
      rcases effectDeeds_transact worker hperf with ⟨-, db, hdb, rfl, -⟩ | ⟨-, -, e, ha⟩
      · exact .transition id .processing .simulated (moves_of_transact_one hdb) rfl (.inr rfl)
          (fun h => by cases h) (fun _ => rfl) (fun _ h => by cases h) (fun _ h => by cases h)
      · cases ha
  | submitLost id row mandate e =>
      rcases effectDeeds_transact worker hperf with ⟨-, _, -, -, ha⟩ | ⟨hnone, rfl, -⟩
      · cases ha
      · exact .silent (.refl _) (.inl rfl)
  | submit id row mandate =>
      rcases effectDeeds_transact worker hperf with ⟨-, db, hdb, rfl, -⟩ | ⟨-, -, e, ha⟩
      · exact .transition id .simulated .submitted (moves_of_transact_one hdb) rfl (.inr rfl)
          (fun h => by cases h) (fun h => absurd rfl h) (fun _ h => by cases h; rfl)
          (fun _ h => by cases h; rfl)
      · cases ha
  -- what is sent may be lost, but it was `submit()` that sent it
  | sendFailed id row mandate entry reason a hunsent =>
      have hsame : s.db.SameRequests s'.db := by
        cases reply <;> (obtain ⟨-, rfl⟩ := Prod.mk.inj hperf; exact .refl _)
      exact .submit id hsame rfl rfl rfl rfl
  | send id row mandate entry hash =>
      have hsame : s.db.SameRequests s'.db := by
        cases reply <;> (obtain ⟨-, rfl⟩ := Prod.mk.inj hperf; exact .refl _)
      exact .submit id hsame rfl rfl rfl rfl
  | poll id row mandate hash a =>
      have hsame : s.db.SameRequests s'.db := by
        cases reply <;> (obtain ⟨-, rfl⟩ := Prod.mk.inj hperf; exact .refl _)
      exact .silent hsame (.inr ⟨rfl, rfl, rfl⟩)
  | setHash id row mandate error hash a =>
      rcases effectDeeds_transact worker hperf with ⟨hdeeds, db, hdb, rfl, -⟩ | ⟨hdeeds, rfl, -⟩
      · rw [hdeeds]
        obtain ⟨db₁, hfirst, hrest⟩ := transact_cons_ok.mp hdb
        obtain rfl := transact_nil_ok.mp hrest
        exact .silent (sameRequests_setTransactionHash hfirst).1 (.inr ⟨rfl, rfl, rfl⟩)
      · rw [hdeeds]
        exact .silent (.refl _) (.inr ⟨rfl, rfl, rfl⟩)
  | retry _ id row source classified now nextAttemptAt a hfails hdue =>
      rcases effectDeeds_transact worker hperf with ⟨hdeeds, db, hdb, rfl, -⟩ | ⟨hdeeds, rfl, -⟩
      · rw [hdeeds]
        have hmoves := moves_scheduleRetry hdb
        cases hfails with
        | working => exact notes_of_transition rfl hmoves rfl (fun h => by cases h) rfl
        | answered => exact notes_of_transition rfl hmoves rfl (fun _ => rfl) rfl
      · rw [hdeeds]
        exact .silent (.refl _) (.inl rfl)
  | giveUp _ id row source classified now a hfails hexhausted =>
      rcases effectDeeds_transact worker hperf with ⟨hdeeds, db, hdb, rfl, -⟩ | ⟨hdeeds, rfl, -⟩
      · rw [hdeeds]
        have hmoves := moves_failPermanently hdb
        cases hfails with
        | working => exact notes_of_transition rfl hmoves rfl (fun h => by cases h) rfl
        | answered => exact notes_of_transition rfl hmoves rfl (fun _ => rfl) rfl
      · rw [hdeeds]
        exact .silent (.refl _) (.inl rfl)
  | succeed id row mandate receipt txHash ledger now a =>
      rcases effectDeeds_transact worker hperf with ⟨hdeeds, db, hdb, rfl, -⟩ | ⟨hdeeds, rfl, -⟩
      · rw [hdeeds]
        exact notes_of_transition (deeds_recordSuccess _ _ _ _ _ _ _ _)
          (moves_recordSuccess hdb) rfl (fun _ => rfl) rfl
      · rw [hdeeds]
        exact .silent (.refl _) (.inl rfl)

end

end Paymap.Relayer
