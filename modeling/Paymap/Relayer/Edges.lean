import Paymap.Relayer.Agreement

set_option autoImplicit false

/-! # The edges that are written

`transitionChargeRequest` refuses an edge that is not in the table, so what the workers write is
legal whatever they do. The status column has two more writers. Completing an authorization inserts
a row, which is `scheduled`. The recovery of stale work writes the column without the guard, and
from a row that is already `simulated` it takes an edge that the table does not have. It is the only
writer that does, and it does so whenever it meets such a row.
-/

namespace Paymap.Relayer

open Registry (Host)

/-! ## Edges -/

/-- What may become of the status of one request: nothing, a legal edge, or a new row. -/
inductive LegalEdge : Option ChargeRequestStatus → Option ChargeRequestStatus → Prop where
  | stays (status : Option ChargeRequestStatus) : LegalEdge status status
  | goes (source target : ChargeRequestStatus) (legal : target ∈ legalTransitions source) :
      LegalEdge (some source) (some target)
  | appears : LegalEdge none (some .scheduled)

/-- Between these tables only legal edges are written. -/
def EdgesLegal (db db' : Db) : Prop := ∀ id, LegalEdge (db.statusOf id) (db'.statusOf id)

theorem legalEdge_some {source target : ChargeRequestStatus}
    (h : LegalEdge (some source) (some target)) :
    target = source ∨ target ∈ legalTransitions source := by
  cases h with
  | stays => exact .inl rfl
  | goes _ _ hlegal => exact .inr hlegal

namespace Db

variable {db db' : Db}

theorem SameRequests.edgesLegal (h : db.SameRequests db') : EdgesLegal db db' := by
  intro id
  rw [h.statusOf]
  exact .stays _

theorem Moves.edgesLegal {id : Uuid} {source target : ChargeRequestStatus}
    (h : db.Moves db' id source target) : EdgesLegal db db' := by
  intro id'
  by_cases hid : id' = id
  · subst hid
    rw [h.was, h.becomes]
    exact .goes source target h.legal
  · rw [h.others id' hid]
    exact .stays _

end Db

theorem Passes.edgesLegal {db db' : Db} {owned owned' : Option Uuid}
    (h : Passes db db' owned owned') : EdgesLegal db db' := by
  cases h with
  | keeps _ hsame => exact hsame.edgesLegal
  | drops _ hsame => exact hsame.edgesLegal
  | apart _ _ _ hmoves _ _ => exact hmoves.edgesLegal
  | takes _ _ hmoves => exact hmoves.edgesLegal
  | releases _ _ hmoves => exact hmoves.edgesLegal

/-! ## Recovery -/

/-- The work of the request is recovered at `now`. -/
def ChargeRequest.Stale (now : Time) (row : ChargeRequest) : Prop :=
  (row.status = .processing ∨ row.status = .simulated) ∧ row.updatedAt + stalePreSubmissionMs ≤ now

instance (now : Time) (row : ChargeRequest) : Decidable (row.Stale now) := by
  unfold ChargeRequest.Stale
  infer_instance

/-- The request is stale and already `simulated`. -/
def Db.StaleSimulated (now : Time) (db : Db) (id : Uuid) : Prop :=
  ∃ row, db.chargeRequests.lookup id = some row ∧ row.Stale now ∧ row.status = .simulated

/-- What recovery does to the status of a request. -/
theorem legalEdge_recover_iff (now : Time) (db : Db) (id : Uuid) :
    LegalEdge (db.statusOf id) ((recoverStalePreSubmissionCharges now db).statusOf id) ↔
      ¬ db.StaleSimulated now id := by
  unfold recoverStalePreSubmissionCharges Db.statusOf Db.StaleSimulated
  rw [FinMap.lookup_mapValues]
  cases db.chargeRequests.lookup id with
  | none =>
      refine iff_of_true (.stays _) ?_
      rintro ⟨row, ⟨⟩, -⟩
  | some row =>
      simp only [Option.map_some, Option.some.injEq, exists_eq_left', ChargeRequest.recovered]
      split
      · rename_i hstale
        rcases hstale.1 with hstatus | hstatus
        · -- from `processing` the edge is in the table
          rw [hstatus]
          exact iff_of_true (.goes _ _ (by simp [legalTransitions])) (by simp)
        · rw [hstatus]
          refine iff_of_false (fun hedge => ?_) fun hnot => hnot ⟨hstale, rfl⟩
          rcases legalEdge_some hedge with hsame | hlegal
          · cases hsame
          · simp [legalTransitions] at hlegal
      · rename_i hfresh
        exact iff_of_true (.stays _) fun hstale => hfresh hstale.1

section

variable {T : Type} {host : Host T}

/-- Recovery meets no stale row that is already `simulated`. -/
def RecoversLegally (s : System T) : Action T → Prop
  | .recoverStale => ∀ id, ¬ s.shared.db.StaleSimulated s.shared.clock id
  | _ => True

/-- Outside the workers it is recovery alone that writes a status without the guard. -/
theorem Happens.edgesLegal {s s' : Shared T} {action : Action T} (h : Happens host s action s')
    (hne : action ≠ .recoverStale) : EdgesLegal s.db s'.db := by
  cases h with
  | apart _ _ hrequests _ _ _ _ => exact (sameRequests_of_eq hrequests).edgesLegal
  | recover => exact absurd rfl hne
  | complete authorizationId id ciphertext db hdb =>
      obtain ⟨hfresh, hstatus⟩ := statusOf_complete hdb
      intro id'
      show LegalEdge _ (db.statusOf id')
      rw [hstatus]
      split
      · rename_i heq
        rw [heq, hfresh]
        exact .appears
      · exact .stays _
  | _ => exact fun id => .stays _

/-- **One action** writes only legal edges, or it is a recovery that meets a stale row that is
already `simulated`. -/
theorem edgesLegal_exec_iff (deps : PipelineDeps) {s : System T} (action : Action T)
    (h : Workers.Tracked Move (fun _ _ => True) s) :
    EdgesLegal s.shared.db (exec host deps s action).shared.db ↔ RecoversLegally s action := by
  cases action with
  | start id => exact iff_of_true (fun id => .stays _) trivial
  | work i reply =>
      refine iff_of_true ?_ trivial
      obtain ⟨phases, hin, -⟩ := h
      show EdgesLegal _ (Workers.work (perform host reply) i s).shared.db
      rcases Workers.work_cases (perform host reply) i s with hidle | ⟨e, k, hk, hwork⟩
      · rw [hidle]
        exact fun id => .stays _
      · -- the worker's own writes go through the guard
        obtain ⟨p, -, hmoves⟩ := hin.allows hk
        obtain ⟨p', hmove, -⟩ := hmoves (perform host reply e s.shared).1
        rw [hwork]
        exact (worked_of_move hmove).passes.edgesLegal
  | recoverStale => exact forall_congr' (legalEdge_recover_iff s.shared.clock s.shared.db)
  | _ => exact iff_of_true ((happens_outside host _ _).edgesLegal (by simp)) trivial

theorem tracked_initial (t₀ : U64) (tok₀ : T) :
    Workers.Tracked Move (fun _ _ => True) (initial t₀ tok₀) :=
  ⟨[], ⟨rfl, fun hi => by cases hi⟩, trivial⟩

theorem tracked_exec_true (deps : PipelineDeps) (s : System T) (action : Action T)
    (h : Workers.Tracked Move (fun _ _ => True) s) :
    Workers.Tracked Move (fun _ _ => True) (exec host deps s action) :=
  tracked_exec h (fun _ _ _ _ _ _ _ _ _ _ _ _ _ => trivial) (fun _ _ _ => trivial)
    fun _ _ _ _ _ => trivial

/-- **Which runs write only legal edges.** In a run every change of a status is an edge of the
table, and every new request is `scheduled`, if and only if no recovery of the run meets a stale row
that is already `simulated`. -/
theorem status_edges_legal_iff (host : Host T) (deps : PipelineDeps) (t₀ : U64) (tok₀ : T)
    (actions : List (Action T)) :
    (∀ q ∈ Runs.trace (exec host deps) (initial t₀ tok₀) actions,
      EdgesLegal q.1.shared.db (exec host deps q.1 q.2).shared.db) ↔
    ∀ q ∈ Runs.trace (exec host deps) (initial t₀ tok₀) actions, RecoversLegally q.1 q.2 := by
  refine forall₂_congr fun q hq => edgesLegal_exec_iff deps q.2 ?_
  exact Runs.trace_invariant (tracked_exec_true deps) (tracked_initial t₀ tok₀) hq

/-- A worker stops between its write of `simulated` and the one of `submitted`, and ten minutes later
its work is recovered. -/
def interruptedAfterSimulation : List (Action Registry.MockToken) :=
  mockRequest ++ mockWork 0 9 ++ [.tick 600000]

set_option maxRecDepth 4000 in
/-- **An edge that is not in the table is written**: from `simulated` to `retryableFailed`. -/
theorem recovery_writes_illegal_edge :
    ¬ ∀ q ∈ Runs.trace (exec Registry.mockHost mockDeps) mockSystem
        (interruptedAfterSimulation ++ [.recoverStale]),
      EdgesLegal q.1.shared.db (exec Registry.mockHost mockDeps q.1 q.2).shared.db := by
  intro h
  have hbefore : (run Registry.mockHost mockDeps mockSystem
      interruptedAfterSimulation).shared.db.statusOf 1 = some .simulated := by decide
  have hafter : (exec Registry.mockHost mockDeps (run Registry.mockHost mockDeps mockSystem
      interruptedAfterSimulation) .recoverStale).shared.db.statusOf 1
      = some .retryableFailed := by decide
  have hedge := h _ (Runs.mem_trace_append_cons mockSystem interruptedAfterSimulation _ []) 1
  rw [hbefore, hafter] at hedge
  rcases legalEdge_some hedge with hsame | hlegal
  · cases hsame
  · simp [legalTransitions] at hlegal

end

end Paymap.Relayer
