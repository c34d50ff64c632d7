import Paymap.Relayer.Deeds

set_option autoImplicit false

/-! # One submission at a time

The guards of the transitions look at the status and not at who has claimed the request, so after a
recovery a stalled worker goes on with the claim of another. What is exclusive all the same is the
time between a worker's own transition to `submitted` and the one that records its result, and as each
claim pays for one submission at most, there are no more calls of `submit()` than claims.
-/

namespace Paymap.Relayer

open Registry (Host Mandate)

/-! ## The account of a history -/

theorem Phase.owned_of_submitting {p : Phase} {id : Uuid} (h : p.submitting? = some id) :
    p.owned? = some id := by
  cases p with
  | submitting id' row mandate => exact h
  | _ => cases h

/-- `[status ∈ {processing, simulated}]`: a claim that has not been submitted yet. -/
def Db.openClaim (db : Db) (id : Uuid) : ℕ :=
  db.indicator id .processing + db.indicator id .simulated

/-- What the deeds so far say about the tables and about where the workers are. -/
structure Account (db : Db) (phases : List Phase) (h : List Deed) : Prop where
  jobs_length : (jobs h).length = phases.length
  job : ∀ {i : ℕ} {p : Phase} {id : Uuid}, phases[i]? = some p → p.request? = some id →
    (jobs h)[i]? = some id
  submit_lt : ∀ w, .submit w ∈ h → w < (jobs h).length
  owner : ∀ {i : ℕ} {p : Phase} {id : Uuid}, phases[i]? = some p → p.owned? = some id →
    Submitting h i id
  submitted : ∀ {w : ℕ} {id : Uuid}, Submitting h w id → db.statusOf id = some .submitted
  unique : ∀ {w w' : ℕ} {id : Uuid}, Submitting h w id → Submitting h w' id → w = w'
  /-- Every claim pays for one submission. -/
  claimed : ∀ id, transitionsTo h id .submitted + db.openClaim id ≤ claims h id
  sent : ∀ id, submitCalls h id ≤ transitionsTo h id .submitted
  unsent : ∀ {i : ℕ} {p : Phase} {id : Uuid}, phases[i]? = some p → p.submitting? = some id →
    submitCalls h id < transitionsTo h id .submitted
  succeeded : ∀ id, transitionsTo h id .succeeded = db.indicator id .succeeded

section

variable {db db' : Db} {phases : List Phase} {h : List Deed} {i : ℕ} {p p' : Phase}

/-- Only statuses change, and only such as no deed is about. -/
theorem Account.frame (ha : Account db phases h)
    (hsubmitted : ∀ id, db.statusOf id = some .submitted → db'.statusOf id = some .submitted)
    (hopen : ∀ id, db'.openClaim id ≤ db.openClaim id)
    (hsucceeded : ∀ id, db'.indicator id .succeeded = db.indicator id .succeeded) :
    Account db' phases h :=
  { ha with
    submitted := fun hw => hsubmitted _ (ha.submitted hw)
    claimed := fun id => by
      have := ha.claimed id
      have := hopen id
      omega
    succeeded := fun id => (ha.succeeded id).trans (hsucceeded id).symm }

theorem Db.SameRequests.indicator (hsame : db.SameRequests db') (id : Uuid)
    (st : ChargeRequestStatus) : db'.indicator id st = db.indicator id st := by
  rw [Db.indicator, hsame.statusOf, Db.indicator]

theorem Account.sameRequests (ha : Account db phases h) (hsame : db.SameRequests db') :
    Account db' phases h := by
  refine ha.frame (fun id hst => (hsame.statusOf id).trans hst) (fun id => ?_)
    fun id => hsame.indicator id _
  rw [Db.openClaim, hsame.indicator, hsame.indicator, Db.openClaim]

/-- A worker goes on, without a deed. -/
theorem Account.silent (ha : Account db phases h) (hp : phases[i]? = some p)
    (hkept : p' = .over ∨ p'.request? = p.request? ∧ p'.owned? = p.owned? ∧
      p'.submitting? = p.submitting?) : Account db (phases.set i p') h := by
  -- what is read off the new phase could be read off the old one
  have hread : ∀ {j : ℕ} {q : Phase}, (phases.set i p')[j]? = some q → q = .over ∨
      ∃ q', phases[j]? = some q' ∧ q.request? = q'.request? ∧ q.owned? = q'.owned? ∧
        q.submitting? = q'.submitting? := by
    intro j q hq
    rcases Workers.getElem?_set_cases hq with ⟨rfl, rfl⟩ | ⟨-, hold⟩
    · rcases hkept with hover | hsame
      · exact .inl hover
      · exact .inr ⟨p, hp, hsame⟩
    · exact .inr ⟨q, hold, rfl, rfl, rfl⟩
  refine
    { ha with
      jobs_length := by rw [List.length_set, ha.jobs_length]
      job := fun hq hrequest => ?_
      owner := fun hq howned => ?_
      unsent := fun hq hsubmitting => ?_ }
  · rcases hread hq with rfl | ⟨q', hq', hsame, -, -⟩
    · cases hrequest
    · exact ha.job hq' (hsame.symm.trans hrequest)
  · rcases hread hq with rfl | ⟨q', hq', -, hsame, -⟩
    · cases howned
    · exact ha.owner hq' (hsame.symm.trans howned)
  · rcases hread hq with rfl | ⟨q', hq', -, -, hsame⟩
    · cases hsubmitting
    · exact ha.unsent hq' (hsame.symm.trans hsubmitting)

theorem jobs_concat {d : Deed} (hnone : d.job? = none) : jobs (h ++ [d]) = jobs h := by
  rw [jobs_append, jobs, jobs, List.filterMap_cons, hnone]
  exact List.append_nil _

theorem submitCalls_concat (hlt : ∀ w, .submit w ∈ h → w < (jobs h).length) {d : Deed}
    (hno : ∀ P, d.submitsBy P = false) (id : Uuid) :
    submitCalls (h ++ [d]) id = submitCalls h id := by
  rw [submitCalls_append hlt, List.countP_singleton, hno]
  rfl

/-- A deed that is no transition leaves what is said about the tables as it was. -/
theorem Account.concat (ha : Account db phases h) {phases' : List Phase} {d : Deed}
    (hnone : ∀ w id, d.target? w id = none) (hzero : ∀ id target, transitionsTo [d] id target = 0)
    (hlength : (jobs (h ++ [d])).length = phases'.length)
    (hjob : ∀ {i : ℕ} {p : Phase} {id : Uuid}, phases'[i]? = some p → p.request? = some id →
      (jobs (h ++ [d]))[i]? = some id)
    (hlt : ∀ w, .submit w ∈ h ++ [d] → w < (jobs (h ++ [d])).length)
    (howner : ∀ {i : ℕ} {p : Phase} {id : Uuid}, phases'[i]? = some p → p.owned? = some id →
      Submitting h i id)
    (hsent : ∀ id, submitCalls (h ++ [d]) id ≤ transitionsTo h id .submitted)
    (hunsent : ∀ {i : ℕ} {p : Phase} {id : Uuid}, phases'[i]? = some p →
      p.submitting? = some id → submitCalls (h ++ [d]) id < transitionsTo h id .submitted) :
    Account db phases' (h ++ [d]) := by
  have htransitions : ∀ id target,
      transitionsTo (h ++ [d]) id target = transitionsTo h id target := by
    intro id target
    rw [transitionsTo_append, hzero, add_zero]
  have hsubmitting : ∀ {w id}, Submitting (h ++ [d]) w id ↔ Submitting h w id :=
    submitting_append_of_none (hnone _ _)
  constructor
  · exact hlength
  · exact hjob
  · exact hlt
  · intro i p id hp hown
    exact hsubmitting.mpr (howner hp hown)
  · intro w id hw
    exact ha.submitted (hsubmitting.mp hw)
  · intro w w' id hw hw'
    exact ha.unique (hsubmitting.mp hw) (hsubmitting.mp hw')
  · intro id
    rw [claims, htransitions, htransitions]
    exact ha.claimed id
  · intro id
    rw [htransitions]
    exact hsent id
  · intro i p id hp hsub
    rw [htransitions]
    exact hunsent hp hsub
  · intro id
    rw [htransitions]
    exact ha.succeeded id

/-- A worker calls `submit()`. -/
theorem Account.submit (ha : Account db phases h) (hp : phases[i]? = some p) {id : Uuid}
    (hwas : p.submitting? = some id) (hrequest : p'.request? = some id)
    (howned : p'.owned? = some id) (hsent : p'.submitting? = none) :
    Account db (phases.set i p') (h ++ [.submit i]) := by
  have hjobs : jobs (h ++ [.submit i]) = jobs h := jobs_concat rfl
  have hi : i < phases.length := (List.getElem?_eq_some_iff.mp hp).1
  have howns : Submitting h i id := ha.owner hp (Phase.owned_of_submitting hwas)
  have hjob : (jobs h)[i]? = some id := by
    refine ha.job hp ?_
    cases p with
    | submitting id' row mandate => exact hwas
    | _ => cases hwas
  have hcalls : ∀ id', submitCalls (h ++ [.submit i]) id'
      = submitCalls h id' + if id = id' then 1 else 0 := by
    intro id'
    rw [submitCalls_append ha.submit_lt, List.countP_singleton, hjobs, Deed.submitsBy, hjob]
    simp
  refine ha.concat (fun _ _ => rfl) (fun _ _ => rfl) ?_ ?_ ?_ ?_ ?_ ?_
  · rw [hjobs, List.length_set, ha.jobs_length]
  · intro j q id' hq hreq
    rw [hjobs]
    rcases Workers.getElem?_set_cases hq with ⟨rfl, rfl⟩ | ⟨-, hold⟩
    · cases hrequest.symm.trans hreq
      exact hjob
    · exact ha.job hold hreq
  · intro w hw
    rw [hjobs, ha.jobs_length]
    rcases List.mem_append.mp hw with hw | hw
    · rw [← ha.jobs_length]
      exact ha.submit_lt w hw
    · cases List.mem_singleton.mp hw
      exact hi
  · intro j q id' hq hown
    rcases Workers.getElem?_set_cases hq with ⟨rfl, rfl⟩ | ⟨-, hold⟩
    · cases howned.symm.trans hown
      exact howns
    · exact ha.owner hold hown
  · intro id'
    rw [hcalls]
    split
    · rename_i heq
      subst heq
      exact ha.unsent hp hwas
    · exact ha.sent id'
  · intro j q id' hq hsub
    rcases Workers.getElem?_set_cases hq with ⟨rfl, rfl⟩ | ⟨hji, hold⟩
    · cases hsent.symm.trans hsub
    · -- two workers that are about to send, send for different requests
      have hne : id ≠ id' := by
        rintro rfl
        exact hji (ha.unique (ha.owner hold (Phase.owned_of_submitting hsub)) howns)
      rw [hcalls, if_neg hne]
      exact ha.unsent hold hsub

theorem Db.indicator_eq {id : Uuid} {st : ChargeRequestStatus} (hst : db.statusOf id = some st)
    (st' : ChargeRequestStatus) : db.indicator id st' = if st = st' then 1 else 0 := by
  rw [Db.indicator, hst]
  simp

theorem Db.Moves.indicator_others {id id' : Uuid} {source target : ChargeRequestStatus}
    (hmoves : db.Moves db' id source target) (hne : id' ≠ id) (st : ChargeRequestStatus) :
    db'.indicator id' st = db.indicator id' st := by
  rw [Db.indicator, hmoves.others id' hne, Db.indicator]

/-- A claim is opened by a transition to `processing` and closed by one to `submitted`, or by a
failure. -/
theorem Db.Moves.openClaim {id : Uuid} {source target : ChargeRequestStatus}
    (hmoves : db.Moves db' id source target) :
    (if target = .submitted then 1 else 0) + db'.openClaim id
      ≤ db.openClaim id + if target = .processing then 1 else 0 := by
  have hlegal := hmoves.legal
  simp only [Db.openClaim, Db.indicator_eq hmoves.was, Db.indicator_eq hmoves.becomes]
  cases source <;> cases target <;> simp [legalTransitions] at hlegal ⊢

/-- Only the worker that releases a request has it. -/
theorem Account.releases (ha : Account db phases h) (hp : phases[i]? = some p) {id : Uuid}
    {source target : ChargeRequestStatus} (hmoves : db.Moves db' id source target)
    (hreleases : source = .submitted → p.owned? = some id) {w : ℕ} (hw : Submitting h w id) :
    w = i := by
  have hsource : source = .submitted :=
    Option.some.inj (hmoves.was.symm.trans (ha.submitted hw))
  exact ha.unique hw (ha.owner hp (hreleases hsource))

/-- After a transition, too, a request that a worker has is `submitted`, and no other worker has
it. -/
theorem Account.exclusive_transition (ha : Account db phases h) (hp : phases[i]? = some p)
    {id : Uuid} {source target : ChargeRequestStatus} (hmoves : db.Moves db' id source target)
    (hreleases : source = .submitted → p.owned? = some id) :
    (∀ {w id'}, Submitting (h ++ [.transition i id source target]) w id' →
      db'.statusOf id' = some .submitted) ∧
    ∀ {w w' id'}, Submitting (h ++ [.transition i id source target]) w id' →
      Submitting (h ++ [.transition i id source target]) w' id' → w = w' := by
  -- a worker that has this request is this worker
  have hself : ∀ {w}, Submitting (h ++ [.transition i id source target]) w id → w = i := by
    intro w hw
    rw [submitting_append_transition] at hw
    split at hw
    · rename_i heq
      exact heq.1
    · exact ha.releases hp hmoves hreleases hw
  have hother : ∀ {w id'}, id' ≠ id →
      (Submitting (h ++ [.transition i id source target]) w id' ↔ Submitting h w id') := by
    intro w id' hne
    rw [submitting_append_transition, if_neg fun heq => hne heq.2]
  constructor
  · intro w id' hw
    by_cases hid : id' = id
    · subst hid
      obtain rfl := hself hw
      rw [submitting_append_transition, if_pos ⟨rfl, rfl⟩] at hw
      rw [hmoves.becomes, hw]
    · rw [hmoves.others id' hid]
      exact ha.submitted ((hother hid).mp hw)
  · intro w w' id' hw hw'
    by_cases hid : id' = id
    · subst hid
      rw [hself hw, hself hw']
    · exact ha.unique ((hother hid).mp hw) ((hother hid).mp hw')

theorem transitionsTo_concat (h : List Deed) (worker : ℕ) (id id' : Uuid)
    (source target target' : ChargeRequestStatus) :
    transitionsTo (h ++ [.transition worker id source target]) id' target'
      = transitionsTo h id' target' + if id = id' ∧ target = target' then 1 else 0 := by
  rw [transitionsTo_append, transitionsTo_transition]

/-- A transition to `submitted` uses up a claim. -/
theorem Account.claimed_transition (ha : Account db phases h) (worker : ℕ) {id : Uuid}
    {source target : ChargeRequestStatus} (hmoves : db.Moves db' id source target) (id' : Uuid) :
    transitionsTo (h ++ [.transition worker id source target]) id' .submitted + db'.openClaim id'
      ≤ claims (h ++ [.transition worker id source target]) id' := by
  have hclaimed := ha.claimed id'
  rw [claims] at hclaimed ⊢
  rw [transitionsTo_concat, transitionsTo_concat]
  by_cases hid : id = id'
  · subst hid
    have hopen := hmoves.openClaim
    simp only [true_and]
    omega
  · have hsame : db'.openClaim id' = db.openClaim id' := by
      simp only [Db.openClaim, hmoves.indicator_others (Ne.symm hid)]
    rw [if_neg fun heq => hid heq.1, if_neg fun heq => hid heq.1, hsame]
    exact hclaimed

/-- A request gets to `succeeded` once, since it stays there. -/
theorem Account.succeeded_transition (ha : Account db phases h) (worker : ℕ) {id : Uuid}
    {source target : ChargeRequestStatus} (hmoves : db.Moves db' id source target) (id' : Uuid) :
    transitionsTo (h ++ [.transition worker id source target]) id' .succeeded
      = db'.indicator id' .succeeded := by
  rw [transitionsTo_concat, ha.succeeded]
  by_cases hid : id = id'
  · subst hid
    rw [Db.indicator_eq hmoves.was, Db.indicator_eq hmoves.becomes,
      if_neg (hmoves.source_ne rfl)]
    simp
  · rw [if_neg fun heq => hid heq.1, hmoves.indicator_others (Ne.symm hid), add_zero]

/-- A worker commits a transition. -/
theorem Account.transition (ha : Account db phases h) (hp : phases[i]? = some p) {id : Uuid}
    {source target : ChargeRequestStatus} (hmoves : db.Moves db' id source target)
    (hwas : p.request? = some id) (hrequest : p' = .over ∨ p'.request? = some id)
    (hreleases : source = .submitted → p.owned? = some id)
    (htakes : target ≠ .submitted → p'.owned? = none)
    (howned : ∀ id', p'.owned? = some id' → id' = id)
    (hsub : ∀ id', p'.submitting? = some id' → p'.owned? = some id') :
    Account db' (phases.set i p') (h ++ [.transition i id source target]) := by
  have hjobs : jobs (h ++ [.transition i id source target]) = jobs h := jobs_concat rfl
  have hcalls : ∀ id', submitCalls (h ++ [.transition i id source target]) id'
      = submitCalls h id' := submitCalls_concat ha.submit_lt fun _ => rfl
  have hexclusive := ha.exclusive_transition hp hmoves hreleases
  -- this worker has a request now only if it has just taken this one
  have htaken : ∀ {id'}, p'.owned? = some id' → id' = id ∧ target = .submitted := by
    intro id' hown
    refine ⟨howned id' hown, ?_⟩
    by_contra hne
    cases (htakes hne).symm.trans hown
  refine
    { jobs_length := by rw [hjobs, List.length_set, ha.jobs_length]
      job := ?_
      submit_lt := ?_
      owner := ?_
      submitted := hexclusive.1
      unique := hexclusive.2
      claimed := ha.claimed_transition i hmoves
      sent := ?_
      unsent := ?_
      succeeded := ha.succeeded_transition i hmoves }
  · intro j q id' hq hreq
    rw [hjobs]
    rcases Workers.getElem?_set_cases hq with ⟨rfl, rfl⟩ | ⟨-, hold⟩
    · rcases hrequest with rfl | hrequest
      · cases hreq
      · cases hrequest.symm.trans hreq
        exact ha.job hp hwas
    · exact ha.job hold hreq
  · intro w hw
    rw [hjobs]
    rcases List.mem_append.mp hw with hw | hw
    · exact ha.submit_lt w hw
    · cases List.mem_singleton.mp hw
  · intro j q id' hq hown
    rw [submitting_append_transition]
    rcases Workers.getElem?_set_cases hq with ⟨rfl, rfl⟩ | ⟨hji, hold⟩
    · obtain ⟨rfl, htarget⟩ := htaken hown
      rw [if_pos ⟨rfl, rfl⟩]
      exact htarget
    · rw [if_neg fun heq => hji heq.1]
      exact ha.owner hold hown
  · intro id'
    rw [hcalls, transitionsTo_concat]
    have := ha.sent id'
    omega
  · intro j q id' hq hsubmitting
    rw [hcalls, transitionsTo_concat]
    rcases Workers.getElem?_set_cases hq with ⟨rfl, rfl⟩ | ⟨-, hold⟩
    · -- its own transition has made room for one more call
      obtain ⟨rfl, htarget⟩ := htaken (hsub id' hsubmitting)
      rw [if_pos ⟨rfl, htarget⟩]
      have := ha.sent id'
      omega
    · have := ha.unsent hold hsubmitting
      omega

/-- A job is started. -/
theorem Account.start (ha : Account db phases h) (id : Uuid) :
    Account db (phases ++ [.fresh id]) (h ++ [.starts id]) := by
  have hjobs : jobs (h ++ [.starts id]) = jobs h ++ [id] := jobs_append _ _
  have hcalls : ∀ id', submitCalls (h ++ [.starts id]) id' = submitCalls h id' :=
    submitCalls_concat ha.submit_lt fun _ => rfl
  have hread : ∀ {j : ℕ} {q : Phase}, (phases ++ [.fresh id])[j]? = some q →
      phases[j]? = some q ∨ (j = phases.length ∧ q = .fresh id) := by
    intro j q hq
    by_cases hj : j < phases.length
    · rw [List.getElem?_append_left hj] at hq
      exact .inl hq
    · rw [List.getElem?_append_right (by omega)] at hq
      have hlast := List.mem_singleton.mp (List.mem_of_getElem? hq)
      have hzero := (List.getElem?_eq_some_iff.mp hq).1
      rw [List.length_singleton] at hzero
      exact .inr ⟨by omega, hlast⟩
  -- the new worker has read nothing yet, so it owns and sends nothing
  refine ha.concat (fun _ _ => rfl) (fun _ _ => rfl) ?_ ?_ ?_ ?_ ?_ ?_
  · rw [hjobs, List.length_append, List.length_append, ha.jobs_length]
    rfl
  · intro j q id' hq hreq
    rw [hjobs]
    rcases hread hq with hold | ⟨rfl, rfl⟩
    · have hjob := ha.job hold hreq
      rw [List.getElem?_append_left (List.getElem?_eq_some_iff.mp hjob).1, hjob]
    · cases hreq
      rw [← ha.jobs_length]
      exact List.getElem?_concat_length
  · intro w hw
    rw [hjobs, List.length_append]
    rcases List.mem_append.mp hw with hw | hw
    · have := ha.submit_lt w hw
      omega
    · cases List.mem_singleton.mp hw
  · intro j q id' hq hown
    rcases hread hq with hold | ⟨-, rfl⟩
    · exact ha.owner hold hown
    · cases hown
  · intro id'
    rw [hcalls]
    exact ha.sent id'
  · intro j q id' hq hsub
    rcases hread hq with hold | ⟨-, rfl⟩
    · rw [hcalls]
      exact ha.unsent hold hsub
    · cases hsub

end

/-! ## Runs -/

section

variable {T : Type} {host : Host T}

theorem Happens.account {s s' : Shared T} {action : Action T} {phases : List Phase} {h : List Deed}
    (hh : Happens host s action s') (ha : Account s.db phases h) : Account s'.db phases h := by
  have hterminal := hh.quiet.terminal
  refine ha.frame (fun id hst => hh.statusOf hst (by simp) (by simp)) (fun id => ?_) fun id => ?_
  · -- recovery closes a claim, and a new request has none
    simp only [Db.openClaim, Db.indicator]
    rcases hh.statusOf_cases id with hsame | ⟨-, hafter⟩ | ⟨-, hafter⟩
    · rw [hsame]
    · simp [hafter]
    · simp [hafter]
  · simp only [Db.indicator, hterminal id .succeeded rfl]

theorem Notes.account {worker : ℕ} {db db' : Db} {phases : List Phase} {p p' : Phase}
    {h ds : List Deed} (hn : Notes worker db db' p p' ds) (ha : Account db phases h)
    (hp : phases[worker]? = some p) : Account db' (phases.set worker p') (h ++ ds) := by
  cases hn with
  | silent hsame hkept =>
      rw [List.append_nil]
      exact (ha.sameRequests hsame).silent hp hkept
  | submit id hsame hwas hrequest howned hsent =>
      exact (ha.sameRequests hsame).submit hp hwas hrequest howned hsent
  | transition id source target hmoves hwas hrequest hreleases htakes howned hsub =>
      exact ha.transition hp hmoves hwas hrequest hreleases htakes howned hsub

/-- **One action**: the account goes on with its deeds. -/
theorem account_exec (deps : PipelineDeps) (q : System T × List Deed) (action : Action T)
    (ha : Workers.Tracked Move (fun s phases => Account s.db phases q.2) q.1) :
    Workers.Tracked Move
      (fun s phases => Account s.db phases (q.2 ++ deeds host q.1 action))
      (exec host deps q.1 action) := by
  cases action with
  | start id =>
      exact ha.start_to (processChargeRequest_obeys deps id) fun phases hold => hold.start id
  | work i reply =>
      refine ha.work_to (fun phases p e k p' hold hp hk hmove => ?_) fun hnone phases hold => ?_
      · have hdeeds : deeds host q.1 (.work i reply)
            = effectDeeds i e (perform host reply e q.1.shared).1 := by
          rw [deeds, hk]
        rw [hdeeds]
        exact (notes_of_move hmove).account hold hp
      · have hdeeds : deeds host q.1 (.work i reply) = [] := by
          rw [deeds]
          split
          · rename_i e k hk
            exact absurd hk (hnone e k)
          · rfl
        rw [hdeeds, List.append_nil]
        exact hold
  | _ =>
      simp only [deeds, List.append_nil]
      exact ha.outside fun phases hin hold => (happens_outside host _ _).account hold

theorem account_initial (t₀ : U64) (tok₀ : T) :
    Account (initial t₀ tok₀).shared.db [] [] := by
  have hempty : ∀ {w : ℕ} {id : Uuid}, ¬ Submitting [] w id := by
    intro w id hw
    cases hw
  exact
    { jobs_length := rfl
      job := fun hp => by simp at hp
      submit_lt := fun w hw => by cases hw
      owner := fun hp => by simp at hp
      submitted := fun hw => absurd hw hempty
      unique := fun hw => absurd hw hempty
      claimed := fun id => le_rfl
      sent := fun id => le_rfl
      unsent := fun hp => by simp at hp
      succeeded := fun id => rfl }

/-- **In every run the account is kept.** -/
theorem account_run (host : Host T) (deps : PipelineDeps) (t₀ : U64) (tok₀ : T)
    (actions : List (Action T)) :
    Workers.Tracked Move
      (fun s phases => Account s.db phases (history host deps (initial t₀ tok₀) actions))
      (run host deps (initial t₀ tok₀) actions) := by
  have hrun := @Runs.run_invariant _ _ (Runs.noting (exec host deps) (deeds host))
    (fun q : System T × List Deed =>
      Workers.Tracked Move (fun s phases => Account s.db phases q.2) q.1)
    (account_exec deps) (initial t₀ tok₀, [])
    ⟨[], ⟨rfl, fun hi => by cases hi⟩, account_initial t₀ tok₀⟩ actions
  rw [Runs.run_noting] at hrun
  exact hrun

/-- A worker that calls `submit()` works on a submitted request. -/
theorem Notes.submitCalls {worker : ℕ} {db db' : Db} {phases : List Phase} {p p' : Phase}
    {h ds : List Deed} (hn : Notes worker db db' p p' ds) (ha : Account db phases h)
    (hp : phases[worker]? = some p) {id : Uuid} (hst : db.statusOf id ≠ some .submitted) :
    submitCalls (h ++ ds) id = submitCalls h id := by
  cases hn with
  | silent => rw [List.append_nil]
  | transition => exact submitCalls_concat ha.submit_lt (fun _ => rfl) id
  | submit id' hsame hwas hrequest howned hsent =>
      have howns := ha.owner hp (Phase.owned_of_submitting hwas)
      have hne : id' ≠ id := by
        rintro rfl
        exact hst (ha.submitted howns)
      have hjob : (jobs h)[worker]? = some id' := by
        refine ha.job hp ?_
        cases p with
        | submitting id row mandate => exact hwas
        | _ => cases hwas
      rw [submitCalls_append ha.submit_lt, List.countP_singleton, jobs_concat rfl, Deed.submitsBy,
        hjob]
      simp [hne]

/-- A request that has come to an end is not submitted again. -/
theorem submitCalls_exec {s : System T} {h : List Deed} (action : Action T) {id : Uuid}
    {st : ChargeRequestStatus} (hterminal : legalTransitions st = [])
    (ha : Workers.Tracked Move (fun s phases => Account s.db phases h) s)
    (hst : s.shared.db.statusOf id = some st) :
    submitCalls (h ++ deeds host s action) id = submitCalls h id := by
  obtain ⟨phases, hin, hold⟩ := ha
  have hne : s.shared.db.statusOf id ≠ some .submitted := by
    rw [hst]
    rintro ⟨⟩
    simp [legalTransitions] at hterminal
  cases action with
  | start id' => exact submitCalls_concat hold.submit_lt (fun _ => rfl) id
  | work i reply =>
      rw [deeds]
      split
      · rename_i e k hk
        obtain ⟨p, hp, hmoves⟩ := hin.allows hk
        obtain ⟨p', hmove, -⟩ := hmoves (perform host reply e s.shared).1
        exact (notes_of_move hmove).submitCalls hold hp hne
      · rw [List.append_nil]
  | _ => rw [deeds, List.append_nil] <;> simp

/-- **Submissions exclude each other.** In every run and for every request at most one worker is
between its own transition to `submitted` and the one that records its result; `submit()` is called
no more often than the request was claimed, and never again once the request has come to an end; and
there is at most one transition to `succeeded` and at most one payment. -/
theorem submission_mutual_exclusion (host : Host T) (deps : PipelineDeps) (t₀ : U64) (tok₀ : T)
    (actions : List (Action T)) (id : Uuid) :
    (∀ w w', Submitting (history host deps (initial t₀ tok₀) actions) w id →
      Submitting (history host deps (initial t₀ tok₀) actions) w' id → w = w') ∧
    submitCalls (history host deps (initial t₀ tok₀) actions) id
      ≤ claims (history host deps (initial t₀ tok₀) actions) id ∧
    (∀ st, st = .succeeded ∨ st = .permanentlyFailed →
      (run host deps (initial t₀ tok₀) actions).shared.db.statusOf id = some st →
      ∀ later, submitCalls (history host deps (initial t₀ tok₀) (actions ++ later)) id
        = submitCalls (history host deps (initial t₀ tok₀) actions) id) ∧
    transitionsTo (history host deps (initial t₀ tok₀) actions) id .succeeded ≤ 1 ∧
    ((run host deps (initial t₀ tok₀) actions).shared.db.paymentsOf id).length ≤ 1 := by
  obtain ⟨phases, -, ha⟩ := account_run host deps t₀ tok₀ actions
  have hindicator : (run host deps (initial t₀ tok₀) actions).shared.db.indicator id .succeeded
      ≤ 1 := by
    unfold Db.indicator
    split <;> simp
  obtain ⟨_, -, -, hconsistent⟩ := consistent_run host deps t₀ tok₀ actions id
  refine ⟨fun w w' hw hw' => ha.unique hw hw', (ha.sent id).trans ?_, ?_, ?_, ?_⟩
  · have := ha.claimed id
    omega
  · intro st hst hstatus later
    have hterminal := terminal_of_ended hst
    induction later using List.reverseRecOn with
    | nil => rw [List.append_nil]
    | append_singleton later action ih =>
        -- one action more, from a state in which the request is still at its end
        have hunchanged := unchanged_run host deps t₀ tok₀ actions later hterminal hstatus
        have hkept := hunchanged.statusOf.trans hstatus
        have hdeeds : history host deps (initial t₀ tok₀) (actions ++ (later ++ [action]))
            = history host deps (initial t₀ tok₀) (actions ++ later)
              ++ deeds host (run host deps (initial t₀ tok₀) (actions ++ later)) action := by
          rw [← List.append_assoc, history, Runs.notes_append, history]
          simp [Runs.notes, Runs.trace]
        rw [hdeeds, submitCalls_exec action hterminal (account_run host deps t₀ tok₀ _) hkept]
        exact ih
  · rw [ha.succeeded id]
    exact hindicator
  · rw [hconsistent.payments]
    exact hindicator

set_option maxRecDepth 4000 in
theorem submission_mutual_exclusion_mock :
    submitCalls (history Registry.mockHost mockDeps mockSystem promptInclusion) 1 = 1 ∧
      submitCalls (history Registry.mockHost mockDeps mockSystem (promptInclusion ++ [.start 1])) 1
        = 1 := by
  have h := submission_mutual_exclusion Registry.mockHost mockDeps 0 Registry.mockFunds
    promptInclusion 1
  have hone : submitCalls (history Registry.mockHost mockDeps mockSystem promptInclusion) 1 = 1 := by
    decide
  exact ⟨hone, (h.2.2.1 .succeeded (.inl rfl) (by decide) [.start 1]).trans hone⟩

end

end Paymap.Relayer
