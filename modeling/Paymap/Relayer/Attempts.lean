import Paymap.Relayer.Edges
import Paymap.Relayer.Submissions

set_option autoImplicit false

/-! # How often a request is attempted

The retry schedule bounds the attempts of a request by what `attemptCount` says. The column is
written by the claim, from a row that was read before, and the guard of the claim compares the
status and not the count; and a request that recovery makes retryable is claimed again whatever the
schedule says. So the bound holds where no claim is made from an outdated row, no retry is recorded
by a worker whose claim is not the last one, and no recovery meets a request whose attempts are used
up (`Orderly`). Under these conditions the column counts the claims and the schedule ends them.
-/

namespace Paymap.Relayer

open Registry (Host)

/-! ## The condition -/

def Deed.claimant? (id : Uuid) : Deed → Option ℕ
  | .transition worker id' _ .processing => if id' = id then some worker else none
  | _ => none

/-- The worker that has claimed the request last. -/
def lastClaimant (h : List Deed) (id : Uuid) : Option ℕ :=
  (h.filterMap (Deed.claimant? id)).getLast?

/-- A claim that finds the request claimable counts from the stored row, and a retry is recorded by
the worker that has claimed the request last. -/
def Statement.Orderly (db : Db) (h : List Deed) (worker : ℕ) : Statement → Prop
  | .transition id source .processing data =>
      ∀ row ∈ db.chargeRequests.lookup id, row.status = source →
        data.attemptCount = some (row.attemptCount + 1)
  | .transition id _ .retryableFailed _ => lastClaimant h id = some worker
  | _ => True

instance (db : Db) (h : List Deed) (worker : ℕ) (statement : Statement) :
    Decidable (statement.Orderly db h worker) := by
  unfold Statement.Orderly
  split <;> infer_instance

/-- The statements of the transaction a program runs next. -/
def statements (w : Pipeline PipelineOutcome) : List Statement :=
  match w with
  | .call (.transact statements) _ => statements
  | _ => []

section

variable {T : Type}

/-- The condition on a step, made in a state and after some deeds. -/
def Orderly (q : System T × List Deed) : Action T → Prop
  | .work worker _ => ∀ w ∈ q.1.running[worker]?, ∀ statement ∈ statements w,
      statement.Orderly q.1.shared.db q.2 worker
  | .recoverStale => ∀ row ∈ FinMap.values q.1.shared.db.chargeRequests,
      row.Stale q.1.shared.clock → row.attemptCount < maxAttempts
  | _ => True

instance (q : System T × List Deed) : (action : Action T) → Decidable (Orderly q action)
  | .work worker _ => inferInstanceAs (Decidable (∀ w ∈ q.1.running[worker]?,
      ∀ statement ∈ statements w, statement.Orderly q.1.shared.db q.2 worker))
  | .recoverStale => inferInstanceAs (Decidable
      (∀ row ∈ FinMap.values q.1.shared.db.chargeRequests,
        row.Stale q.1.shared.clock → row.attemptCount < maxAttempts))
  | .start _ | .tick _ | .execute .. | .chain _ | .closeLedgers _ | .createAuthorization _
  | .completeAuthorization .. | .setMerchant .. | .setCheckoutSession .. => .isTrue trivial

end

/-! ## What a step does to the count -/

/-- The stored `attemptCount`. -/
def Db.attemptsOf (db : Db) (id : Uuid) : ℕ :=
  ((db.chargeRequests.lookup id).map ChargeRequest.attemptCount).getD 0

/-- The request a worker has claimed, with the row it has read before. -/
def Phase.claimed? : Phase → Option (Uuid × ChargeRequest)
  | .found _ _ => none
  | p => p.row?

def Statement.setsAttempts : Statement → Bool
  | .transition _ _ _ data => data.attemptCount.isSome
  | _ => false

section

variable {now : Time} {db db' : Db} {id : Uuid}

theorem attemptsOf_setChargeRequest (row : ChargeRequest) (id' : Uuid) :
    (db.setChargeRequest id row).attemptsOf id'
      = if id' = id then row.attemptCount else db.attemptsOf id' := by
  unfold Db.attemptsOf Db.setChargeRequest
  rw [FinMap.lookup_insert]
  split <;> rfl

theorem attemptsOf_eq {row : ChargeRequest} (h : db.chargeRequests.lookup id = some row) :
    db.attemptsOf id = row.attemptCount := by
  rw [Db.attemptsOf, h]
  rfl

theorem attemptsOf_congr (h : db'.chargeRequests = db.chargeRequests) (id : Uuid) :
    db'.attemptsOf id = db.attemptsOf id := by
  rw [Db.attemptsOf, h, Db.attemptsOf]

/-- A row written with its own count leaves the counts as they are. -/
theorem attemptsOf_setChargeRequest_same {row row' : ChargeRequest}
    (h : db.chargeRequests.lookup id = some row) (hsame : row'.attemptCount = row.attemptCount)
    (id' : Uuid) : (db.setChargeRequest id row').attemptsOf id' = db.attemptsOf id' := by
  rw [attemptsOf_setChargeRequest]
  split
  · rename_i heq
    rw [heq, attemptsOf_eq h, hsame]
  · rfl

theorem exec_attempts {statement : Statement} (hno : statement.setsAttempts = false)
    (h : statement.exec now db = .ok db') (id : Uuid) : db'.attemptsOf id = db.attemptsOf id := by
  cases statement with
  | transition id' source target data =>
      obtain ⟨-, row, hrow, -, rfl⟩ := transitionChargeRequest_ok.mp h
      refine attemptsOf_setChargeRequest_same hrow ?_ id
      have hnone : data.attemptCount = none := by simpa [Statement.setsAttempts] using hno
      show data.attemptCount.getD row.attemptCount = row.attemptCount
      rw [hnone]
      rfl
  | setTransactionHash id' hash =>
      simp only [Statement.exec, setTransactionHash] at h
      split at h
      · rename_i row hrow
        cases h
        refine attemptsOf_setChargeRequest_same hrow ?_ id
        rfl
      · cases h
  | createPayment payment => exact attemptsOf_congr (exec_requests rfl h) id
  | updateAuthorization id' status consumedAt => exact attemptsOf_congr (exec_requests rfl h) id
  | createDelivery delivery => exact attemptsOf_congr (exec_requests rfl h) id

theorem setsAttempts_of_writesRequest {statement : Statement}
    (hno : statement.writesRequest = false) : statement.setsAttempts = false := by
  cases statement with
  | transition => cases hno
  | _ => rfl

theorem transact_attempts {statements : List Statement}
    (hno : ∀ statement ∈ statements, statement.setsAttempts = false)
    (h : transact now statements db = .ok db') (id : Uuid) :
    db'.attemptsOf id = db.attemptsOf id := by
  induction statements generalizing db with
  | nil =>
      obtain rfl := transact_nil_ok.mp h
      rfl
  | cons statement rest ih =>
      obtain ⟨db₁, hfirst, hrest⟩ := transact_cons_ok.mp h
      have hmid := exec_attempts (hno statement List.mem_cons_self) hfirst id
      exact (ih (fun st hst => hno st (List.mem_cons_of_mem _ hst)) hrest).trans hmid

theorem attemptsOf_recover (id : Uuid) :
    (recoverStalePreSubmissionCharges now db).attemptsOf id = db.attemptsOf id := by
  unfold recoverStalePreSubmissionCharges Db.attemptsOf
  rw [FinMap.lookup_mapValues]
  cases db.chargeRequests.lookup id with
  | none => rfl
  | some row =>
      simp only [Option.map_some, ChargeRequest.recovered]
      split <;> rfl

theorem statusOf_recover_retryable
    (hst : (recoverStalePreSubmissionCharges now db).statusOf id = some .retryableFailed) :
    db.statusOf id = some .retryableFailed ∨
      ∃ row, db.chargeRequests.lookup id = some row ∧ row.Stale now := by
  unfold recoverStalePreSubmissionCharges Db.statusOf at hst
  rw [FinMap.lookup_mapValues] at hst
  unfold Db.statusOf
  cases hrow : db.chargeRequests.lookup id with
  | none =>
      rw [hrow] at hst
      cases hst
  | some row =>
      rw [hrow] at hst
      simp only [Option.map_some, ChargeRequest.recovered] at hst
      split at hst
      · rename_i hstale
        exact .inr ⟨row, rfl, hstale⟩
      · exact .inl hst

/-- A new request has not been attempted. -/
theorem attemptsOf_complete {authorizationId : Uuid} {ciphertext : ℕ}
    (h : completeChargeAuthorization now db authorizationId id ciphertext = .ok db') (id' : Uuid) :
    db'.attemptsOf id' = db.attemptsOf id' := by
  obtain ⟨authorization, -, hfresh, -, hrequests, -, -⟩ := completeChargeAuthorization_ok h
  rw [Db.attemptsOf, hrequests, FinMap.lookup_insert, Db.attemptsOf]
  split
  · rename_i heq
    rw [heq, hfresh]
    rfl
  · rfl

end

section

variable {T : Type} {host : Host T} {reply : Reply} {s s' : Shared T} {p p' : Phase} {e : Effect}

/-- Of a step that is no claim: the counts stay, no request gets to `processing`, and one that gets to
`retryableFailed` does so by a retry that the schedule allows its worker. -/
structure Unclaimed (s s' : Shared T) (p p' : Phase) (e : Effect) : Prop where
  attempts : ∀ id, s'.db.attemptsOf id = s.db.attemptsOf id
  claimed : ∀ {id : Uuid} {row : ChargeRequest}, p'.claimed? = some (id, row) →
    p.claimed? = some (id, row)
  processing : ∀ {id : Uuid}, s'.db.statusOf id = some .processing →
    s.db.statusOf id = some .processing
  unstarted : ∀ {id : Uuid}, s'.db.statusOf id = some .scheduled →
    s.db.statusOf id = some .scheduled
  retryable : ∀ {id : Uuid}, s'.db.statusOf id = some .retryableFailed →
    s.db.statusOf id = some .retryableFailed ∨
      ∃ row source classified now nextAttemptAt, p.claimed? = some (id, row) ∧
        e = .transact (scheduleRetry id source classified.reason nextAttemptAt) ∧
        retryAt (row.attemptCount + 1) classified now = some nextAttemptAt

theorem unclaimed_of_sameRequests (hsame : s.db.SameRequests s'.db)
    (hattempts : ∀ id, s'.db.attemptsOf id = s.db.attemptsOf id)
    (hclaimed : ∀ {id row}, p'.claimed? = some (id, row) → p.claimed? = some (id, row)) :
    Unclaimed s s' p p' e where
  attempts := hattempts
  claimed := hclaimed
  processing h := (hsame.statusOf _).symm.trans h
  unstarted h := (hsame.statusOf _).symm.trans h
  retryable h := .inl ((hsame.statusOf _).symm.trans h)

/-- A transition that is neither a claim nor a retry. -/
theorem unclaimed_of_moves {id : Uuid} {source target : ChargeRequestStatus}
    (hmoves : s.db.Moves s'.db id source target)
    (hattempts : ∀ id, s'.db.attemptsOf id = s.db.attemptsOf id)
    (hclaimed : ∀ {id row}, p'.claimed? = some (id, row) → p.claimed? = some (id, row))
    (hprocessing : target ≠ .processing) (hscheduled : target ≠ .scheduled)
    (hretryable : target ≠ .retryableFailed) : Unclaimed s s' p p' e where
  attempts := hattempts
  claimed := hclaimed
  processing h := hmoves.of_becomes h hprocessing.symm
  unstarted h := hmoves.of_becomes h hscheduled.symm
  retryable h := .inl (hmoves.of_becomes h hretryable.symm)

theorem FailsFrom.claimed {id : Uuid} {row : ChargeRequest} {source : ChargeRequestStatus}
    (h : FailsFrom p id row source) : p.claimed? = some (id, row) := by
  cases h <;> rfl

/-- **A step of a worker is a claim, or it is none.** -/
theorem Worked.attempts (h : Worked reply s p e s' p') :
    (∃ id row db, p = .found id row ∧ p' = .working id row none ∧
      e = .transact [Relayer.claim id row] ∧ s' = s.commit db ∧
      transact s.clock [Relayer.claim id row] s.db = .ok db) ∨ Unclaimed s s' p p' e := by
  cases h with
  | claim id row db hdb => exact .inl ⟨id, row, db, rfl, rfl, rfl, rfl, hdb⟩
  | idle => exact .inr (unclaimed_of_sameRequests (.refl _) (fun _ => rfl) fun h => h)
  | ended => exact .inr (unclaimed_of_sameRequests (.refl _) (fun _ => rfl) fun h => by cases h)
  | find => exact .inr (unclaimed_of_sameRequests (.refl _) (fun _ => rfl) fun h => by cases h)
  | expire id row mandate authorizationId db hdb =>
      refine .inr (unclaimed_of_sameRequests (sameRequests_updateAuthorization hdb) ?_ fun h => h)
      exact transact_attempts (by simp [Statement.setsAttempts]) hdb
  | simulate id row mandate db hdb =>
      refine .inr (unclaimed_of_moves (moves_of_transact_one hdb) ?_ (fun h => h) (by simp)
        (by simp) (by simp))
      exact transact_attempts (by simp [Statement.setsAttempts]) hdb
  | submit id row mandate db hdb =>
      refine .inr (unclaimed_of_moves (moves_of_transact_one hdb) ?_ (fun h => h) (by simp)
        (by simp) (by simp))
      exact transact_attempts (by simp [Statement.setsAttempts]) hdb
  | setHash id row mandate error hash db hdb =>
      obtain ⟨db₁, hfirst, hrest⟩ := transact_cons_ok.mp hdb
      obtain rfl := transact_nil_ok.mp hrest
      refine .inr (unclaimed_of_sameRequests (sameRequests_setTransactionHash hfirst).1 ?_
        fun h => h)
      exact transact_attempts (by simp [Statement.setsAttempts]) hdb
  | retry p id row source classified now nextAttemptAt db hfails hdue hdb =>
      have hmoves := moves_scheduleRetry hdb
      refine .inr
        { attempts := transact_attempts (by simp [scheduleRetry, Statement.setsAttempts]) hdb
          claimed := fun h => by cases h
          processing := fun h => hmoves.of_becomes h (by simp)
          unstarted := fun h => hmoves.of_becomes h (by simp)
          retryable := fun {id'} h => ?_ }
      by_cases hid : id' = id
      · subst hid
        exact .inr ⟨row, source, classified, now, nextAttemptAt, hfails.claimed, rfl, hdue⟩
      · exact .inl ((hmoves.others id' hid).symm.trans h)
  | giveUp p id row source classified now db hfails _ hdb =>
      refine .inr (unclaimed_of_moves (moves_failPermanently hdb) ?_ (fun h => by cases h)
        (by simp) (by simp) (by simp))
      exact transact_attempts (by simp [failPermanently, Statement.setsAttempts]) hdb
  | succeed id row mandate receipt txHash ledger now db hdb =>
      refine .inr (unclaimed_of_moves (moves_recordSuccess hdb) ?_ (fun h => by cases h)
        (by simp) (by simp) (by simp))
      obtain ⟨rest, hbody, hrest⟩ := recordSuccess_eq id row mandate receipt txHash ledger now
      refine transact_attempts (fun statement hmem => ?_) hdb
      rw [hbody] at hmem
      rcases List.mem_append.mp hmem with hmem | hmem
      · obtain rfl := List.mem_singleton.mp hmem
        rfl
      · rcases List.mem_cons.mp hmem with rfl | hmem
        · rfl
        · exact setsAttempts_of_writesRequest (hrest statement hmem)
  | _ => exact .inr (unclaimed_of_sameRequests (.refl _) (fun _ => rfl) fun h => h)

end

/-! ## The tally of a history -/

section

variable {h ds : List Deed} {db db' : Db} {phases : List Phase} {id : Uuid}

theorem lastClaimant_concat (d : Deed) (id : Uuid) :
    lastClaimant (h ++ [d]) id = (d.claimant? id).or (lastClaimant h id) := by
  unfold lastClaimant
  rw [List.filterMap_append, List.filterMap_cons]
  cases d.claimant? id with
  | none => simp
  | some worker => simp

/-- These deeds hold no claim. -/
structure NoClaim (ds : List Deed) : Prop where
  claims : ∀ (h : List Deed) (id : Uuid), claims (h ++ ds) id = claims h id
  last : ∀ (h : List Deed) (id : Uuid), lastClaimant (h ++ ds) id = lastClaimant h id

theorem noClaim_nil : NoClaim [] :=
  ⟨fun h id => by rw [List.append_nil], fun h id => by rw [List.append_nil]⟩

theorem noClaim_singleton {d : Deed} (hclaim : ∀ id, d.takesTo id .processing = false)
    (hlast : ∀ id, d.claimant? id = none) : NoClaim [d] where
  claims h id := by
    rw [claims, transitionsTo_append, claims]
    simp [transitionsTo, hclaim]
  last h id := by rw [lastClaimant_concat, hlast, Option.none_or]

/-- The deed of a step that takes no request to `processing`. -/
theorem Notes.noClaim {worker : ℕ} {p p' : Phase} (hn : Notes worker db db' p p' ds)
    (hprocessing : ∀ {id}, db'.statusOf id = some .processing →
      db.statusOf id = some .processing) : NoClaim ds := by
  cases hn with
  | silent => exact noClaim_nil
  | submit => exact noClaim_singleton (fun _ => rfl) fun _ => rfl
  | transition id source target hmoves =>
      have htarget : target ≠ .processing := by
        rintro rfl
        have hwas := hprocessing hmoves.becomes
        exact hmoves.source_ne_target (Option.some.inj (hmoves.was.symm.trans hwas))
      refine noClaim_singleton (fun id' => by simp [Deed.takesTo, htarget]) fun id' => ?_
      cases target with
      | processing => exact absurd rfl htarget
      | _ => rfl

/-- The deed of a claim. -/
theorem Notes.of_claim {worker : ℕ} {p p' : Phase} (hn : Notes worker db db' p p' ds)
    {source : ChargeRequestStatus} (hmoves : db.Moves db' id source .processing) :
    ds = [.transition worker id source .processing] := by
  have hnot : ¬ db.SameRequests db' := by
    intro hsame
    have hstays := (hsame.statusOf id).symm.trans hmoves.becomes
    exact hmoves.source_ne_target (Option.some.inj (hmoves.was.symm.trans hstays))
  cases hn with
  | silent hsame => exact absurd hsame hnot
  | submit _ hsame => exact absurd hsame hnot
  | transition id' source' target' hmoves' =>
      -- only one request has moved
      have hid : id = id' := by
        by_contra hne
        have hstays := (hmoves'.others id hne).symm.trans hmoves.becomes
        exact hmoves.source_ne_target (Option.some.inj (hmoves.was.symm.trans hstays))
      subst hid
      obtain rfl := Option.some.inj (hmoves.was.symm.trans hmoves'.was)
      obtain rfl := Option.some.inj (hmoves.becomes.symm.trans hmoves'.becomes)
      rfl

/-- What the deeds so far say about the counts. -/
structure Tally (db : Db) (phases : List Phase) (h : List Deed) : Prop where
  counted : ∀ id, db.attemptsOf id = claims h id
  bounded : ∀ id, claims h id ≤ maxAttempts
  unstarted : ∀ {id : Uuid}, db.statusOf id = none ∨ db.statusOf id = some .scheduled →
    claims h id = 0
  retryable : ∀ {id : Uuid}, db.statusOf id = some .retryableFailed → claims h id < maxAttempts
  /-- The worker that has claimed a request last knows how often it was claimed. -/
  holder : ∀ {i : ℕ} {p : Phase} {id : Uuid} {row : ChargeRequest}, phases[i]? = some p →
    p.claimed? = some (id, row) → lastClaimant h id = some i → claims h id = row.attemptCount + 1

theorem legalEdge_none {before : Option ChargeRequestStatus} (h : LegalEdge before none) :
    before = none := by
  cases h
  rfl

/-- A claim from a row that is current. -/
theorem Tally.claim {i : ℕ} {row stored : ChargeRequest} {p' : Phase} (ht : Tally db phases h)
    (hstored : db.chargeRequests.lookup id = some stored)
    (hcurrent : row.attemptCount = stored.attemptCount)
    (hmoves : db.Moves db' id (claimFrom row) .processing)
    (hattempts : ∀ id', db'.attemptsOf id'
      = if id' = id then row.attemptCount + 1 else db.attemptsOf id')
    (hclaimed : p'.claimed? = some (id, row)) :
    Tally db' (phases.set i p') (h ++ [.transition i id (claimFrom row) .processing]) := by
  have hclaims : ∀ id', claims (h ++ [.transition i id (claimFrom row) .processing]) id'
      = claims h id' + if id = id' then 1 else 0 := by
    intro id'
    rw [claims, transitionsTo_concat, claims]
    simp
  have hcount : claims h id = row.attemptCount := by
    rw [← ht.counted, attemptsOf_eq hstored, hcurrent]
  have hother : ∀ {id'}, id ≠ id' →
      claims (h ++ [.transition i id (claimFrom row) .processing]) id' = claims h id' := by
    intro id' hne
    rw [hclaims, if_neg hne, Nat.add_zero]
  -- the request was claimable, so the schedule allows one attempt more
  have hroom : claims h id < maxAttempts := by
    have hwas := hmoves.was
    unfold claimFrom at hwas
    split at hwas
    · exact ht.retryable hwas
    · rw [ht.unstarted (.inr hwas)]
      decide
  have hstatus : ∀ {id' st}, db'.statusOf id' = some st → st ≠ .processing →
      id ≠ id' ∧ db.statusOf id' = some st := by
    intro id' st hst hne
    have hbefore := hmoves.of_becomes hst hne
    refine ⟨?_, hbefore⟩
    rintro rfl
    exact hne (Option.some.inj (hst.symm.trans hmoves.becomes))
  constructor
  · intro id'
    rw [hattempts, hclaims]
    by_cases hid : id' = id
    · rw [if_pos hid, if_pos hid.symm, hid, hcount]
    · rw [if_neg hid, if_neg (Ne.symm hid), ht.counted, Nat.add_zero]
  · intro id'
    have hbounded := ht.bounded id'
    rw [hclaims]
    split
    · rename_i hid
      rw [← hid]
      omega
    · omega
  · rintro id' (hnone | hscheduled)
    · have hbefore := hmoves.edgesLegal id'
      rw [hnone] at hbefore
      have hne : id ≠ id' := by
        rintro rfl
        cases hnone.symm.trans hmoves.becomes
      rw [hother hne]
      exact ht.unstarted (.inl (legalEdge_none hbefore))
    · obtain ⟨hne, hbefore⟩ := hstatus hscheduled (by simp)
      rw [hother hne]
      exact ht.unstarted (.inr hbefore)
  · intro id' hst
    obtain ⟨hne, hbefore⟩ := hstatus hst (by simp)
    rw [hother hne]
    exact ht.retryable hbefore
  · intro j q id' row' hq hrow' hlast
    rw [lastClaimant_concat, Deed.claimant?] at hlast
    rw [hclaims]
    by_cases hid : id = id'
    · -- this worker is the last claimant now
      rw [if_pos hid, Option.some_or] at hlast
      obtain rfl := Option.some.inj hlast
      obtain ⟨-, rfl⟩ | ⟨hne, -⟩ := Workers.getElem?_set_cases hq
      · obtain ⟨rfl, rfl⟩ := Prod.mk.inj (Option.some.inj (hclaimed.symm.trans hrow'))
        rw [if_pos rfl, hcount]
      · exact absurd rfl hne
    · rw [if_neg hid, Option.none_or] at hlast
      rw [if_neg hid, Nat.add_zero]
      obtain ⟨-, rfl⟩ | ⟨-, hold⟩ := Workers.getElem?_set_cases hq
      · obtain ⟨rfl, -⟩ := Prod.mk.inj (Option.some.inj (hclaimed.symm.trans hrow'))
        exact absurd rfl hid
      · exact ht.holder hold hrow' hlast

/-- A step after which the counts and the deeds say the same as before. -/
theorem Tally.frame {phases' : List Phase} (ht : Tally db phases h) (hno : NoClaim ds)
    (hattempts : ∀ id, db'.attemptsOf id = db.attemptsOf id)
    (hunstarted : ∀ {id}, db'.statusOf id = none ∨ db'.statusOf id = some .scheduled →
      claims h id = 0)
    (hretryable : ∀ {id}, db'.statusOf id = some .retryableFailed → claims h id < maxAttempts)
    (hholder : ∀ {i : ℕ} {p : Phase} {id : Uuid} {row : ChargeRequest}, phases'[i]? = some p →
      p.claimed? = some (id, row) →
        ∃ q, phases[i]? = some q ∧ q.claimed? = some (id, row)) :
    Tally db' phases' (h ++ ds) where
  counted id := by rw [hattempts, hno.claims, ht.counted]
  bounded id := by
    rw [hno.claims]
    exact ht.bounded id
  unstarted hst := by
    rw [hno.claims]
    exact hunstarted hst
  retryable hst := by
    rw [hno.claims]
    exact hretryable hst
  holder hp hclaimed hlast := by
    rw [hno.last] at hlast
    rw [hno.claims]
    obtain ⟨q, hq, hqclaimed⟩ := hholder hp hclaimed
    exact ht.holder hq hqclaimed hlast

/-- No worker has done anything. -/
theorem Tally.silent (ht : Tally db phases h)
    (hattempts : ∀ id, db'.attemptsOf id = db.attemptsOf id)
    (hunstarted : ∀ {id}, db'.statusOf id = none ∨ db'.statusOf id = some .scheduled →
      claims h id = 0)
    (hretryable : ∀ {id}, db'.statusOf id = some .retryableFailed → claims h id < maxAttempts) :
    Tally db' phases h := by
  have hsilent : Tally db' phases (h ++ []) :=
    ht.frame noClaim_nil hattempts hunstarted hretryable fun hp hclaimed => ⟨_, hp, hclaimed⟩
  rwa [List.append_nil] at hsilent

end

section

variable {T : Type} {host : Host T}

/-- **A worker's step**, under the condition on the statements of its transaction. -/
theorem Tally.worked {reply : Reply} {s s' : Shared T} {phases : List Phase} {p p' : Phase}
    {e : Effect} {h ds : List Deed} {i : ℕ} (ht : Tally s.db phases h) (hp : phases[i]? = some p)
    (hw : Worked reply s p e s' p') (hn : Notes i s.db s'.db p p' ds)
    (horderly : ∀ l, e = .transact l → ∀ statement ∈ l, statement.Orderly s.db h i) :
    Tally s'.db (phases.set i p') (h ++ ds) := by
  have hlegal := hw.passes.edgesLegal
  rcases hw.attempts with ⟨id, row, db, rfl, rfl, rfl, rfl, hdb⟩ | hun
  · have hmoves : s.db.Moves db id (claimFrom row) .processing := moves_of_transact_one hdb
    obtain ⟨db₁, hfirst, hrest⟩ := transact_cons_ok.mp hdb
    obtain rfl := transact_nil_ok.mp hrest
    obtain ⟨-, stored, hstored, hstatus, hafter⟩ := transitionChargeRequest_ok.mp hfirst
    obtain rfl : ds = [.transition i id (claimFrom row) .processing] := hn.of_claim hmoves
    have hcurrent := horderly _ rfl _ List.mem_cons_self stored hstored hstatus
    refine ht.claim hstored (by simpa using hcurrent) hmoves (fun id' => ?_) rfl
    show db₁.attemptsOf id' = _
    rw [hafter, attemptsOf_setChargeRequest]
    rfl
  · refine ht.frame (hn.noClaim hun.processing) hun.attempts ?_ ?_ ?_
    · rintro id (hnone | hscheduled)
      · have hbefore := hlegal id
        rw [hnone] at hbefore
        exact ht.unstarted (.inl (legalEdge_none hbefore))
      · exact ht.unstarted (.inr (hun.unstarted hscheduled))
    · intro id hst
      rcases hun.retryable hst with hst | ⟨row, source, classified, now, nextAttemptAt, hclaimed,
        he, hdue⟩
      · exact ht.retryable hst
      · -- the worker's claim is the last one, so the schedule has counted them all
        have hlast : lastClaimant h id = some i := horderly _ he _ List.mem_cons_self
        rw [ht.holder hp hclaimed hlast]
        have hsome : (nextRetryAt (row.attemptCount + 1) now).isSome := by
          unfold retryAt at hdue
          split at hdue
          · rw [hdue]
            rfl
          · cases hdue
        exact ((nextRetryAt_isSome_iff _ _).mp hsome).2
    · intro j q id row hq hclaimed
      rcases Workers.getElem?_set_cases hq with ⟨rfl, rfl⟩ | ⟨-, hold⟩
      · exact ⟨p, hp, hun.claimed hclaimed⟩
      · exact ⟨q, hold, hclaimed⟩

/-- What happens outside the workers, when no recovered request has used up its attempts. -/
theorem Tally.happens {q : System T × List Deed} {s' : Shared T} {phases : List Phase}
    {action : Action T} (ht : Tally q.1.shared.db phases q.2)
    (hh : Happens host q.1.shared action s') (horderly : Orderly q action) :
    Tally s'.db phases q.2 := by
  cases hh with
  | apart _ _ hrequests _ _ _ _ =>
      have hsame := (sameRequests_of_eq hrequests).statusOf
      refine ht.silent (attemptsOf_congr hrequests) (fun hst => ht.unstarted ?_)
        fun hst => ht.retryable ?_
      · rwa [hsame] at hst
      · rwa [hsame] at hst
  | recover =>
      refine ht.silent attemptsOf_recover (fun hst => ht.unstarted ?_) fun {id} hst => ?_
      · rcases statusOf_recover q.1.shared.clock q.1.shared.db _ with hsame | ⟨-, hafter⟩
        · exact hsame ▸ hst
        · rcases hst with hst | hst
          · cases hafter.symm.trans hst
          · cases hafter.symm.trans hst
      · rcases statusOf_recover_retryable hst with hbefore | ⟨row, hrow, hstale⟩
        · exact ht.retryable hbefore
        · rw [← ht.counted, attemptsOf_eq hrow]
          exact horderly row (FinMap.mem_values.mpr ⟨id, hrow⟩) hstale
  | complete authorizationId id ciphertext db hdb =>
      obtain ⟨hfresh, hstatus⟩ := statusOf_complete hdb
      refine ht.silent (attemptsOf_complete hdb) (fun hst => ?_) fun hst => ht.retryable ?_
      · change db.statusOf _ = _ ∨ db.statusOf _ = _ at hst
        rw [hstatus] at hst
        split at hst
        · rename_i heq
          exact ht.unstarted (.inl (heq ▸ hfresh))
        · exact ht.unstarted hst
      · change db.statusOf _ = _ at hst
        rw [hstatus] at hst
        split at hst
        · cases hst
        · exact hst
  | _ => exact ht

theorem Tally.start {db : Db} {phases : List Phase} {h : List Deed} (ht : Tally db phases h)
    (id : Uuid) : Tally db (phases ++ [.fresh id]) (h ++ [.starts id]) := by
  refine ht.frame (noClaim_singleton (fun _ => rfl) fun _ => rfl) (fun _ => rfl) ht.unstarted
    ht.retryable fun {i p id' row} hp hclaimed => ⟨p, ?_, hclaimed⟩
  -- the new worker has claimed nothing
  rw [List.getElem?_append] at hp
  split at hp
  · exact hp
  · obtain rfl := List.mem_singleton.mp (List.mem_of_getElem? hp)
    cases hclaimed

/-! ## Runs -/

theorem tally_exec (deps : PipelineDeps) (q : System T × List Deed) (action : Action T)
    (horderly : Orderly q action)
    (ht : Workers.Tracked Move (fun s phases => Tally s.db phases q.2) q.1) :
    Workers.Tracked Move
      (fun s phases => Tally s.db phases (q.2 ++ deeds host q.1 action))
      (exec host deps q.1 action) := by
  cases action with
  | start id =>
      exact ht.start_to (processChargeRequest_obeys deps id) fun phases hold => hold.start id
  | work i reply =>
      refine ht.work_to (fun phases p e k p' hold hp hk hmove => ?_) fun hnone phases hold => ?_
      · have hdeeds : deeds host q.1 (.work i reply)
            = effectDeeds i e (perform host reply e q.1.shared).1 := by
          rw [deeds, hk]
        rw [hdeeds]
        refine hold.worked hp (worked_of_move hmove) (notes_of_move hmove) ?_
        rintro l rfl
        exact horderly _ hk
      · have hdeeds : deeds host q.1 (.work i reply) = [] := by
          rw [deeds]
          split
          · rename_i e k hk
            exact absurd hk (hnone e k)
          · rfl
        rw [hdeeds, List.append_nil]
        exact hold
  | _ =>
      simp only [deeds, List.append_nil]
      exact ht.outside fun phases hin hold =>
        hold.happens (happens_outside host _ _) horderly

theorem tally_initial (t₀ : U64) (tok₀ : T) : Tally (initial t₀ tok₀).shared.db [] [] where
  counted id := rfl
  bounded id := Nat.zero_le _
  unstarted _ := rfl
  retryable hst := by cases hst
  holder hp := by simp at hp

/-- **The attempts of a request are counted and bounded.** In every run whose steps are orderly the
stored `attemptCount` of a request is the number of its claims, and this is at most `maxAttempts`. -/
theorem attempts_counted_and_bounded (host : Host T) (deps : PipelineDeps) (t₀ : U64) (tok₀ : T)
    (actions : List (Action T))
    (h : ∀ q ∈ Runs.trace (Runs.noting (exec host deps) (deeds host)) (initial t₀ tok₀, []) actions,
      Orderly q.1 q.2) (id : Uuid) :
    (∀ row, (run host deps (initial t₀ tok₀) actions).shared.db.chargeRequests.lookup id
        = some row →
      row.attemptCount = claims (history host deps (initial t₀ tok₀) actions) id) ∧
    claims (history host deps (initial t₀ tok₀) actions) id ≤ maxAttempts := by
  have hrun := @Runs.run_invariant_along _ _ (Runs.noting (exec host deps) (deeds host))
    (fun q : System T × List Deed =>
      Workers.Tracked Move (fun s phases => Tally s.db phases q.2) q.1)
    Orderly (fun q action => tally_exec deps q action) (initial t₀ tok₀, [])
    ⟨[], ⟨rfl, fun hi => by cases hi⟩, tally_initial t₀ tok₀⟩ actions h
  rw [Runs.run_noting] at hrun
  obtain ⟨phases, -, ht⟩ := hrun
  refine ⟨fun row hrow => ?_, ht.bounded id⟩
  exact (attemptsOf_eq hrow).symm.trans (ht.counted id)

end

/-! ## Two histories that break the bound -/

section

open Registry (MockToken mockHost)

/-- A job that finds the RPC down once it has claimed its request: the attempt is retried later. -/
def failedAttempt (worker : ℕ) : List (Action MockToken) :=
  mockWork worker 2 ++ [.work worker .lost] ++ mockWork worker 2

/-- The first attempt fails, and the second one claims the request. -/
def secondAttempt : List (Action MockToken) :=
  mockRequest ++ failedAttempt 0 ++ [.start 1] ++ mockWork 1 2

/-- Five workers claim the request, one after the other, and each of them crashes. -/
def crashLoop : List (Action MockToken) :=
  mockRequest ++ mockWork 0 2 ++ [.tick 600000, .recoverStale, .start 1] ++
    mockWork 1 2 ++ [.tick 600000, .recoverStale, .start 1] ++
    mockWork 2 2 ++ [.tick 600000, .recoverStale, .start 1] ++
    mockWork 3 2 ++ [.tick 600000, .recoverStale, .start 1] ++ mockWork 4 2

/-- After the first attempt has failed two jobs read the row. One claims the request and fails too,
and then the other claims it, with the count it has read before. -/
def outdatedClaim : List (Action MockToken) :=
  mockRequest ++ failedAttempt 0 ++ [.start 1, .start 1] ++ mockWork 1 1 ++ failedAttempt 2 ++
    mockWork 1 1

set_option maxRecDepth 8000 in
theorem attempts_counted_and_bounded_mock :
    (∀ row, (run mockHost mockDeps mockSystem secondAttempt).shared.db.chargeRequests.lookup 1
        = some row →
      row.attemptCount = claims (history mockHost mockDeps mockSystem secondAttempt) 1) ∧
    claims (history mockHost mockDeps mockSystem secondAttempt) 1 = 2 := by
  have horderly : ∀ q ∈ Runs.trace (Runs.noting (exec mockHost mockDeps) (deeds mockHost))
      (mockSystem, []) secondAttempt, Orderly q.1 q.2 := by decide
  have h := attempts_counted_and_bounded mockHost mockDeps 0 Registry.mockFunds secondAttempt
    horderly 1
  exact ⟨h.1, by decide⟩

set_option maxRecDepth 8000 in
/-- **More claims than the schedule allows, and a count that is not theirs.** -/
theorem attempts_unbounded_and_miscounted :
    maxAttempts < claims (history mockHost mockDeps mockSystem crashLoop) 1 ∧
    ∃ row, (run mockHost mockDeps mockSystem outdatedClaim).shared.db.chargeRequests.lookup 1
        = some row ∧
      row.attemptCount ≠ claims (history mockHost mockDeps mockSystem outdatedClaim) 1 := by
  have hcount : ((run mockHost mockDeps mockSystem outdatedClaim).shared.db.chargeRequests.lookup
      1).map ChargeRequest.attemptCount = some 2 := by decide
  have hclaims : claims (history mockHost mockDeps mockSystem outdatedClaim) 1 = 3 := by decide
  obtain ⟨row, hrow, hrowcount⟩ := Option.map_eq_some_iff.mp hcount
  refine ⟨by decide, row, hrow, ?_⟩
  rw [hrowcount, hclaims]
  decide

end

end Paymap.Relayer
