import Paymap.Relayer.Steps

set_option autoImplicit false

/-! # Who owns a submission

The abstract picture of the pipeline. While a request is `submitted`, at most one worker owns it: the
one whose own write made it so and that has not recorded a result. `Passes` is all that can happen
to the status of a request and to what a worker owns, and `Exclusive` the invariant it keeps; neither
mentions the pipeline. A stalled worker may well ride on the claim of another, since the guards look
at the status alone, but it cannot take a submission that is taken.
-/

namespace Paymap.Relayer

open Registry (Host Mandate PaymentReceipt)

/-! ## Exclusive ownership -/

/-- What happens to the tables and to what one worker owns in a step of the worker. -/
inductive Passes (db db' : Db) : Option Uuid → Option Uuid → Prop where
  | keeps (owned : Option Uuid) (same : db.SameRequests db') : Passes db db' owned owned
  | drops (owned : Option Uuid) (same : db.SameRequests db') : Passes db db' owned none
  | apart (id : Uuid) (source target : ChargeRequestStatus) (moves : db.Moves db' id source target)
      (not_source : source ≠ .submitted) (not_target : target ≠ .submitted) :
      Passes db db' none none
  | takes (id : Uuid) (source : ChargeRequestStatus) (moves : db.Moves db' id source .submitted) :
      Passes db db' none (some id)
  | releases (id : Uuid) (target : ChargeRequestStatus)
      (moves : db.Moves db' id .submitted target) : Passes db db' (some id) none

/-- What is owned is submitted, and owned once. -/
structure Exclusive (db : Db) (owners : List (Option Uuid)) : Prop where
  submitted : ∀ {i : ℕ} {id : Uuid}, owners[i]? = some (some id) → db.statusOf id = some .submitted
  unique : ∀ {i j : ℕ} {id : Uuid}, owners[i]? = some (some id) → owners[j]? = some (some id) → i = j

theorem Exclusive.frame {db db' : Db} {owners : List (Option Uuid)} (h : Exclusive db owners)
    (hsame : ∀ id, db.statusOf id = some .submitted → db'.statusOf id = some .submitted) :
    Exclusive db' owners where
  submitted hi := hsame _ (h.submitted hi)
  unique := h.unique

/-- One worker ends up owning nothing, and what the others own is still submitted. -/
theorem Exclusive.without {db db' : Db} {owners : List (Option Uuid)} {i : ℕ}
    (h : Exclusive db owners)
    (hkeep : ∀ j id, j ≠ i → owners[j]? = some (some id) → db'.statusOf id = some .submitted) :
    Exclusive db' (owners.set i none) := by
  have hothers : ∀ {j : ℕ} {id : Uuid}, (owners.set i none)[j]? = some (some id) →
      j ≠ i ∧ owners[j]? = some (some id) := by
    intro j id hj
    rcases Workers.getElem?_set_cases hj with ⟨-, hnone⟩ | hother
    · cases hnone
    · exact hother
  constructor
  · intro j id hj
    obtain ⟨hne, hj⟩ := hothers hj
    exact hkeep j id hne hj
  · intro j k id hj hk
    exact h.unique (hothers hj).2 (hothers hk).2

/-- **A submission is owned once**, whatever a worker does. -/
theorem Exclusive.passes {db db' : Db} {owners : List (Option Uuid)} {i : ℕ}
    {owned owned' : Option Uuid} (h : Exclusive db owners) (hi : owners[i]? = some owned)
    (hp : Passes db db' owned owned') : Exclusive db' (owners.set i owned') := by
  cases hp with
  | keeps _ hsame =>
      refine Exclusive.frame ?_ fun id hid => (hsame.statusOf id).trans hid
      have hset : owners.set i owned = owners := by
        obtain ⟨hlt, heq⟩ := List.getElem?_eq_some_iff.mp hi
        rw [← heq, List.set_getElem_self]
      rwa [hset]
  | drops _ hsame => exact h.without fun j id _ hj => (hsame.statusOf id).trans (h.submitted hj)
  | apart id source target hmoves hsource htarget =>
      refine h.without fun j id' _ hj => ?_
      have hne : id' ≠ id := by
        rintro rfl
        exact hsource (Option.some.inj (hmoves.was.symm.trans (h.submitted hj)))
      rw [hmoves.others id' hne, h.submitted hj]
  | takes id source hmoves =>
      -- nobody owned it: what is owned was submitted before
      have hfree : ∀ {j : ℕ}, owners[j]? ≠ some (some id) := by
        intro j hj
        have hsource := hmoves.was.symm.trans (h.submitted hj)
        cases hsource
        have hlegal := hmoves.legal
        simp [legalTransitions] at hlegal
      refine ⟨?_, ?_⟩
      · intro j id' hj
        rcases Workers.getElem?_set_cases hj with ⟨-, heq⟩ | ⟨-, hold⟩
        · cases heq
          exact hmoves.becomes
        · have hne : id' ≠ id := by
            rintro rfl
            exact hfree hold
          rw [hmoves.others id' hne, h.submitted hold]
      · intro j k id' hj hk
        rcases Workers.getElem?_set_cases hj with ⟨hji, heq⟩ | ⟨-, hj⟩
        · cases heq
          rcases Workers.getElem?_set_cases hk with ⟨hki, -⟩ | ⟨-, hk⟩
          · omega
          · exact absurd hk hfree
        · rcases Workers.getElem?_set_cases hk with ⟨-, heq⟩ | ⟨-, hk⟩
          · cases heq
            exact absurd hj hfree
          · exact h.unique hj hk
  | releases id target hmoves =>
      refine h.without fun j id' hji hj => ?_
      -- another worker owns another request
      have hne : id' ≠ id := by
        rintro rfl
        exact hji (h.unique hj hi)
      rw [hmoves.others id' hne, h.submitted hj]

/-- A worker that starts owns nothing. -/
theorem Exclusive.start {db : Db} {owners : List (Option Uuid)} (h : Exclusive db owners) :
    Exclusive db (owners ++ [none]) := by
  have hold : ∀ {j : ℕ} {id : Uuid}, (owners ++ [none])[j]? = some (some id) →
      owners[j]? = some (some id) := by
    intro j id hj
    rw [List.getElem?_append] at hj
    split at hj
    · exact hj
    · cases List.mem_singleton.mp (List.mem_of_getElem? hj)
  exact ⟨fun hj => h.submitted (hold hj), fun hj hk => h.unique (hold hj) (hold hk)⟩

/-! ## The pipeline passes ownership on -/

/-- The request whose submission the worker owns. -/
def Phase.owned? : Phase → Option Uuid
  | .submitting id _ _ => some id
  | .waiting id _ _ _ => some id
  | .answered id _ _ _ => some id
  | _ => none

/-- The request whose failure is announced. -/
def ChargeEvent.failedRequest? : ChargeEvent → Option Uuid
  | .paymentFailed id _ _ _ => some id
  | _ => none

theorem claimFrom_ne (row : ChargeRequest) : claimFrom row ≠ .submitted := by
  unfold claimFrom
  split <;> simp

section

variable {T : Type} {reply : Reply} {s s' : Shared T} {p p' : Phase} {e : Effect}

theorem moves_scheduleRetry {db db' : Db} {now : Time} {id : Uuid} {source : ChargeRequestStatus}
    {reason : String} {nextAttemptAt : Time}
    (h : transact now (scheduleRetry id source reason nextAttemptAt) db = .ok db') :
    db.Moves db' id source .retryableFailed :=
  moves_of_transact_one h

theorem moves_failPermanently {db db' : Db} {now : Time} {id : Uuid} {row : ChargeRequest}
    {source : ChargeRequestStatus} {reason : String}
    (h : transact now (failPermanently id row source reason) db = .ok db') :
    db.Moves db' id source .permanentlyFailed := by
  refine moves_of_transact_cons ?_ h
  intro statement hmem
  obtain rfl := List.mem_singleton.mp hmem
  rfl

/-- The payment, the transition, and then nothing that writes a request. -/
theorem recordSuccess_eq (id : Uuid) (row : ChargeRequest) (mandate : Mandate)
    (receipt : PaymentReceipt) (txHash : TxHash) (ledger : ℕ) (now : Time) :
    ∃ rest, recordSuccess id row mandate receipt txHash ledger now
        = [.createPayment (newPayment row receipt txHash ledger)] ++
          .transition id .submitted .succeeded { transactionHash := some txHash } :: rest ∧
      ∀ statement ∈ rest, statement.writesRequest = false := by
  refine ⟨_, rfl, ?_⟩
  intro statement hmem
  rcases List.mem_append.mp hmem with hmem | hmem
  · rcases List.mem_append.mp hmem with hmem | hmem
    · split at hmem
      · obtain rfl := List.mem_singleton.mp hmem
        rfl
      · cases hmem
    · obtain rfl := List.mem_singleton.mp hmem
      rfl
  · split at hmem
    · obtain rfl := List.mem_singleton.mp hmem
      rfl
    · cases hmem

theorem moves_recordSuccess {db db' : Db} {now consumedAt : Time} {id : Uuid} {row : ChargeRequest}
    {mandate : Mandate} {receipt : PaymentReceipt} {txHash : TxHash} {ledger : ℕ}
    (h : transact now (recordSuccess id row mandate receipt txHash ledger consumedAt) db
      = .ok db') : db.Moves db' id .submitted .succeeded := by
  obtain ⟨rest, hbody, hrest⟩ :=
    recordSuccess_eq id row mandate receipt txHash ledger consumedAt
  rw [hbody] at h
  refine moves_of_transact _ ?_ hrest h
  intro statement hmem
  obtain rfl := List.mem_singleton.mp hmem
  rfl

theorem Worked.passes (h : Worked reply s p e s' p') :
    Passes s.db s'.db p.owned? p'.owned? := by
  cases h with
  | idle => exact .keeps _ (.refl _)
  | ended => exact .drops _ (.refl _)
  | find id row _ => exact .keeps _ (.refl _)
  | claim id row db hdb =>
      exact .apart id _ _ (moves_of_transact_one hdb) (claimFrom_ne row) (by simp)
  | mandateRead id row mandate _ => exact .keeps _ (.refl _)
  | expire id row mandate authorizationId db hdb =>
      exact .keeps _ (sameRequests_updateAuthorization hdb)
  | simulate id row mandate db hdb =>
      exact .apart id _ _ (moves_of_transact_one hdb) (by simp) (by simp)
  | submit id row mandate db hdb =>
      exact .takes id _ (moves_of_transact_one hdb)
  | unsent => exact .keeps _ (.refl _)
  | unanswered => exact .keeps _ (.refl _)
  | send => exact .keeps _ (.refl _)
  | poll => exact .keeps _ (.refl _)
  | pollFailed => exact .keeps _ (.refl _)
  | setHash id row mandate error hash db hdb =>
      obtain ⟨db₁, hfirst, hrest⟩ := transact_cons_ok.mp hdb
      obtain rfl := transact_nil_ok.mp hrest
      exact .keeps _ (sameRequests_setTransactionHash hfirst).1
  | retry p id row source classified now nextAttemptAt db hfails _ hdb =>
      have hmoves := moves_scheduleRetry hdb
      -- before the submission nothing is owned, after it the worker is the owner
      cases hfails with
      | working id row mandate => exact .apart id _ _ hmoves (by simp) (by simp)
      | answered id row mandate result _ => exact .releases id _ hmoves
  | giveUp p id row source classified now db hfails _ hdb =>
      have hmoves := moves_failPermanently hdb
      cases hfails with
      | working id row mandate => exact .apart id _ _ hmoves (by simp) (by simp)
      | answered id row mandate result _ => exact .releases id _ hmoves
  | succeed id row mandate receipt txHash ledger now db hdb =>
      exact .releases id _ (moves_recordSuccess hdb)

theorem Passes.created {db db' : Db} {owned owned' : Option Uuid} (h : Passes db db' owned owned')
    (id : Uuid) : db'.created id = db.created id := by
  cases h with
  | keeps _ hsame => exact hsame.created id
  | drops _ hsame => exact hsame.created id
  | apart _ _ _ hmoves _ _ => exact hmoves.created id
  | takes _ _ hmoves => exact hmoves.created id
  | releases _ _ hmoves => exact hmoves.created id

/-- What no transition leaves, no worker changes. -/
theorem Passes.of_terminal {db db' : Db} {owned owned' : Option Uuid}
    (h : Passes db db' owned owned') {id : Uuid} {st : ChargeRequestStatus}
    (hterminal : legalTransitions st = []) (hst : db.statusOf id = some st) :
    db'.statusOf id = some st := by
  cases h with
  | keeps _ hsame => rw [hsame.statusOf, hst]
  | drops _ hsame => rw [hsame.statusOf, hst]
  | apart _ _ _ hmoves _ _ => exact hmoves.of_terminal hterminal hst
  | takes _ _ hmoves => exact hmoves.of_terminal hterminal hst
  | releases _ _ hmoves => exact hmoves.of_terminal hterminal hst

end

end Paymap.Relayer
