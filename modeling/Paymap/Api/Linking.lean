import Paymap.Api.Products
import Paymap.Client.Domain
import Paymap.Lib.FinMap
import Paymap.Lib.Prog
import Paymap.Lib.Runs
import Paymap.Relayer.Tables
import Paymap.Token.Mock

set_option autoImplicit false

/-! # Linking a checkout session to its mandate

`POST /checkout-sessions/:id/mandate` (`apps/api/src/routes/checkout-sessions.ts`): anybody may report
the mandate that was created for a session. The session is read first, then the mandate on the chain,
and then the session is updated; calls on one session are interleaved at these three, and at the
update of the index, which only serves the dashboard.

The row is checked for another mandate when it is read and never again. So a call keeps an earlier one
from being overwritten as long as the row is still unlinked, or linked to the same mandate, when the
call gets to its update. By the guard of the route it is, unless the session has been updated since the
call has read it (`inTime_of_current`).
Ids are compared as they are spelled.
-/

namespace Paymap.Api.Linking

open Registry (Address)
open Relayer (Time Uuid)
open Tx (rejectIf)

/-! ## Tables -/

inductive CheckoutSessionStatus where
  | pending
  | completed
  | expired
  | canceled
deriving DecidableEq, Repr

def CheckoutSessionStatus.text : CheckoutSessionStatus → String
  | .pending => "pending"
  | .completed => "completed"
  | .expired => "expired"
  | .canceled => "canceled"

/-- A row, with the wallet of its merchant and the asset of its product. -/
structure CheckoutSession where
  merchantId : Uuid
  productId : Uuid
  clientReference : Option String
  payerAddress : Option Address
  expiresAt : Time
  status : CheckoutSessionStatus
  mandateId : Option String
  createdAt : Time
  merchantWalletAddress : Address
  productAssetAddress : Address
deriving DecidableEq

structure MandateIndex where
  merchantId : Uuid
  payerAddress : Address
  merchantAddress : Address
  assetAddress : Address
  status : Registry.MandateStatus
  contractStateVersion : ℕ
  lastIndexedAt : Time
deriving DecidableEq

/-- `toCheckoutSessionResponse`. -/
structure CheckoutSessionResponse where
  id : String
  merchantId : Uuid
  productId : Uuid
  clientReference : Option String
  payerAddress : Option Address
  expiresAt : Time
  status : CheckoutSessionStatus
  mandateId : Option String
  createdAt : Time
deriving DecidableEq

def toCheckoutSessionResponse (id : String) (session : CheckoutSession) :
    CheckoutSessionResponse where
  id := id
  merchantId := session.merchantId
  productId := session.productId
  clientReference := session.clientReference
  payerAddress := session.payerAddress
  expiresAt := session.expiresAt
  status := session.status
  mandateId := session.mandateId
  createdAt := session.createdAt

/-! ## Effects -/

/-- `LinkMandateToCheckoutSessionSchema`. -/
structure LinkMandateInput where
  mandateId : String
  payerAddress : Address

/-- What the mandate reader comes back with. -/
inductive MandateRead where
  | read (mandate : Client.Mandate)
  /-- `MandateReadError`. -/
  | mandateReadError
  | failed

inductive Effect where
  | findSession (id : String)
  | now
  | getMandate (mandateId : String)
  | updateSession (id : String) (input : LinkMandateInput)
  | upsertIndex (mandateId : String) (row : MandateIndex)
  /-- The caller is told the result. -/
  | reply (result : Except RouteError CheckoutSessionResponse)

/-- What an effect is answered with; `none` is an exception of the database. -/
abbrev Answer : Effect → Type
  | .findSession _ => Option (Option CheckoutSession)
  | .now => Time
  | .getMandate _ => MandateRead
  | .updateSession _ _ => Option CheckoutSession
  | .upsertIndex _ _ => Option Unit
  | .reply _ => Unit

abbrev Job (α : Type) := Prog Effect Answer RouteError α

def Effect.run (e : Effect) : Job (Answer e) := .perform e

/-! ## The route -/

def sessionNotFound (id : String) : RouteError :=
  .api 404 "CHECKOUT_SESSION_NOT_FOUND" ("No checkout session \"" ++ id ++ "\".")

def alreadyLinked (id : String) : RouteError :=
  .api 409 "CHECKOUT_SESSION_ALREADY_LINKED"
    ("Checkout session \"" ++ id ++ "\" is already linked to a different mandate.")

def notPending (id : String) (status : CheckoutSessionStatus) : RouteError :=
  .api 409 "CHECKOUT_SESSION_NOT_PENDING"
    ("Checkout session \"" ++ id ++ "\" is no longer open (status \"" ++ status.text ++ "\").")

def mandateNotSubmitted (mandateId : String) : RouteError :=
  badRequest "MandateNotFound"
    ("No on-chain mandate \"" ++ mandateId ++ "\" found — it must be submitted before linking.")

/-- The mandate on the chain is one for this session. -/
def checkMandate (session : CheckoutSession) (input : LinkMandateInput) (mandate : Client.Mandate) :
    Except RouteError Unit := do
  rejectIf (mandate.merchant ≠ session.merchantWalletAddress)
    (badRequest "MANDATE_MERCHANT_MISMATCH"
      "The mandate's merchant does not match this checkout session's merchant.")
  rejectIf (mandate.asset ≠ session.productAssetAddress)
    (badRequest "MANDATE_ASSET_MISMATCH"
      "The mandate's asset does not match this checkout session's product.")
  rejectIf (mandate.payer ≠ input.payerAddress)
    (badRequest "MANDATE_PAYER_MISMATCH"
      "The mandate's payer does not match the supplied payerAddress.")

/-- The row that is upserted, but for its version. -/
def indexRow (session : CheckoutSession) (mandate : Client.Mandate) (now : Time) :
    MandateIndex where
  merchantId := session.merchantId
  payerAddress := mandate.payer
  merchantAddress := mandate.merchant
  assetAddress := mandate.asset
  status := mandate.status
  contractStateVersion := 0
  lastIndexedAt := now

/-- From the update on. -/
def storeLink (id : String) (input : LinkMandateInput) (session : CheckoutSession)
    (mandate : Client.Mandate) : Job CheckoutSessionResponse := do
  match ← (Effect.updateSession id input).run with
  | none => .raise .unexpected
  | some updated =>
      let now ← Effect.now.run
      -- a failure of the upsert is logged, and not an error
      let _ ← (Effect.upsertIndex input.mandateId (indexRow session mandate now)).run
      return toCheckoutSessionResponse id updated

/-- From the read of the chain on. -/
def linkUnlinked (id : String) (input : LinkMandateInput) (session : CheckoutSession) :
    Job CheckoutSessionResponse := do
  match ← (Effect.getMandate input.mandateId).run with
  | .mandateReadError => .raise (mandateNotSubmitted input.mandateId)
  | .failed => .raise .unexpected
  | .read mandate =>
      match checkMandate session input mandate with
      | .error e => .raise e
      | .ok () => storeLink id input session mandate

/-- From the row of the session on. -/
def linkSession (id : String) (input : LinkMandateInput) (session : CheckoutSession) :
    Job CheckoutSessionResponse :=
  match session.mandateId with
  | some mandateId =>
      if mandateId = input.mandateId then return toCheckoutSessionResponse id session
      else .raise (alreadyLinked id)
  | none => do
      let now ← Effect.now.run
      if session.status ≠ .pending ∨ session.expiresAt ≤ now then
        .raise (notPending id session.status)
      else linkUnlinked id input session

def linkMandate (id : String) (input : LinkMandateInput) : Job CheckoutSessionResponse := do
  match ← (Effect.findSession id).run with
  | none => .raise .unexpected
  | some none => .raise (sessionNotFound id)
  | some (some session) => linkSession id input session

structure Call where
  id : String
  input : LinkMandateInput

/-- A call, and its caller. -/
def serve (c : Call) : Job Unit := do
  let result ← (linkMandate c.id c.input).attempt
  (Effect.reply result).run

/-! ## The database and the chain -/

structure Shared where
  sessions : FinMap String CheckoutSession
  mandateIndex : FinMap String MandateIndex
  /-- The calls so far, and what their callers were told. -/
  calls : List Call
  replies : FinMap ℕ (Except RouteError CheckoutSessionResponse)

/-- What becomes of an effect. -/
inductive Outcome where
  /-- It is carried out: this is the time, and this is what a read of the chain finds. -/
  | served (now : Time) (mandate : MandateRead)
  | failed (now : Time)
  /-- It is carried out, and the answer is lost. -/
  | unanswered (now : Time)

def Outcome.now : Outcome → Time
  | .served now _ => now
  | .failed now => now
  | .unanswered now => now

def Outcome.mandateRead : Outcome → MandateRead
  | .served _ mandate => mandate
  | _ => .failed

/-- The row after the update. -/
def CheckoutSession.link (session : CheckoutSession) (input : LinkMandateInput) :
    CheckoutSession :=
  { session with
    mandateId := some input.mandateId
    payerAddress := some input.payerAddress
    status := .completed }

namespace Shared

/-- The update of a row, which has to exist. -/
def updateSession (s : Shared) (id : String) (input : LinkMandateInput) :
    Option CheckoutSession × Shared :=
  match s.sessions.lookup id with
  | none => (none, s)
  | some session =>
      (some (session.link input),
        { s with sessions := s.sessions.insert id (session.link input) })

def upsertIndex (s : Shared) (mandateId : String) (row : MandateIndex) : Shared :=
  { s with
    mandateIndex := s.mandateIndex.insert mandateId <|
      match s.mandateIndex.lookup mandateId with
      | none => row
      | some stored =>
          { stored with
            payerAddress := row.payerAddress
            status := row.status
            lastIndexedAt := row.lastIndexedAt
            contractStateVersion := stored.contractStateVersion + 1 } }

end Shared

def perform (worker : ℕ) (outcome : Outcome) : (e : Effect) → Shared → Answer e × Shared
  | .findSession id, s =>
      match outcome with
      | .served _ _ => (some (s.sessions.lookup id), s)
      | _ => (none, s)
  | .now, s => (outcome.now, s)
  | .getMandate _, s => (outcome.mandateRead, s)
  | .updateSession id input, s =>
      match outcome with
      | .served _ _ => s.updateSession id input
      | .unanswered _ => (none, (s.updateSession id input).2)
      | .failed _ => (none, s)
  | .upsertIndex mandateId row, s =>
      match outcome with
      | .served _ _ => (some (), s.upsertIndex mandateId row)
      | .unanswered _ => (none, s.upsertIndex mandateId row)
      | .failed _ => (none, s)
  | .reply result, s => ((), { s with replies := s.replies.insert worker result })

/-! ## Runs -/

inductive Action where
  | call (c : Call)
  /-- A call has its next effect performed. -/
  | work (worker : ℕ) (outcome : Outcome)

abbrev System := Workers Shared (Job Unit)

def exec (s : System) : Action → System
  | .call c => (s.outside fun shared => { shared with calls := shared.calls ++ [c] }).start (serve c)
  | .work worker outcome => s.work (perform worker outcome) worker

/-- No call has been made yet. -/
def initial (sessions : FinMap String CheckoutSession) : System := ⟨⟨sessions, ∅, [], ∅⟩, []⟩

abbrev run (s : System) (actions : List Action) : System := Runs.run exec s actions

/-! ## A call, move by move -/

inductive Phase where
  | linking (c : Call)
  /-- The session had no mandate when it was read. -/
  | unlinked (c : Call)
  /-- The session is known to have the mandate of the call. -/
  | linked (c : Call)

def Phase.call : Phase → Call
  | .linking c => c
  | .unlinked c => c
  | .linked c => c

inductive Move : Phase → (e : Effect) → Answer e → Phase → Prop where
  | find (c : Call) (answer : Option (Option CheckoutSession)) :
      Move (.linking c) (.findSession c.id) answer (.linking c)
  | found (c : Call) (session : CheckoutSession)
      (same : session.mandateId = some c.input.mandateId) :
      Move (.linking c) (.findSession c.id) (some (some session)) (.linked c)
  | unlinked (c : Call) (session : CheckoutSession) (unset : session.mandateId = none) :
      Move (.linking c) (.findSession c.id) (some (some session)) (.unlinked c)
  | now (p : Phase) (time : Time) : Move p .now time p
  | getMandate (c : Call) (answer : MandateRead) :
      Move (.unlinked c) (.getMandate c.input.mandateId) answer (.unlinked c)
  | updateFailed (c : Call) : Move (.unlinked c) (.updateSession c.id c.input) none (.linking c)
  | update (c : Call) (updated : CheckoutSession) :
      Move (.unlinked c) (.updateSession c.id c.input) (some updated) (.linked c)
  | upsert (c : Call) (row : MandateIndex) (answer : Option Unit) :
      Move (.linked c) (.upsertIndex c.input.mandateId row) answer (.linked c)
  | refuse (p : Phase) (e : RouteError) : Move p (.reply (.error e)) () p
  | accept (c : Call) (response : CheckoutSessionResponse) :
      Move (.linked c) (.reply (.ok response)) () (.linked c)

/-- A call is answered `200` when the session has its mandate. -/
def Returns (c : Call) (_ : CheckoutSessionResponse) (p : Phase) : Prop := p = .linked c

def Throws (_ : RouteError) (_ : Phase) : Prop := True

theorem ends_storeLink (c : Call) (session : CheckoutSession) (mandate : Client.Mandate) :
    (storeLink c.id c.input session mandate).Ends Move (Returns c) Throws (.unlinked c) := by
  rintro (_ | updated)
  · exact ⟨_, .updateFailed c, trivial⟩
  · refine ⟨_, .update c updated, fun now => ⟨_, .now _ now, fun answer => ?_⟩⟩
    exact ⟨_, .upsert c _ answer, rfl⟩

theorem ends_linkUnlinked (c : Call) (session : CheckoutSession) :
    (linkUnlinked c.id c.input session).Ends Move (Returns c) Throws (.unlinked c) := by
  intro answer
  refine ⟨_, .getMandate c answer, ?_⟩
  cases answer with
  | mandateReadError => exact trivial
  | failed => exact trivial
  | read mandate =>
      show (match checkMandate session c.input mandate with
        | .error e => _
        | .ok () => _ : Job CheckoutSessionResponse).Ends Move (Returns c) Throws (.unlinked c)
      cases checkMandate session c.input mandate with
      | error e => exact trivial
      | ok u => exact ends_storeLink c session mandate

theorem ends_linkMandate (c : Call) :
    (linkMandate c.id c.input).Ends Move (Returns c) Throws (.linking c) := by
  rintro (_ | _ | session)
  · exact ⟨_, .find c none, trivial⟩
  · exact ⟨_, .find c (some none), trivial⟩
  · cases hlinked : session.mandateId with
    | none =>
        refine ⟨_, .unlinked c session hlinked, ?_⟩
        show (linkSession c.id c.input session).Ends Move (Returns c) Throws (.unlinked c)
        rw [linkSession, hlinked]
        intro now
        refine ⟨_, .now _ now, ?_⟩
        show (if _ then _ else _ : Job CheckoutSessionResponse).Ends _ _ _ _
        split_ifs
        · exact trivial
        · exact ends_linkUnlinked c session
    | some mandateId =>
        by_cases hsame : mandateId = c.input.mandateId
        · refine ⟨_, .found c session (hlinked.trans (congrArg some hsame)), ?_⟩
          show (linkSession c.id c.input session).Ends Move (Returns c) Throws (.linked c)
          simp only [linkSession, hlinked, if_pos hsame]
          exact rfl
        · refine ⟨_, .find c _, ?_⟩
          show (linkSession c.id c.input session).Ends Move (Returns c) Throws (.linking c)
          simp only [linkSession, hlinked, if_neg hsame]
          exact trivial

theorem follows_serve (c : Call) :
    (serve c).Follows Move (fun _ _ => True) (.linking c) := by
  rw [serve, Prog.follows_bind, Prog.follows_attempt]
  refine (ends_linkMandate c).mono ?_ ?_
  · rintro response _ rfl
    exact fun _ => ⟨_, .accept c response, trivial⟩
  · exact fun e p _ _ => ⟨_, .refuse p e, trivial⟩

/-! ## What is linked stays linked -/

/-- The mandate of a session. -/
def Shared.mandateOf (s : Shared) (id : String) : Option String :=
  (s.sessions.lookup id).bind CheckoutSession.mandateId

/-- An update is carried out on the row of its session only, and it links it. -/
theorem mandateOf_updateSession (s : Shared) (id id' : String) (input : LinkMandateInput) :
    (s.updateSession id input).2.mandateOf id' = s.mandateOf id' ∨
      (id' = id ∧ (s.updateSession id input).2.mandateOf id' = some input.mandateId) := by
  unfold Shared.updateSession
  cases hrow : s.sessions.lookup id with
  | none => exact .inl rfl
  | some session =>
      unfold Shared.mandateOf
      rw [FinMap.lookup_insert]
      by_cases hid : id' = id
      · rw [if_pos hid]
        exact .inr ⟨hid, rfl⟩
      · rw [if_neg hid]
        exact .inl rfl

/-- No other effect changes the mandate of a session. -/
theorem mandateOf_perform (worker : ℕ) (outcome : Outcome) (e : Effect) (s : Shared) (id : String) :
    (perform worker outcome e s).2.mandateOf id = s.mandateOf id ∨
      ∃ input, e = .updateSession id input ∧
        (perform worker outcome e s).2.mandateOf id = some input.mandateId := by
  cases e with
  | findSession id' => cases outcome <;> exact .inl rfl
  | now => exact .inl rfl
  | getMandate mandateId => exact .inl rfl
  | updateSession id' input =>
      have hupdate := mandateOf_updateSession s id' id input
      cases outcome with
      | failed now => exact .inl rfl
      | served now mandate =>
          exact hupdate.imp_right fun ⟨hid, hlinked⟩ => ⟨input, by rw [hid], hlinked⟩
      | unanswered now =>
          exact hupdate.imp_right fun ⟨hid, hlinked⟩ => ⟨input, by rw [hid], hlinked⟩
  | upsertIndex mandateId row => cases outcome <;> exact .inl rfl
  | reply result => exact .inl rfl

/-- A successful update has linked its session. -/
theorem mandateOf_updated {worker : ℕ} {outcome : Outcome} {s : Shared} {id : String}
    {input : LinkMandateInput} {updated : CheckoutSession}
    (h : (perform worker outcome (.updateSession id input) s).1 = some updated) :
    (perform worker outcome (.updateSession id input) s).2.mandateOf id = some input.mandateId := by
  cases outcome with
  | failed now => cases h
  | unanswered now => cases h
  | served now mandate =>
      change (s.updateSession id input).1 = some updated at h
      show (s.updateSession id input).2.mandateOf id = some input.mandateId
      unfold Shared.updateSession at h ⊢
      cases hrow : s.sessions.lookup id with
      | none => rw [hrow] at h; cases h
      | some session =>
          unfold Shared.mandateOf
          rw [FinMap.lookup_insert, if_pos rfl]
          rfl

/-- An effect keeps a link, unless it is an update with another mandate. -/
theorem perform_keeps {worker : ℕ} {outcome : Outcome} {e : Effect} {s : Shared}
    {id mandateId : String} (hin : ∀ input, e = .updateSession id input → mandateId = input.mandateId)
    (hlinked : s.mandateOf id = some mandateId) :
    (perform worker outcome e s).2.mandateOf id = some mandateId := by
  rcases mandateOf_perform worker outcome e s id with hsame | ⟨input, rfl, hset⟩
  · exact hsame.trans hlinked
  · rw [hin input rfl]
    exact hset

/-- The effect would link a session that is linked to another mandate. -/
def Shared.relinks (s : Shared) : Effect → Bool
  | .updateSession id input => (s.mandateOf id).any fun mandateId => mandateId ≠ input.mandateId
  | _ => false

/-- A call that is about to update its session finds it unlinked, or linked to its own mandate. -/
def inTime (s : System) : Action → Bool
  | .call _ => true
  | .work worker _ =>
      match s.running[worker]? with
      | some (.call e _) => !s.shared.relinks e
      | _ => true

theorem inTime_update {s : System} {worker : ℕ} {outcome : Outcome} {id mandateId : String}
    {input : LinkMandateInput} {k : Answer (.updateSession id input) → Job Unit}
    (hin : inTime s (.work worker outcome) = true)
    (hw : s.running[worker]? = some (.call (.updateSession id input) k))
    (hlinked : s.shared.mandateOf id = some mandateId) : mandateId = input.mandateId := by
  have hkeeps : (s.shared.relinks (.updateSession id input)) = false := by
    unfold inTime at hin
    simpa only [hw, Bool.not_eq_true'] using hin
  unfold Shared.relinks at hkeeps
  simpa [hlinked] using hkeeps

/-- A step in time keeps every link. -/
theorem exec_keeps {s : System} {a : Action} (hin : inTime s a = true) {id mandateId : String}
    (hlinked : s.shared.mandateOf id = some mandateId) :
    (exec s a).shared.mandateOf id = some mandateId := by
  cases a with
  | call c => exact hlinked
  | work worker outcome =>
      rcases Workers.work_cases (perform worker outcome) worker s with hidle | ⟨e, k, hw, hdone⟩
      · exact (congrArg (·.shared.mandateOf id) hidle).trans hlinked
      · refine (congrArg (·.shared.mandateOf id) hdone).trans ?_
        refine perform_keeps (fun input he => ?_) hlinked
        subst he
        exact inTime_update hin hw hlinked

/-! ## Who was told that it is linked -/

/-- The session of a linked call has its mandate, and only such calls were answered `200`. -/
structure Known (s : Shared) (phases : List Phase) : Prop where
  calls : phases.map Phase.call = s.calls
  stored : ∀ c, .linked c ∈ phases → s.mandateOf c.id = some c.input.mandateId
  told : ∀ i response, s.replies.lookup i = some (.ok response) → ∃ c, phases[i]? = some (.linked c)

theorem Known.set {s s' : Shared} {phases : List Phase} (h : Known s phases) {i : ℕ} {p p' : Phase}
    (hp : phases[i]? = some p) (hcall : p'.call = p.call) (hcalls : s'.calls = s.calls)
    (hkeeps : ∀ id mandateId, s.mandateOf id = some mandateId → s'.mandateOf id = some mandateId)
    (hlinked : ∀ c, p' = .linked c → s'.mandateOf c.id = some c.input.mandateId)
    (hstays : ∀ c, p = .linked c → p' = .linked c)
    (htold : ∀ j response, s'.replies.lookup j = some (.ok response) →
      s.replies.lookup j = some (.ok response) ∨ (j = i ∧ ∃ c, p' = .linked c)) :
    Known s' (phases.set i p') := by
  have hi := (List.getElem?_eq_some_iff.mp hp).1
  refine ⟨?_, fun c hc => ?_, fun j response hj => ?_⟩
  · have hlen : i < (phases.map Phase.call).length := by rwa [List.length_map]
    have hsame : p'.call = (phases.map Phase.call)[i] := by
      rw [List.getElem_map, (List.getElem?_eq_some_iff.mp hp).2, hcall]
    rw [List.map_set, hsame, List.set_getElem_self, hcalls, h.calls]
  · rcases List.mem_or_eq_of_mem_set hc with hold | hnew
    · exact hkeeps _ _ (h.stored c hold)
    · exact hlinked c hnew.symm
  · by_cases hji : j = i
    · subst hji
      rw [List.getElem?_set_self hi]
      rcases htold j response hj with hold | ⟨-, c, hc⟩
      · obtain ⟨c, hc⟩ := h.told j response hold
        exact ⟨c, congrArg some (hstays c (Option.some.inj (hp.symm.trans hc)))⟩
      · exact ⟨c, congrArg some hc⟩
    · rw [List.getElem?_set_ne (Ne.symm hji)]
      rcases htold j response hj with hold | ⟨heq, -⟩
      · exact h.told j response hold
      · exact absurd heq hji

/-- Only the effect that tells the caller changes what callers were told. -/
theorem perform_calls (worker : ℕ) (outcome : Outcome) (e : Effect) (s : Shared) :
    (perform worker outcome e s).2.calls = s.calls ∧
      ((∀ result, e ≠ .reply result) → (perform worker outcome e s).2.replies = s.replies) := by
  cases e with
  | reply result => exact ⟨rfl, fun hne => absurd rfl (hne result)⟩
  | updateSession id input =>
      have hsame : (s.updateSession id input).2.calls = s.calls ∧
          (s.updateSession id input).2.replies = s.replies := by
        unfold Shared.updateSession
        cases s.sessions.lookup id <;> exact ⟨rfl, rfl⟩
      cases outcome with
      | failed now => exact ⟨rfl, fun _ => rfl⟩
      | served now mandate => exact ⟨hsame.1, fun _ => hsame.2⟩
      | unanswered now => exact ⟨hsame.1, fun _ => hsame.2⟩
  | now => exact ⟨rfl, fun _ => rfl⟩
  | getMandate mandateId => exact ⟨rfl, fun _ => rfl⟩
  | findSession id => cases outcome <;> exact ⟨rfl, fun _ => rfl⟩
  | upsertIndex mandateId row => cases outcome <;> exact ⟨rfl, fun _ => rfl⟩

/-- A session that is found with a mandate has it. -/
theorem mandateOf_found {worker : ℕ} {outcome : Outcome} {s : Shared} {id : String}
    {session : CheckoutSession}
    (h : (perform worker outcome (.findSession id) s).1 = some (some session)) :
    s.mandateOf id = session.mandateId := by
  cases outcome with
  | served now mandate =>
      have hrow : s.sessions.lookup id = some session := Option.some.inj h
      rw [Shared.mandateOf, hrow]
      rfl
  | failed now => cases h
  | unanswered now => cases h

/-- A call keeps what is known, if its step keeps every link. -/
theorem known_perform {s : Shared} {phases : List Phase} {worker : ℕ} {outcome : Outcome}
    {p p' : Phase} {e : Effect} (h : Known s phases) (hp : phases[worker]? = some p)
    (hkeeps : ∀ id mandateId, s.mandateOf id = some mandateId →
      (perform worker outcome e s).2.mandateOf id = some mandateId)
    (hmove : Move p e (perform worker outcome e s).1 p') :
    Known (perform worker outcome e s).2 (phases.set worker p') := by
  obtain ⟨hcalls, hreplies⟩ := perform_calls worker outcome e s
  -- what a linked call knows is kept
  have hknown : ∀ c, p = .linked c →
      (perform worker outcome e s).2.mandateOf c.id = some c.input.mandateId :=
    fun c hc => hkeeps _ _ (h.stored c (hc ▸ List.mem_of_getElem? hp))
  have hsilent : (∀ result, e ≠ .reply result) → ∀ j response,
      (perform worker outcome e s).2.replies.lookup j = some (.ok response) →
      s.replies.lookup j = some (.ok response) ∨ (j = worker ∧ ∃ c, p' = .linked c) := by
    intro hne j response hj
    rw [hreplies hne] at hj
    exact .inl hj
  generalize hanswer : (perform worker outcome e s).1 = answer at hmove
  cases hmove with
  | find c => exact h.set hp rfl hcalls hkeeps (by simp) (by simp) (hsilent (by simp))
  | found c session same =>
      refine h.set hp rfl hcalls hkeeps ?_ (by simp) (hsilent (by simp))
      rintro _ ⟨⟩
      exact hkeeps _ _ ((mandateOf_found hanswer).trans same)
  | unlinked c session unset =>
      exact h.set hp rfl hcalls hkeeps (by simp) (by simp) (hsilent (by simp))
  | now => exact h.set hp rfl hcalls hkeeps hknown (fun _ => id) (hsilent (by simp))
  | getMandate c => exact h.set hp rfl hcalls hkeeps (by simp) (by simp) (hsilent (by simp))
  | updateFailed c => exact h.set hp rfl hcalls hkeeps (by simp) (by simp) (hsilent (by simp))
  | update c updated =>
      refine h.set hp rfl hcalls hkeeps ?_ (by simp) (hsilent (by simp))
      rintro _ ⟨⟩
      exact mandateOf_updated hanswer
  | upsert c row => exact h.set hp rfl hcalls hkeeps hknown (fun _ => id) (hsilent (by simp))
  | refuse p e =>
      refine h.set hp rfl hcalls hkeeps hknown (fun _ => id) fun j response hj => .inl ?_
      change (s.replies.insert worker _).lookup j = _ at hj
      rw [FinMap.lookup_insert] at hj
      split_ifs at hj
      · cases hj
      · exact hj
  | accept c response =>
      refine h.set hp rfl hcalls hkeeps hknown (fun _ => id) fun j response' hj => ?_
      change (s.replies.insert worker _).lookup j = _ at hj
      rw [FinMap.lookup_insert] at hj
      split_ifs at hj with hji
      · exact .inr ⟨hji, c, rfl⟩
      · exact .inl hj

theorem known_call {s : Shared} {phases : List Phase} (h : Known s phases) (c : Call) :
    Known { s with calls := s.calls ++ [c] } (phases ++ [.linking c]) := by
  refine ⟨?_, fun c' hc => ?_, fun j response hj => ?_⟩
  · rw [List.map_append, h.calls]
    rfl
  · rcases List.mem_append.mp hc with hold | hnew
    · exact h.stored c' hold
    · cases List.mem_singleton.mp hnew
  · obtain ⟨c', hc⟩ := h.told j response hj
    have hlt := (List.getElem?_eq_some_iff.mp hc).1
    exact ⟨c', (List.getElem?_append_left hlt).trans hc⟩

theorem tracked_exec {s : System} {a : Action} (hin : inTime s a = true)
    (h : Workers.Tracked Move Known s) : Workers.Tracked Move Known (exec s a) := by
  cases a with
  | call c =>
      obtain ⟨phases, hphases, hknown⟩ := h
      have hbefore : Workers.Tracked Move (fun shared phases' =>
            shared = { s.shared with calls := s.shared.calls ++ [c] } ∧ phases' = phases)
          (s.outside fun shared => { shared with calls := shared.calls ++ [c] }) :=
        ⟨phases, hphases, rfl, rfl⟩
      refine hbefore.start_to (follows_serve c) fun phases' hsame => ?_
      rw [hsame.1, hsame.2]
      exact known_call hknown c
  | work worker outcome =>
      refine h.work fun phases p e k p' hknown hp hw hmove => ?_
      refine known_perform hknown hp (fun id mandateId hlinked => ?_) hmove
      refine perform_keeps (fun input he => ?_) hlinked
      subst he
      exact inTime_update hin hw hlinked

/-! ## What is in time

The route refuses a session that it finds linked to another mandate. An update is in time when its
session has not been updated since the call has read it. -/

/-- A read or an update of a session that has been carried out. -/
inductive Access where
  | read (worker : ℕ) (id : String)
  | updated (id : String)

def accessesOf (worker : ℕ) : Outcome → Effect → List Access
  | .served _ _, .findSession id => [.read worker id]
  | .served _ _, .updateSession id _ => [.updated id]
  | .unanswered _, .updateSession id _ => [.updated id]
  | _, _ => []

def accesses (s : System) : Action → List Access
  | .call _ => []
  | .work worker outcome =>
      match s.running[worker]? with
      | some (.call e _) => accessesOf worker outcome e
      | _ => []

/-- The call has read the session, and it has not been updated since. -/
def Current (history : List Access) (worker : ℕ) (id : String) : Prop :=
  ∃ before since, history = before ++ .read worker id :: since ∧ .updated id ∉ since

theorem current_append {history more : List Access} {worker : ℕ} {id : String}
    (h : Current (history ++ more) worker id) :
    .read worker id ∈ more ∨ (Current history worker id ∧ .updated id ∉ more) := by
  obtain ⟨before, since, hsplit, hsince⟩ := h
  rcases List.append_eq_append_iff.mp hsplit with ⟨rest, -, hmore⟩ | ⟨rest, hhistory, hrest⟩
  · left
    rw [hmore]
    exact List.mem_append_right _ List.mem_cons_self
  · cases rest with
    | nil =>
        left
        rw [List.nil_append] at hrest
        rw [← hrest]
        exact List.mem_cons_self
    | cons access rest =>
        -- the read is one of those before
        rw [List.cons_append] at hrest
        obtain ⟨rfl, rfl⟩ := List.cons.inj hrest
        rw [List.mem_append, not_or] at hsince
        exact .inr ⟨⟨before, rest, hhistory, hsince.1⟩, hsince.2⟩

/-- A session that is not updated keeps its mandate, or its lack of one. -/
theorem mandateOf_of_not_updated {worker : ℕ} {outcome : Outcome} {e : Effect} {s : Shared}
    {id : String} (h : .updated id ∉ accessesOf worker outcome e) :
    (perform worker outcome e s).2.mandateOf id = s.mandateOf id := by
  rcases mandateOf_perform worker outcome e s id with hsame | ⟨input, rfl, -⟩
  · exact hsame
  · cases outcome with
    | failed now => rfl
    | served now mandate => exact absurd (List.mem_singleton.mpr rfl) h
    | unanswered now => exact absurd (List.mem_singleton.mpr rfl) h

/-- **The guard of the route**: a call that has found its session unlinked, and whose read is current,
still finds it so. -/
def Guarded (history : List Access) (s : Shared) (phases : List Phase) : Prop :=
  ∀ worker c, phases[worker]? = some (.unlinked c) → Current history worker c.id →
    s.mandateOf c.id = none

theorem reader_of_mem {worker other : ℕ} {outcome : Outcome} {e : Effect} {id : String}
    (h : .read other id ∈ accessesOf worker outcome e) : other = worker := by
  cases outcome with
  | failed now => cases h
  | unanswered now =>
      cases e with
      | updateSession id' input => cases List.mem_singleton.mp h
      | _ => cases h
  | served now mandate =>
      cases e with
      | findSession id' =>
          obtain ⟨rfl, -⟩ := Access.read.inj (List.mem_singleton.mp h)
          rfl
      | updateSession id' input => cases List.mem_singleton.mp h
      | _ => cases h

theorem guarded_perform {history : List Access} {s : Shared} {phases : List Phase} {worker : ℕ}
    {outcome : Outcome} {p p' : Phase} {e : Effect} (h : Guarded history s phases)
    (hp : phases[worker]? = some p) (hmove : Move p e (perform worker outcome e s).1 p') :
    Guarded (history ++ accessesOf worker outcome e) (perform worker outcome e s).2
      (phases.set worker p') := by
  -- a call that was unlinked before has not read its session in this step
  have hold : ∀ other c, phases[other]? = some (.unlinked c) →
      .read other c.id ∉ accessesOf worker outcome e →
      Current (history ++ accessesOf worker outcome e) other c.id →
      (perform worker outcome e s).2.mandateOf c.id = none := by
    intro other c hother hunread hcurrent
    rcases current_append hcurrent with hread | ⟨hbefore, hkept⟩
    · exact absurd hread hunread
    · exact (mandateOf_of_not_updated hkept).trans (h other c hother hbefore)
  intro other c hother hcurrent
  rcases Workers.getElem?_set_cases hother with ⟨rfl, hp'⟩ | ⟨hne, hother⟩
  · generalize hanswer : (perform other outcome e s).1 = answer at hmove
    subst hp'
    cases hmove with
    | unlinked c session unset =>
        cases outcome with
        | served now mandate => exact (mandateOf_found hanswer).trans unset
        | failed now => cases hanswer
        | unanswered now => cases hanswer
    | now => exact hold other c hp (by cases outcome <;> simp [accessesOf]) hcurrent
    | getMandate => exact hold other c hp (by cases outcome <;> simp [accessesOf]) hcurrent
    | refuse => exact hold other c hp (by cases outcome <;> simp [accessesOf]) hcurrent
  · exact hold other c hother (fun hread => hne (reader_of_mem hread)) hcurrent

theorem guarded_exec (q : System × List Access) (a : Action)
    (h : Workers.Tracked Move (Guarded q.2) q.1) :
    Workers.Tracked Move (Guarded (Runs.noting exec accesses q a).2)
      (Runs.noting exec accesses q a).1 := by
  cases a with
  | call c =>
      have hbefore : Workers.Tracked Move (Guarded q.2)
          (q.1.outside fun shared => { shared with calls := shared.calls ++ [c] }) :=
        h.outside fun phases _ hguarded => hguarded
      show Workers.Tracked Move (Guarded (q.2 ++ [])) _
      rw [List.append_nil]
      refine hbefore.start (follows_serve c) fun phases hguarded other c' hother => ?_
      by_cases hlt : other < phases.length
      · rw [List.getElem?_append_left hlt] at hother
        exact hguarded other c' hother
      · rw [List.getElem?_append_right (by omega)] at hother
        cases List.mem_singleton.mp (List.mem_of_getElem? hother)
  | work worker outcome =>
      refine h.work_to (fun phases p e k p' hguarded hp hw hmove => ?_) fun hidle phases hguarded => ?_
      · have haccesses : accesses q.1 (.work worker outcome) = accessesOf worker outcome e := by
          simp only [accesses, hw]
        show Guarded (q.2 ++ accesses q.1 (.work worker outcome)) _ _
        rw [haccesses]
        exact guarded_perform hguarded hp hmove
      · have haccesses : accesses q.1 (.work worker outcome) = [] := by
          simp only [accesses]
        show Guarded (q.2 ++ accesses q.1 (.work worker outcome)) _ _
        rw [haccesses, List.append_nil]
        exact hguarded

/-- **An update is in time** when nobody has updated its session since the call has read it. -/
theorem inTime_of_current {sessions : FinMap String CheckoutSession} {actions : List Action}
    (hcurrent : ∀ earlier worker outcome later id input k,
      actions = earlier ++ .work worker outcome :: later →
      (run (initial sessions) earlier).running[worker]? = some (.call (.updateSession id input) k) →
      Current (Runs.notes exec accesses (initial sessions) earlier) worker id) :
    ∀ q ∈ Runs.trace exec (initial sessions) actions, inTime q.1 q.2 = true := by
  rintro ⟨s, a⟩ hq
  obtain ⟨earlier, later, hactions, hs⟩ := Runs.exists_of_mem_trace hq
  dsimp only at hactions hs
  subst hs
  have hstart : Workers.Tracked Move (Guarded []) (initial sessions) :=
    ⟨[], ⟨rfl, fun hp => by cases hp⟩, fun _ _ hp => by cases hp⟩
  have hrun := Runs.run_invariant (s := (initial sessions, []))
    (P := fun q : System × List Access => Workers.Tracked Move (Guarded q.2) q.1)
    guarded_exec hstart earlier
  rw [Runs.run_noting, List.nil_append] at hrun
  obtain ⟨phases, hin, hguarded⟩ := hrun
  cases a with
  | call c => rfl
  | work worker outcome =>
      unfold inTime
      dsimp only
      split
      · rename_i e k hw
        cases e with
        | updateSession id input =>
            -- the call is at its update, so it has found the session unlinked
            obtain ⟨p, hp, hmoves⟩ := hin.allows hw
            obtain ⟨p', hmove, -⟩ := hmoves none
            cases hmove with
            | updateFailed c =>
                have hnone := hguarded worker c hp
                  (hcurrent earlier worker outcome later c.id c.input k hactions hw)
                simp [Shared.relinks, hnone]
        | _ => rfl
      · rfl

/-! ## A session is linked once -/

/-- **A session is linked once**, in every run whose updates are all in time: a mandate that is linked
stays linked, and the one that a call was answered `200` for is. -/
theorem linked_once {sessions : FinMap String CheckoutSession} {actions : List Action}
    (hin : ∀ q ∈ Runs.trace exec (initial sessions) actions, inTime q.1 q.2 = true) :
    (∀ earlier later id mandateId, actions = earlier ++ later →
      (run (initial sessions) earlier).shared.mandateOf id = some mandateId →
      (run (initial sessions) actions).shared.mandateOf id = some mandateId) ∧
    (∀ i c response, (run (initial sessions) actions).shared.calls[i]? = some c →
      (run (initial sessions) actions).shared.replies.lookup i = some (.ok response) →
      (run (initial sessions) actions).shared.mandateOf c.id = some c.input.mandateId) := by
  constructor
  · rintro earlier later id mandateId rfl hlinked
    rw [show run (initial sessions) (earlier ++ later) = run (run (initial sessions) earlier) later
      from Runs.run_append _ earlier later]
    refine Runs.run_invariant_along (P := fun s => s.shared.mandateOf id = some mandateId)
      (C := fun s a => inTime s a = true) (fun s a hs => exec_keeps hs) hlinked fun q hq => hin q ?_
    rw [Runs.trace_append]
    exact List.mem_append_right _ hq
  · intro i c response hcall hreply
    have hstart : Workers.Tracked Move Known (initial sessions) :=
      ⟨[], ⟨rfl, fun hp => by cases hp⟩, rfl, by simp, fun _ _ hr => by cases hr⟩
    obtain ⟨phases, -, hknown⟩ :=
      Runs.run_invariant_along (fun s a hs => tracked_exec hs) hstart hin
    obtain ⟨c', hc'⟩ := hknown.told i response hreply
    -- the call that is linked is the call that was made
    have hsame : c' = c := by
      have hlisted := congrArg (·[i]?) hknown.calls
      simp only [List.getElem?_map, hc', Option.map_some] at hlisted
      exact Option.some.inj (hlisted.trans hcall)
    rw [← hsame]
    exact hknown.stored c' (List.mem_of_getElem? hc')

/-! ## Two mandates for one session

Two payers open the same checkout link, each creates a mandate, and both calls find the session
unlinked. -/

def openSession : CheckoutSession where
  merchantId := 1
  productId := 1
  clientReference := none
  payerAddress := none
  expiresAt := 1000
  status := .pending
  mandateId := none
  createdAt := 0
  merchantWalletAddress := ⟨2⟩
  productAssetAddress := ⟨3⟩

def openSessions : FinMap String CheckoutSession :=
  (∅ : FinMap String CheckoutSession).insert "s" openSession

/-- A mandate of `payer` for the session. -/
def mandateOfPayer (payer : Address) : Client.Mandate :=
  { Client.toDomainMandate (Registry.newMandate Registry.mockId 0 Registry.mockInput) with
    payer := payer }

def firstCall : Call := ⟨"s", "a1", ⟨1⟩⟩

def secondCall : Call := ⟨"s", "b2", ⟨9⟩⟩

/-- A call is served `steps` times, its mandate being one of `payer`. -/
def served (worker steps : ℕ) (payer : Address) : List Action :=
  List.replicate steps (.work worker (.served 0 (.read (mandateOfPayer payer))))

/-- The first call is about to update the session, and the second one has come to its end. -/
def overtaken : List Action :=
  [.call firstCall, .call secondCall] ++ served 0 3 ⟨1⟩ ++ served 1 7 ⟨9⟩

/-- What the caller of a call was told to be linked. -/
def toldOf (s : System) (i : ℕ) : Option String :=
  match s.shared.replies.lookup i with
  | some (.ok response) => response.mandateId
  | _ => none

/-- Both are told that their mandate is linked, and the first one has replaced the second one's. -/
theorem session_relinked :
    (run (initial openSessions) overtaken).shared.mandateOf "s" = some "b2" ∧
    toldOf (run (initial openSessions) (overtaken ++ served 0 4 ⟨1⟩)) 0 = some "a1" ∧
    toldOf (run (initial openSessions) (overtaken ++ served 0 4 ⟨1⟩)) 1 = some "b2" ∧
    (run (initial openSessions) (overtaken ++ served 0 4 ⟨1⟩)).shared.mandateOf "s" = some "a1" := by
  decide

/-- One call, and then the other one, which is refused. -/
def oneByOne : List Action :=
  [.call firstCall] ++ served 0 7 ⟨1⟩ ++ [.call secondCall] ++ served 1 7 ⟨9⟩

theorem linked_once_one_by_one :
    (run (initial openSessions) oneByOne).shared.mandateOf "s" = some "a1" := by
  have htold : ∃ response,
      (run (initial openSessions) oneByOne).shared.replies.lookup 0 = some (.ok response) :=
    ⟨toCheckoutSessionResponse "s" (openSession.link firstCall.input), by decide⟩
  obtain ⟨response, hresponse⟩ := htold
  have hin : ∀ q ∈ Runs.trace exec (initial openSessions) oneByOne, inTime q.1 q.2 = true := by
    decide
  exact (linked_once hin).2 0 firstCall response rfl hresponse

end Paymap.Api.Linking
