import Paymap.Api.Products
import Paymap.Relayer.Agreement
import Paymap.Relayer.Authorizations
import Paymap.Stellar.MerchantAuthorization

set_option autoImplicit false

/-! # Completing an authorization

`POST /charge-authorizations/:id/complete` (`apps/api/src/routes/charges.ts`): the merchant sends the entry it
has signed, and the authorization becomes a request for a charge. Any number of calls are under way at one
time, next to the relayer and its workers. A call reads the authorization, has the entry checked against it,
and then makes its one transaction: the update of the row to `ready`, if it is still pending, and the request.
A call that comes too late finds the request that another one has made.

An authorization that is pending has no request, and what a call has read of one does not change any more.
From these two the rest follows: there is one request for an authorization, it says what the authorization
says, and every call that succeeds shows that one.
-/

namespace Paymap.Api.Completing

open Registry (Address BytesN Host)
open Relayer (ChargeAuthorization ChargeAuthorizationStatus ChargeRequest ChargeRequestStatus Db
  PipelineDeps Time TxHash Uuid newChargeRequest)
open Stellar (ChargeAuthorizationArgs ChargeAuthorizationContext Covers Sdk
  ValidateChargeAuthorizationInput validateChargeAuthorization)
open Tx (rejectIf)

/-! ## Rows -/

/-- The columns of an authorization that only this route reads. -/
structure Challenge where
  contractId : Address
  networkPassphrase : String
deriving DecidableEq

/-- What is found, with the request that there is for it. -/
structure Found where
  authorization : ChargeAuthorization
  challenge : Challenge
  chargeRequest : Option ChargeRequest

structure ChargeRequestResponse where
  id : Uuid
  mandateId : BytesN
  chargeId : BytesN
  amount : String
  invoiceHash : BytesN
  scheduledFor : Time
  status : ChargeRequestStatus
  attemptCount : ℕ
  failureCode : Option String
  transactionHash : Option TxHash
deriving DecidableEq

def toChargeRequestResponse (row : ChargeRequest) (decimals : ℤ) :
    Except RouteError ChargeRequestResponse := do
  let amount ← responseAmount row.amount decimals
  return {
    id := row.id
    mandateId := row.mandateId
    chargeId := row.chargeId
    amount := amount
    invoiceHash := row.invoiceHash
    scheduledFor := row.scheduledFor
    status := row.status
    attemptCount := row.attemptCount
    failureCode := row.failureCode
    transactionHash := row.transactionHash }

def challengeContext (challenge : Challenge) (walletAddress : Address) : ChargeAuthorizationContext where
  contractId := challenge.contractId
  networkPassphrase := challenge.networkPassphrase
  merchantAddress := walletAddress

def authorizedArgs (authorization : ChargeAuthorization) : ChargeAuthorizationArgs where
  mandateId := authorization.mandateId
  chargeId := authorization.chargeId
  amount := authorization.amount
  invoiceHash := authorization.invoiceHash

/-- What an entry is checked against. -/
def validationInput (signedEntryXdr : String) (challenge : Challenge) (walletAddress : Address)
    (authorization : ChargeAuthorization) (latestLedger : ℕ) : ValidateChargeAuthorizationInput where
  signedEntryXdr := signedEntryXdr
  context := challengeContext challenge walletAddress
  args := authorizedArgs authorization
  currentLedgerSeq := latestLedger
  expectedExpirationLedger := some authorization.signatureExpirationLedger

/-! ## Effects -/

inductive Effect where
  /-- What comes before the handler: the caller is a merchant. -/
  | requireMerchant (merchantId : Uuid)
  | findAuthorization (id merchantId : Uuid)
  | getLatestLedgerSequence
  | randomBytes
  /-- The transaction. -/
  | complete (id merchantId : Uuid) (authorization : ChargeAuthorization) (ciphertext : ℕ)
  | assetDecimals (merchantId : Uuid) (mandateId : BytesN)
  | reply (result : Except RouteError (ℕ × ChargeRequestResponse))

/-- What an effect is answered with; `none` is an exception. -/
abbrev Answer : Effect → Type
  | .requireMerchant _ => Except RouteError Address
  | .findAuthorization _ _ => Option (Option Found)
  | .getLatestLedgerSequence => Option ℕ
  | .randomBytes => ℕ
  | .complete _ _ _ _ => Except RouteError ChargeRequest
  | .assetDecimals _ _ => Except RouteError ℤ
  | .reply _ => Unit

abbrev Job (α : Type) := Prog Effect Answer RouteError α

def Effect.run (e : Effect) : Job (Answer e) := .perform e

/-! ## The route -/

/-- The id in the path, what the body says, and whose call it is. -/
structure Call where
  id : Uuid
  merchantId : Uuid
  signedAuthorizationEntryXdr : String
deriving DecidableEq

def authorizationNotFound (id : Uuid) : RouteError :=
  .api 404 "CHARGE_AUTHORIZATION_NOT_FOUND"
    ("No charge authorization \"" ++ toString id ++ "\" for this merchant.")

def ChargeAuthorizationStatus.text : ChargeAuthorizationStatus → String
  | .pending => "pending"
  | .ready => "ready"
  | .consumed => "consumed"
  | .expired => "expired"

def authorizationNotPending (id : Uuid) (status : ChargeAuthorizationStatus) : RouteError :=
  .api 409 "CHARGE_AUTHORIZATION_NOT_PENDING"
    ("Charge authorization \"" ++ toString id ++ "\" is " ++ ChargeAuthorizationStatus.text status ++ ".")

def alreadyUsed (id : Uuid) : RouteError :=
  .api 409 "CHARGE_AUTHORIZATION_ALREADY_USED"
    ("Charge authorization \"" ++ toString id ++ "\" was already completed.")

section

variable (sdk : Sdk) (encryptChargeAuthorization : String → ℕ → Option ℕ)

/-- The response, once there is a request. -/
def respond (c : Call) (status : ℕ) (mandateId : BytesN) (row : ChargeRequest) :
    Job (ℕ × ChargeRequestResponse) := do
  match ← (Effect.assetDecimals c.merchantId mandateId).run with
  | .error e => .raise e
  | .ok decimals =>
      match toChargeRequestResponse row decimals with
      | .error e => .raise e
      | .ok response => return (status, response)

/-- From the encryption on. -/
def storeCompletion (c : Call) (authorization : ChargeAuthorization) :
    Job (ℕ × ChargeRequestResponse) := do
  let iv ← Effect.randomBytes.run
  match encryptChargeAuthorization c.signedAuthorizationEntryXdr iv with
  | none => .raise .unexpected
  | some ciphertext =>
      match ← (Effect.complete c.id c.merchantId authorization ciphertext).run with
      | .error e => .raise e
      | .ok row => respond c 201 authorization.mandateId row

/-- From the read of the chain on. -/
def completePending (c : Call) (walletAddress : Address) (found : Found) :
    Job (ℕ × ChargeRequestResponse) := do
  match ← Effect.getLatestLedgerSequence.run with
  | none => .raise .unexpected
  | some latestLedger =>
      match validateChargeAuthorization sdk (validationInput c.signedAuthorizationEntryXdr
        found.challenge walletAddress found.authorization latestLedger) with
      | .error message => .raise (badRequest "INVALID_CHARGE_AUTHORIZATION" message)
      | .ok _ => storeCompletion encryptChargeAuthorization c found.authorization

/-- From the row of the authorization on. -/
def completeFound (c : Call) (walletAddress : Address) (found : Found) :
    Job (ℕ × ChargeRequestResponse) :=
  match found.chargeRequest with
  | some row => respond c 200 found.authorization.mandateId row
  | none =>
      if found.authorization.status = .pending then
        completePending sdk encryptChargeAuthorization c walletAddress found
      else .raise (authorizationNotPending c.id found.authorization.status)

def completeAuthorization (c : Call) : Job (ℕ × ChargeRequestResponse) := do
  match ← (Effect.requireMerchant c.merchantId).run with
  | .error e => .raise e
  | .ok walletAddress =>
      if 1 ≤ utf16Length c.signedAuthorizationEntryXdr ∧
          utf16Length c.signedAuthorizationEntryXdr ≤ 65536 then
        match ← (Effect.findAuthorization c.id c.merchantId).run with
        | none => .raise .unexpected
        | some none => .raise (authorizationNotFound c.id)
        | some (some found) => completeFound sdk encryptChargeAuthorization c walletAddress found
      else .raise .zod

/-- A call, and its caller. -/
def serve (c : Call) : Job Unit := do
  let result ← (completeAuthorization sdk encryptChargeAuthorization c).attempt
  (Effect.reply result).run

end

/-! ## The transaction -/

/-- The request of an authorization. -/
def requestOf (db : Db) (id : Uuid) : Option ChargeRequest :=
  (FinMap.values db.chargeRequests).find? fun row => row.authorizationId = some id

def asReady (authorization : ChargeAuthorization) (ciphertext : ℕ) : ChargeAuthorization :=
  { authorization with status := .ready, signedEntryCiphertext := some ciphertext }

/-- The `updateMany`; `none` when it has no row to update. -/
def markReady (db : Db) (id merchantId : Uuid) (ciphertext : ℕ) : Option Db :=
  match db.chargeAuthorizations.lookup id with
  | some stored =>
      if stored.merchantId = merchantId ∧ stored.status = .pending then
        some { db with
          chargeAuthorizations := db.chargeAuthorizations.insert id (asReady stored ciphertext) }
      else none
  | none => none

/-- `chargeRequest.create`: ids, charge ids and authorizations are unique. -/
def createChargeRequest (now : Time) (db : Db) (id : Uuid) (authorization : ChargeAuthorization) :
    Except RouteError (ChargeRequest × Db) := do
  rejectIf ((db.chargeRequests.lookup id).isSome ∨ (FinMap.values db.chargeRequests).any fun row =>
    row.chargeId = authorization.chargeId || row.authorizationId = some authorization.id) .unexpected
  let row := newChargeRequest now id authorization
  return (row, { db with chargeRequests := db.chargeRequests.insert id row })

def completeTransaction (now : Time) (db : Db) (id merchantId : Uuid)
    (authorization : ChargeAuthorization) (ciphertext : ℕ) (newId : Uuid) :
    Except RouteError (ChargeRequest × Db) :=
  match markReady db id merchantId ciphertext with
  | some db' => createChargeRequest now db' newId authorization
  | none =>
      match requestOf db id with
      | some existing => .ok (existing, db)
      | none => .error (alreadyUsed id)

/-! ## The system -/

structure Shared (T : Type) where
  relayer : Relayer.System T
  challenges : FinMap Uuid Challenge
  /-- The calls so far, and what their callers were told. -/
  calls : List Call
  replies : FinMap ℕ (Except RouteError (ℕ × ChargeRequestResponse))

/-- What becomes of an effect. -/
inductive Outcome where
  /-- It is carried out, with these random bytes, and this is what other reads find. -/
  | served (random latestLedger : ℕ) (decimals : Except RouteError ℤ)
  /-- It is not. -/
  | refused (e : RouteError)
  /-- It is carried out, and the answer is lost. -/
  | unanswered (random : ℕ)

def Outcome.random : Outcome → ℕ
  | .served random _ _ => random
  | .refused _ => 0
  | .unanswered random => random

section

variable {T : Type}

namespace Shared

def db (s : Shared T) : Db := s.relayer.shared.db

def setDb (s : Shared T) (db : Db) : Shared T :=
  { s with relayer := s.relayer.outside fun shared => shared.commit db }

/-- `findFirst`. -/
def findAuthorization (s : Shared T) (id merchantId : Uuid) : Option Found :=
  match s.db.chargeAuthorizations.lookup id, s.challenges.lookup id with
  | some authorization, some challenge =>
      if authorization.merchantId = merchantId then
        some ⟨authorization, challenge, requestOf s.db id⟩
      else none
  | _, _ => none

/-- The transaction, or nothing when it fails. -/
def complete (s : Shared T) (id merchantId : Uuid) (authorization : ChargeAuthorization)
    (ciphertext newId : ℕ) : Except RouteError ChargeRequest × Shared T :=
  match completeTransaction s.relayer.shared.clock s.db id merchantId authorization ciphertext newId with
  | .ok (row, db) => (.ok row, s.setDb db)
  | .error e => (.error e, s)

end Shared

def perform (worker : ℕ) (outcome : Outcome) : (e : Effect) → Shared T → Answer e × Shared T
  | .requireMerchant merchantId, s =>
      match outcome with
      | .served _ _ _ => ((s.db.merchants.lookup merchantId).elim (.error .unexpected) .ok, s)
      | .refused e => (.error e, s)
      | .unanswered _ => (.error .unexpected, s)
  | .findAuthorization id merchantId, s =>
      match outcome with
      | .served _ _ _ => (some (s.findAuthorization id merchantId), s)
      | _ => (none, s)
  | .getLatestLedgerSequence, s =>
      match outcome with
      | .served _ latestLedger _ => (some latestLedger, s)
      | _ => (none, s)
  | .randomBytes, s => (outcome.random, s)
  | .complete id merchantId authorization ciphertext, s =>
      match outcome with
      | .served random _ _ => s.complete id merchantId authorization ciphertext random
      | .refused e => (.error e, s)
      | .unanswered random =>
          (.error .unexpected, (s.complete id merchantId authorization ciphertext random).2)
  | .assetDecimals _ _, s =>
      match outcome with
      | .served _ _ decimals => (decimals, s)
      | .refused e => (.error e, s)
      | .unanswered _ => (.error .unexpected, s)
  | .reply result, s => ((), { s with replies := s.replies.insert worker result })

inductive Action (T : Type) where
  /-- Whatever the relayer does, and the chain. -/
  | relayer (action : Relayer.Action T)
  | createMerchant (id : Uuid) (walletAddress : Address)
  /-- An authorization is issued. -/
  | issue (authorization : ChargeAuthorization) (challenge : Challenge)
  | call (c : Call)
  /-- A call has its next effect performed. -/
  | work (worker : ℕ) (outcome : Outcome)

abbrev System (T : Type) := Workers (Shared T) (Job Unit)

/-- What an action does that is not a call's. -/
def outsideEffect (host : Host T) (deps : PipelineDeps) : Action T → Shared T → Shared T
  | .relayer action, s =>
      if action.isRoute then s else { s with relayer := Relayer.exec host deps s.relayer action }
  | .createMerchant id walletAddress, s =>
      if (s.db.merchants.lookup id).isNone then
        s.setDb { s.db with merchants := s.db.merchants.insert id walletAddress }
      else s
  | .issue authorization challenge, s =>
      match Relayer.createChargeAuthorization s.db authorization with
      | .ok db =>
          { s.setDb db with challenges := s.challenges.insert authorization.id challenge }
      | .error _ => s
  | .call c, s => { s with calls := s.calls ++ [c] }
  | .work _ _, s => s

def exec (host : Host T) (deps : PipelineDeps) (sdk : Sdk) (encrypt : String → ℕ → Option ℕ)
    (s : System T) : Action T → System T
  | .call c => (s.outside (outsideEffect host deps (.call c))).start (serve sdk encrypt c)
  | .work worker outcome => s.work (perform worker outcome) worker
  | action => s.outside (outsideEffect host deps action)

def initial (t₀ : U64) (tok₀ : T) : System T := ⟨⟨Relayer.initial t₀ tok₀, ∅, [], ∅⟩, []⟩

abbrev run (host : Host T) (deps : PipelineDeps) (sdk : Sdk) (encrypt : String → ℕ → Option ℕ)
    (s : System T) (actions : List (Action T)) : System T :=
  Runs.run (exec host deps sdk encrypt) s actions

end

/-! ## A call, move by move -/

section

variable (sdk : Sdk) (encrypt : String → ℕ → Option ℕ)

/-- The entry of the call has been accepted. -/
def Accepted (c : Call) (challenge : Challenge) (walletAddress : Address)
    (authorization : ChargeAuthorization) : Prop :=
  ∃ latestLedger expiration, validateChargeAuthorization sdk
    (validationInput c.signedAuthorizationEntryXdr challenge walletAddress authorization latestLedger)
    = .ok expiration

inductive Phase where
  | opening (c : Call)
  | authenticated (c : Call) (walletAddress : Address)
  /-- The authorization has been read, and had no request. -/
  | found (c : Call) (walletAddress : Address) (found : Found)
  | validated (c : Call) (walletAddress : Address) (found : Found)
  /-- There is a request. -/
  | answered (c : Call) (row : ChargeRequest)

def Phase.call : Phase → Call
  | .opening c => c
  | .authenticated c _ => c
  | .found c _ _ => c
  | .validated c _ _ => c
  | .answered c _ => c

/-- The response shows the request. -/
structure Shows (response : ChargeRequestResponse) (row : ChargeRequest) : Prop where
  id : response.id = row.id
  mandateId : response.mandateId = row.mandateId
  chargeId : response.chargeId = row.chargeId
  amount : ∃ decimals, responseAmount row.amount decimals = .ok response.amount
  invoiceHash : response.invoiceHash = row.invoiceHash
  scheduledFor : response.scheduledFor = row.scheduledFor

inductive Move : Phase → (e : Effect) → Answer e → Phase → Prop where
  | refused (c : Call) (e : RouteError) :
      Move (.opening c) (.requireMerchant c.merchantId) (.error e) (.opening c)
  | authenticated (c : Call) (walletAddress : Address) :
      Move (.opening c) (.requireMerchant c.merchantId) (.ok walletAddress)
        (.authenticated c walletAddress)
  | find (c : Call) (walletAddress : Address) (answer : Option (Option Found)) :
      Move (.authenticated c walletAddress) (.findAuthorization c.id c.merchantId) answer
        (.authenticated c walletAddress)
  | found (c : Call) (walletAddress : Address) (found : Found) :
      Move (.authenticated c walletAddress) (.findAuthorization c.id c.merchantId)
        (some (some found)) (.found c walletAddress found)
  | existing (c : Call) (walletAddress : Address) (found : Found) (row : ChargeRequest)
      (completed : found.chargeRequest = some row) :
      Move (.authenticated c walletAddress) (.findAuthorization c.id c.merchantId)
        (some (some found)) (.answered c row)
  | latestLedger (p : Phase) (answer : Option ℕ) : Move p .getLatestLedgerSequence answer p
  | validate (c : Call) (walletAddress : Address) (found : Found) (answer : Option ℕ)
      (accepted : Accepted sdk c found.challenge walletAddress found.authorization) :
      Move (.found c walletAddress found) .getLatestLedgerSequence answer
        (.validated c walletAddress found)
  | random (p : Phase) (iv : ℕ) : Move p .randomBytes iv p
  | failed (c : Call) (walletAddress : Address) (found : Found) (ciphertext iv : ℕ)
      (encrypted : encrypt c.signedAuthorizationEntryXdr iv = some ciphertext) (e : RouteError) :
      Move (.validated c walletAddress found)
        (.complete c.id c.merchantId found.authorization ciphertext) (.error e)
        (.validated c walletAddress found)
  | complete (c : Call) (walletAddress : Address) (found : Found) (ciphertext iv : ℕ)
      (encrypted : encrypt c.signedAuthorizationEntryXdr iv = some ciphertext) (row : ChargeRequest) :
      Move (.validated c walletAddress found)
        (.complete c.id c.merchantId found.authorization ciphertext) (.ok row) (.answered c row)
  | decimals (p : Phase) (merchantId : Uuid) (mandateId : BytesN) (answer : Except RouteError ℤ) :
      Move p (.assetDecimals merchantId mandateId) answer p
  | refuse (p : Phase) (e : RouteError) : Move p (.reply (.error e)) () p
  | accept (c : Call) (row : ChargeRequest) (status : ℕ) (response : ChargeRequestResponse)
      (shown : Shows response row) :
      Move (.answered c row) (.reply (.ok (status, response))) () (.answered c row)

/-- A call returns when there is a request, which it shows. -/
def Returns (c : Call) (result : ℕ × ChargeRequestResponse) (p : Phase) : Prop :=
  ∃ row, p = .answered c row ∧ Shows result.2 row

variable {sdk : Sdk} {encrypt : String → ℕ → Option ℕ}

theorem shows_of_ok {row : ChargeRequest} {decimals : ℤ} {response : ChargeRequestResponse}
    (h : toChargeRequestResponse row decimals = .ok response) : Shows response row := by
  obtain ⟨amount, hamount, hresponse⟩ := Tx.bind_ok.mp h
  obtain rfl := Except.ok.inj hresponse
  exact ⟨rfl, rfl, rfl, ⟨decimals, hamount⟩, rfl, rfl⟩

theorem ends_respond (c : Call) (status : ℕ) (mandateId : BytesN) (row : ChargeRequest) :
    (respond c status mandateId row).Ends (Move sdk encrypt) (Returns c) (fun _ _ => True)
      (.answered c row) := by
  rintro (e | decimals)
  · exact ⟨_, .decimals _ _ _ _, trivial⟩
  · refine ⟨_, .decimals _ _ _ _, ?_⟩
    show (match toChargeRequestResponse row decimals with
      | .error e => _
      | .ok response => _ : Job (ℕ × ChargeRequestResponse)).Ends _ _ _ _
    cases hresponse : toChargeRequestResponse row decimals with
    | error e => exact trivial
    | ok response => exact ⟨row, rfl, shows_of_ok hresponse⟩

theorem ends_storeCompletion (c : Call) (walletAddress : Address) (found : Found) :
    (storeCompletion encrypt c found.authorization).Ends (Move sdk encrypt) (Returns c)
      (fun _ _ => True) (.validated c walletAddress found) := by
  intro iv
  refine ⟨_, .random _ iv, ?_⟩
  show (match encrypt c.signedAuthorizationEntryXdr iv with
    | none => _
    | some ciphertext => _ : Job (ℕ × ChargeRequestResponse)).Ends _ _ _ _
  cases hencrypted : encrypt c.signedAuthorizationEntryXdr iv with
  | none => exact trivial
  | some ciphertext =>
      rintro (e | row)
      · exact ⟨_, .failed c walletAddress found ciphertext iv hencrypted e, trivial⟩
      · exact ⟨_, .complete c walletAddress found ciphertext iv hencrypted row,
          ends_respond c 201 _ row⟩

theorem ends_completePending (c : Call) (walletAddress : Address) (found : Found) :
    (completePending sdk encrypt c walletAddress found).Ends (Move sdk encrypt) (Returns c)
      (fun _ _ => True) (.found c walletAddress found) := by
  rintro (_ | latestLedger)
  · exact ⟨_, .latestLedger _ _, trivial⟩
  · cases hvalid : validateChargeAuthorization sdk (validationInput c.signedAuthorizationEntryXdr
      found.challenge walletAddress found.authorization latestLedger) with
    | error message =>
        refine ⟨_, .latestLedger _ _, ?_⟩
        show (match validateChargeAuthorization _ _ with
          | .error message => _
          | .ok _ => _ : Job (ℕ × ChargeRequestResponse)).Ends _ _ _ _
        rw [hvalid]
        exact trivial
    | ok expiration =>
        have haccepted : Accepted sdk c found.challenge walletAddress found.authorization :=
          ⟨latestLedger, expiration, hvalid⟩
        refine ⟨_, .validate c walletAddress found _ haccepted, ?_⟩
        show (match validateChargeAuthorization _ _ with
          | .error message => _
          | .ok _ => _ : Job (ℕ × ChargeRequestResponse)).Ends _ _ _ _
        rw [hvalid]
        exact ends_storeCompletion c walletAddress found

theorem ends_completeAuthorization (c : Call) :
    (completeAuthorization sdk encrypt c).Ends (Move sdk encrypt) (Returns c) (fun _ _ => True)
      (.opening c) := by
  rintro (e | walletAddress)
  · exact ⟨_, .refused c e, trivial⟩
  · refine ⟨_, .authenticated c walletAddress, ?_⟩
    show (if _ then _ else _ : Job (ℕ × ChargeRequestResponse)).Ends _ _ _ _
    split_ifs
    · rintro (_ | _ | found)
      · exact ⟨_, .find c walletAddress none, trivial⟩
      · exact ⟨_, .find c walletAddress (some none), trivial⟩
      · show ∃ p', _ ∧ (completeFound sdk encrypt c walletAddress found).Ends _ _ _ p'
        unfold completeFound
        cases hrequest : found.chargeRequest with
        | some row =>
            exact ⟨_, .existing c walletAddress found row hrequest, ends_respond c 200 _ row⟩
        | none =>
            refine ⟨_, .found c walletAddress found, ?_⟩
            show (if _ then _ else _ : Job (ℕ × ChargeRequestResponse)).Ends _ _ _ _
            split_ifs
            · exact ends_completePending c walletAddress found
            · exact trivial
    · exact trivial

theorem follows_serve (c : Call) :
    (serve sdk encrypt c).Follows (Move sdk encrypt) (fun _ _ => True) (.opening c) := by
  rw [serve, Prog.follows_bind, Prog.follows_attempt]
  refine (ends_completeAuthorization c).mono ?_ ?_
  · rintro ⟨status, response⟩ _ ⟨row, rfl, hshows⟩
    exact fun _ => ⟨_, .accept c row status response hshows, trivial⟩
  · intro e p _
    exact fun _ => ⟨_, .refuse p e, trivial⟩

end

/-! ## What stays -/

/-- The authorization later on: once it is used, its entry stays. -/
structure Evolved (a a' : ChargeAuthorization) : Prop where
  eq : a' = { a with
    status := a'.status
    consumedAt := a'.consumedAt
    signedEntryCiphertext := a'.signedEntryCiphertext }
  used : a.status ≠ .pending →
    a'.status ≠ .pending ∧ a'.signedEntryCiphertext = a.signedEntryCiphertext

namespace Evolved

variable {a a₁ a' : ChargeAuthorization}

theorem refl (a : ChargeAuthorization) : Evolved a a := ⟨rfl, fun h => ⟨h, rfl⟩⟩

theorem of_later (h : a.Later a') : Evolved a a' := by
  have hentry : a'.signedEntryCiphertext = a.signedEntryCiphertext := by rw [h.eq]
  refine ⟨?_, fun hused => ⟨fun hpending => hused (h.pending hpending), hentry⟩⟩
  calc a' = { a with status := a'.status, consumedAt := a'.consumedAt } := h.eq
    _ = _ := by rw [hentry]

theorem trans (h : Evolved a a₁) (h' : Evolved a₁ a') : Evolved a a' := by
  refine ⟨?_, fun hused => ?_⟩
  · calc a' = { a₁ with
          status := a'.status
          consumedAt := a'.consumedAt
          signedEntryCiphertext := a'.signedEntryCiphertext } := h'.eq
      _ = _ := by rw [h.eq]
  · obtain ⟨hused₁, hentry₁⟩ := h.used hused
    obtain ⟨hused', hentry'⟩ := h'.used hused₁
    exact ⟨hused', hentry'.trans hentry₁⟩

theorem args (h : Evolved a a') : authorizedArgs a' = authorizedArgs a := by
  rw [h.eq]
  rfl

theorem columns (h : Evolved a a') : a'.id = a.id ∧ a'.merchantId = a.merchantId ∧
    a'.scheduledFor = a.scheduledFor ∧
    a'.signatureExpirationLedger = a.signatureExpirationLedger := by
  rw [h.eq]
  exact ⟨rfl, rfl, rfl, rfl⟩

/-- An entry that is accepted is accepted later on. -/
theorem accepted {sdk : Sdk} {c : Call} {challenge : Challenge} {walletAddress : Address}
    (h : Evolved a a') (haccepted : Accepted sdk c challenge walletAddress a) :
    Accepted sdk c challenge walletAddress a' := by
  unfold Accepted validationInput at haccepted ⊢
  rw [h.args, h.columns.2.2.2]
  exact haccepted

end Evolved

section

variable {T : Type}

/-- The state later on. -/
structure Shared.Grows (s s' : Shared T) : Prop where
  merchants : ∀ {id walletAddress}, s.db.merchants.lookup id = some walletAddress →
    s'.db.merchants.lookup id = some walletAddress
  authorizations : ∀ {id a}, s.db.chargeAuthorizations.lookup id = some a →
    ∃ a', s'.db.chargeAuthorizations.lookup id = some a' ∧ Evolved a a'
  challenges : ∀ {id challenge}, s.challenges.lookup id = some challenge →
    s'.challenges.lookup id = some challenge
  created : ∀ {id row}, s.db.created id = some row → s'.db.created id = some row
  calls : ∀ {i : ℕ} {c}, s.calls[i]? = some c → s'.calls[i]? = some c

theorem Shared.Grows.refl (s : Shared T) : s.Grows s where
  merchants h := h
  authorizations {_ a} h := ⟨a, h, .refl a⟩
  challenges h := h
  created h := h
  calls h := h

/-- What the request says is what the authorization says. -/
structure Copies (row : ChargeRequest) (a : ChargeAuthorization) : Prop where
  mandateId : row.mandateId = a.mandateId
  chargeId : row.chargeId = a.chargeId
  amount : row.amount = a.amount
  invoiceHash : row.invoiceHash = a.invoiceHash
  scheduledFor : row.scheduledFor = a.scheduledFor

theorem Copies.evolved {row : ChargeRequest} {a a' : ChargeAuthorization} (h : Copies row a)
    (hevolved : Evolved a a') : Copies row a' := by
  rw [hevolved.eq]
  exact ⟨h.mandateId, h.chargeId, h.amount, h.invoiceHash, h.scheduledFor⟩

variable (sdk : Sdk) (encrypt : String → ℕ → Option ℕ)

/-- The request was made by a call for the authorization whose entry was accepted, and is stored. -/
structure CompletedBy (s : Shared T) (row : ChargeRequest) (c : Call) (a : ChargeAuthorization)
    (challenge : Challenge) (walletAddress : Address) : Prop where
  request : row.authorizationId = some c.id
  called : ∃ i : ℕ, s.calls[i]? = some c
  stored : s.db.chargeAuthorizations.lookup c.id = some a
  merchantId : a.merchantId = c.merchantId
  issued : s.challenges.lookup c.id = some challenge
  wallet : s.db.merchants.lookup c.merchantId = some walletAddress
  used : a.status ≠ .pending
  copies : Copies row a
  accepted : Accepted sdk c challenge walletAddress a
  entry : ∃ iv ciphertext, encrypt c.signedAuthorizationEntryXdr iv = some ciphertext ∧
    a.signedEntryCiphertext = some ciphertext

variable {sdk : Sdk} {encrypt : String → ℕ → Option ℕ} {s s' : Shared T}

theorem CompletedBy.grows {row : ChargeRequest} {c : Call} {a : ChargeAuthorization}
    {challenge : Challenge} {walletAddress : Address}
    (h : CompletedBy sdk encrypt s row c a challenge walletAddress) (hgrows : s.Grows s') :
    ∃ a', CompletedBy sdk encrypt s' row c a' challenge walletAddress := by
  obtain ⟨i, hcall⟩ := h.called
  obtain ⟨a', hstored, hevolved⟩ := hgrows.authorizations h.stored
  obtain ⟨hused, hentry⟩ := hevolved.used h.used
  obtain ⟨iv, ciphertext, hencrypt, hciphertext⟩ := h.entry
  exact ⟨a',
    { request := h.request
      called := ⟨i, hgrows.calls hcall⟩
      stored := hstored
      merchantId := hevolved.columns.2.1.trans h.merchantId
      issued := hgrows.challenges h.issued
      wallet := hgrows.merchants h.wallet
      used := hused
      copies := h.copies.evolved hevolved
      accepted := hevolved.accepted h.accepted
      entry := ⟨iv, ciphertext, hencrypt, hentry.trans hciphertext⟩ }⟩

/-- There is a request of the call's authorization with the id of the row. -/
def Made (s : Shared T) (c : Call) (row : ChargeRequest) : Prop :=
  s.db.created row.id = some row.asCreated ∧ row.authorizationId = some c.id

/-- What was read of an authorization is what is stored of it, but for what has happened since. -/
structure Read (s : Shared T) (c : Call) (found : Found) : Prop where
  stored : ∃ a, s.db.chargeAuthorizations.lookup c.id = some a ∧ Evolved found.authorization a
  merchantId : found.authorization.merchantId = c.merchantId
  challenge : s.challenges.lookup c.id = some found.challenge

variable (sdk) in
/-- What a call knows. -/
def Knows (s : Shared T) : Phase → Prop
  | .opening _ => True
  | .authenticated c walletAddress => s.db.merchants.lookup c.merchantId = some walletAddress
  | .found c walletAddress found =>
      s.db.merchants.lookup c.merchantId = some walletAddress ∧ Read s c found
  | .validated c walletAddress found =>
      s.db.merchants.lookup c.merchantId = some walletAddress ∧ Read s c found ∧
        Accepted sdk c found.challenge walletAddress found.authorization
  | .answered c row => Made s c row

theorem Made.grows {c : Call} {row : ChargeRequest} (h : Made s c row) (hgrows : s.Grows s') :
    Made s' c row := ⟨hgrows.created h.1, h.2⟩

theorem Read.grows {c : Call} {found : Found} (h : Read s c found) (hgrows : s.Grows s') :
    Read s' c found := by
  obtain ⟨a, hstored, hevolved⟩ := h.stored
  obtain ⟨a', hstored', hevolved'⟩ := hgrows.authorizations hstored
  exact ⟨⟨a', hstored', hevolved.trans hevolved'⟩, h.merchantId, hgrows.challenges h.challenge⟩

theorem Knows.grows {p : Phase} (h : Knows sdk s p) (hgrows : s.Grows s') : Knows sdk s' p := by
  cases p with
  | opening c => trivial
  | authenticated c walletAddress => exact hgrows.merchants h
  | found c walletAddress found => exact ⟨hgrows.merchants h.1, h.2.grows hgrows⟩
  | validated c walletAddress found =>
      exact ⟨hgrows.merchants h.1, h.2.1.grows hgrows, h.2.2⟩
  | answered c row => exact Made.grows h hgrows

/-! ## What is stored -/

variable (sdk encrypt)

structure Exact (s : Shared T) : Prop where
  issued : ∀ {id}, s.db.chargeAuthorizations.lookup id = none → s.challenges.lookup id = none
  keyed : ∀ {id a}, s.db.chargeAuthorizations.lookup id = some a → a.id = id
  pending : ∀ {id a}, s.db.chargeAuthorizations.lookup id = some a → a.status = .pending →
    ∀ {rid row}, s.db.created rid = some row → row.authorizationId ≠ some id
  completed : ∀ {rid row}, s.db.created rid = some row → row.id = rid ∧
    ∃ c a challenge walletAddress, CompletedBy sdk encrypt s row c a challenge walletAddress
  unique : ∀ {rid rid' row row'}, s.db.created rid = some row → s.db.created rid' = some row' →
    row.authorizationId = row'.authorizationId → rid = rid'

variable {sdk encrypt}

theorem Exact.completed_grows (h : Exact sdk encrypt s) (hgrows : s.Grows s') {rid : Uuid}
    {row : ChargeRequest} (hrow : s.db.created rid = some row) : row.id = rid ∧
      ∃ c a challenge walletAddress, CompletedBy sdk encrypt s' row c a challenge walletAddress := by
  obtain ⟨hid, c, a, challenge, walletAddress, hby⟩ := h.completed hrow
  obtain ⟨a', hby'⟩ := hby.grows hgrows
  exact ⟨hid, c, a', challenge, walletAddress, hby'⟩

/-- Nothing new is requested. -/
theorem Exact.frame (h : Exact sdk encrypt s) (hgrows : s.Grows s')
    (hcreated : ∀ id, s'.db.created id = s.db.created id)
    (hissued : ∀ {id}, s'.db.chargeAuthorizations.lookup id = none → s'.challenges.lookup id = none)
    (hauthorization : ∀ {id a'}, s'.db.chargeAuthorizations.lookup id = some a' →
      a'.id = id ∧ (a'.status = .pending →
        (∃ a, s.db.chargeAuthorizations.lookup id = some a ∧ a.status = .pending) ∨
          s.db.chargeAuthorizations.lookup id = none)) : Exact sdk encrypt s' where
  issued := hissued
  keyed ha' := (hauthorization ha').1
  pending := by
    intro id a' ha' hpending rid row hrow hrequest
    rw [hcreated] at hrow
    rcases (hauthorization ha').2 hpending with ⟨a, ha, hwas⟩ | hnone
    · exact h.pending ha hwas hrow hrequest
    · -- a request has an authorization that is stored
      obtain ⟨-, c, a, challenge, walletAddress, hby⟩ := h.completed hrow
      obtain rfl := Option.some.inj (hby.request.symm.trans hrequest)
      exact absurd (hby.stored.symm.trans hnone) (Option.some_ne_none a)
  completed hrow := by
    rw [hcreated] at hrow
    exact h.completed_grows hgrows hrow
  unique := by
    intro rid rid' row row' hrow hrow' hsame
    rw [hcreated] at hrow hrow'
    exact h.unique hrow hrow' hsame

/-! ## The transaction, and what it leaves behind -/

theorem requestOf_eq_some {db : Db} {id : Uuid} {row : ChargeRequest}
    (h : requestOf db id = some row) :
    (∃ rid, db.chargeRequests.lookup rid = some row) ∧ row.authorizationId = some id := by
  refine ⟨FinMap.mem_values.mp (List.mem_of_find?_eq_some h), ?_⟩
  have hfound := List.find?_some h
  exact of_decide_eq_true hfound

theorem markReady_eq_some {db db' : Db} {id merchantId : Uuid} {ciphertext : ℕ}
    (h : markReady db id merchantId ciphertext = some db') :
    ∃ stored, db.chargeAuthorizations.lookup id = some stored ∧ stored.merchantId = merchantId ∧
      stored.status = .pending ∧
      db' = { db with
        chargeAuthorizations := db.chargeAuthorizations.insert id (asReady stored ciphertext) } := by
  unfold markReady at h
  split at h
  · rename_i stored hstored
    split at h
    · rename_i hpending
      exact ⟨stored, hstored, hpending.1, hpending.2, (Option.some.inj h).symm⟩
    · cases h
  · cases h

theorem createChargeRequest_ok {now : Time} {db db' : Db} {id : Uuid} {a : ChargeAuthorization}
    {row : ChargeRequest} (h : createChargeRequest now db id a = .ok (row, db')) :
    db.chargeRequests.lookup id = none ∧ row = newChargeRequest now id a ∧
      db' = { db with chargeRequests := db.chargeRequests.insert id row } := by
  obtain ⟨_, hfresh, h⟩ := Tx.bind_ok.mp h
  obtain ⟨rfl, rfl⟩ := Prod.mk.inj (Except.ok.inj h)
  rw [Tx.rejectIf_ok, not_or] at hfresh
  exact ⟨by simpa using hfresh.1, rfl, rfl⟩

/-- A request that is found is one that was made for the authorization. -/
theorem made_of_requestOf (hexact : Exact sdk encrypt s) {c : Call} {row : ChargeRequest}
    (h : requestOf s.db c.id = some row) : Made s c row := by
  obtain ⟨⟨rid, hrow⟩, hrequest⟩ := requestOf_eq_some h
  have hcreated : s.db.created rid = some row.asCreated := by
    unfold Db.created
    rw [hrow]
    rfl
  have hid : row.id = rid := (hexact.completed hcreated).1
  exact ⟨hid ▸ hcreated, hrequest⟩

/-- The tables with the new request. -/
def withRequest (now : Time) (db : Db) (c : Call) (stored found : ChargeAuthorization)
    (ciphertext newId : ℕ) : Db :=
  { db with
    chargeAuthorizations := db.chargeAuthorizations.insert c.id (asReady stored ciphertext)
    chargeRequests := db.chargeRequests.insert newId (newChargeRequest now newId found) }

theorem grows_withRequest {now : Time} {c : Call} {stored found : ChargeAuthorization}
    {ciphertext newId : ℕ} (hstored : s.db.chargeAuthorizations.lookup c.id = some stored)
    (hpending : stored.status = .pending) (hfresh : s.db.chargeRequests.lookup newId = none) :
    s.Grows (s.setDb (withRequest now s.db c stored found ciphertext newId)) where
  merchants h := h
  challenges h := h
  calls h := h
  created := by
    intro id row hrow
    have hne : id ≠ newId := by
      rintro rfl
      rw [Db.created, hfresh] at hrow
      cases hrow
    show ((s.db.chargeRequests.insert newId _).lookup id).map _ = some row
    rw [FinMap.lookup_insert, if_neg hne]
    exact hrow
  authorizations := by
    intro id a ha
    show ∃ a', (s.db.chargeAuthorizations.insert c.id _).lookup id = some a' ∧ _
    rw [FinMap.lookup_insert]
    by_cases hid : id = c.id
    · subst hid
      obtain rfl := Option.some.inj (ha.symm.trans hstored)
      exact ⟨_, if_pos rfl, rfl, fun hused => absurd hpending hused⟩
    · exact ⟨a, by rw [if_neg hid, ha], .refl a⟩

/-- The request of an authorization that was pending. -/
theorem complete_new (hexact : Exact sdk encrypt s) {now : Time} {c : Call} {found : Found}
    {stored : ChargeAuthorization} {walletAddress : Address} {ciphertext iv newId : ℕ}
    (hcalled : ∃ i : ℕ, s.calls[i]? = some c)
    (hwallet : s.db.merchants.lookup c.merchantId = some walletAddress) (hread : Read s c found)
    (haccepted : Accepted sdk c found.challenge walletAddress found.authorization)
    (hencrypted : encrypt c.signedAuthorizationEntryXdr iv = some ciphertext)
    (hstored : s.db.chargeAuthorizations.lookup c.id = some stored)
    (hpending : stored.status = .pending) (hfresh : s.db.chargeRequests.lookup newId = none) :
    let s' := s.setDb (withRequest now s.db c stored found.authorization ciphertext newId)
    s.Grows s' ∧ Exact sdk encrypt s' ∧ Made s' c (newChargeRequest now newId found.authorization) := by
  intro s'
  obtain ⟨a, ha, hevolved⟩ := hread.stored
  obtain rfl := Option.some.inj (hstored.symm.trans ha)
  have hid : found.authorization.id = c.id := hevolved.columns.1.symm.trans (hexact.keyed hstored)
  have hgrows : s.Grows s' := grows_withRequest hstored hpending hfresh
  -- the requests now: the new one, and those before, none of which is for this authorization
  have hcreated : ∀ rid, s'.db.created rid = if rid = newId then
      some (newChargeRequest now newId found.authorization).asCreated else s.db.created rid :=
    Relayer.created_insert rfl
  have hrequest : (newChargeRequest now newId found.authorization).asCreated.authorizationId
      = some c.id := congrArg some hid
  have hold : ∀ {rid row}, s.db.created rid = some row → row.authorizationId ≠ some c.id :=
    fun hrow => hexact.pending hstored hpending hrow
  have hnow : s'.db.chargeAuthorizations.lookup c.id
      = some (asReady stored ciphertext) := by
    show (s.db.chargeAuthorizations.insert c.id _).lookup c.id = _
    rw [FinMap.lookup_insert, if_pos rfl]
  have hready : Evolved found.authorization (asReady stored ciphertext) :=
    hevolved.trans ⟨rfl, fun hused => absurd hpending hused⟩
  refine ⟨hgrows, ⟨?_, ?_, ?_, ?_, ?_⟩, ?_, hrequest⟩
  · -- issued
    intro id hnone
    change (s.db.chargeAuthorizations.insert c.id _).lookup id = none at hnone
    rw [FinMap.lookup_insert] at hnone
    split_ifs at hnone
    exact hexact.issued hnone
  · -- keyed
    intro id a' ha'
    change (s.db.chargeAuthorizations.insert c.id _).lookup id = some a' at ha'
    rw [FinMap.lookup_insert] at ha'
    split_ifs at ha' with h
    · obtain rfl := Option.some.inj ha'
      exact (hexact.keyed hstored).trans h.symm
    · exact hexact.keyed ha'
  · -- pending
    intro id a' ha' hpending' rid row hrow
    change (s.db.chargeAuthorizations.insert c.id _).lookup id = some a' at ha'
    rw [FinMap.lookup_insert] at ha'
    split_ifs at ha' with h
    · obtain rfl := Option.some.inj ha'
      cases hpending'
    · rw [hcreated] at hrow
      split_ifs at hrow
      · obtain rfl := Option.some.inj hrow
        rw [hrequest]
        exact fun heq => h (Option.some.inj heq).symm
      · exact hexact.pending ha' hpending' hrow
  · -- completed
    intro rid row hrow
    rw [hcreated] at hrow
    split_ifs at hrow with h
    · obtain rfl := Option.some.inj hrow
      refine ⟨h.symm, c, asReady stored ciphertext, found.challenge, walletAddress, ?_⟩
      exact
        { request := hrequest
          called := hcalled
          stored := hnow
          merchantId := hevolved.columns.2.1.trans hread.merchantId
          issued := hread.challenge
          wallet := hwallet
          used := ChargeAuthorizationStatus.noConfusion
          copies := Copies.evolved ⟨rfl, rfl, rfl, rfl, rfl⟩ hready
          accepted := hready.accepted haccepted
          entry := ⟨iv, ciphertext, hencrypted, rfl⟩ }
    · exact hexact.completed_grows hgrows hrow
  · -- unique
    intro rid rid' row row' hrow hrow' hsame
    rw [hcreated] at hrow hrow'
    split_ifs at hrow hrow' with h h' h'
    · exact h.trans h'.symm
    · obtain rfl := Option.some.inj hrow
      exact absurd (hsame.symm.trans hrequest) (hold hrow')
    · obtain rfl := Option.some.inj hrow'
      exact absurd (hsame.trans hrequest) (hold hrow)
    · exact hexact.unique hrow hrow' hsame
  · show s'.db.created newId = _
    rw [hcreated, if_pos rfl]

/-- **The transaction** makes the request of an authorization that is pending, or finds the one there is. -/
theorem complete_ok (hexact : Exact sdk encrypt s) {c : Call} {found : Found} {walletAddress : Address}
    {ciphertext iv newId : ℕ} {row : ChargeRequest} (hcalled : ∃ i : ℕ, s.calls[i]? = some c)
    (hwallet : s.db.merchants.lookup c.merchantId = some walletAddress) (hread : Read s c found)
    (haccepted : Accepted sdk c found.challenge walletAddress found.authorization)
    (hencrypted : encrypt c.signedAuthorizationEntryXdr iv = some ciphertext)
    (h : s.complete c.id c.merchantId found.authorization ciphertext newId = (.ok row, s')) :
    s.Grows s' ∧ Exact sdk encrypt s' ∧ Made s' c row := by
  unfold Shared.complete at h
  split at h
  swap
  · cases (Prod.mk.inj h).1
  rename_i row' db' htransaction
  obtain ⟨hrow, rfl⟩ := Prod.mk.inj h
  obtain rfl := Except.ok.inj hrow
  unfold completeTransaction at htransaction
  split at htransaction
  · rename_i db₁ hready
    obtain ⟨stored, hstored, hmerchant, hpending, rfl⟩ := markReady_eq_some hready
    obtain ⟨hfresh, rfl, rfl⟩ := createChargeRequest_ok htransaction
    exact complete_new hexact hcalled hwallet hread haccepted hencrypted hstored hpending hfresh
  · -- the update has no row, and there is a request already
    split at htransaction
    · rename_i existing hexisting
      obtain ⟨rfl, rfl⟩ := Prod.mk.inj (Except.ok.inj htransaction)
      exact ⟨.refl s, hexact, made_of_requestOf hexact hexisting⟩
    · cases htransaction

/-- However the effect of a call that has been accepted ends. -/
theorem complete_grows (hexact : Exact sdk encrypt s) {c : Call} {found : Found}
    {walletAddress : Address} {ciphertext iv newId : ℕ} (hcalled : ∃ i : ℕ, s.calls[i]? = some c)
    (hwallet : s.db.merchants.lookup c.merchantId = some walletAddress) (hread : Read s c found)
    (haccepted : Accepted sdk c found.challenge walletAddress found.authorization)
    (hencrypted : encrypt c.signedAuthorizationEntryXdr iv = some ciphertext) :
    s.Grows (s.complete c.id c.merchantId found.authorization ciphertext newId).2 ∧
      Exact sdk encrypt (s.complete c.id c.merchantId found.authorization ciphertext newId).2 := by
  cases hresult : s.complete c.id c.merchantId found.authorization ciphertext newId with
  | mk answer s' =>
      cases answer with
      | ok row =>
          obtain ⟨hgrows, hexact', -⟩ :=
            complete_ok hexact hcalled hwallet hread haccepted hencrypted hresult
          exact ⟨hgrows, hexact'⟩
      | error e =>
          have hsame : s' = s := by
            unfold Shared.complete at hresult
            split at hresult
            · cases (Prod.mk.inj hresult).1
            · exact (Prod.mk.inj hresult).2.symm
          rw [hsame]
          exact ⟨.refl s, hexact⟩

/-! ## What holds at all times -/

variable (sdk encrypt) in
structure Sound (s : Shared T) (phases : List Phase) : Prop where
  relayer : Workers.Tracked Relayer.Move (fun _ _ => True) s.relayer
  exact_ : Exact sdk encrypt s
  calls : phases.map Phase.call = s.calls
  knows : ∀ p ∈ phases, Knows sdk s p
  told : ∀ (i status : ℕ) (response : ChargeRequestResponse), s.replies.lookup i = some (.ok (status, response)) →
    ∃ c row, s.calls[i]? = some c ∧ Made s c row ∧ Shows response row

variable {phases : List Phase}

theorem Sound.told_grows (h : Sound sdk encrypt s phases) (hgrows : s.Grows s') {i status : ℕ}
    {response : ChargeRequestResponse} (hi : s.replies.lookup i = some (.ok (status, response))) :
    ∃ c row, s'.calls[i]? = some c ∧ Made s' c row ∧ Shows response row := by
  obtain ⟨c, row, hcall, hmade, hshows⟩ := h.told i status response hi
  exact ⟨c, row, hgrows.calls hcall, hmade.grows hgrows, hshows⟩

/-- The tables have changed, and no call has done it. -/
theorem Sound.outside (h : Sound sdk encrypt s phases) (hgrows : s.Grows s')
    (hrelayer : Workers.Tracked Relayer.Move (fun _ _ => True) s'.relayer)
    (hexact : Exact sdk encrypt s') (hcalls : s'.calls = s.calls)
    (hreplies : s'.replies = s.replies) : Sound sdk encrypt s' phases where
  relayer := hrelayer
  exact_ := hexact
  calls := h.calls.trans hcalls.symm
  knows p hp := (h.knows p hp).grows hgrows
  told _ _ _ hi := h.told_grows hgrows (hreplies ▸ hi)

/-- A call has made a step. -/
theorem Sound.set (h : Sound sdk encrypt s phases) (hgrows : s.Grows s')
    (hrelayer : Workers.Tracked Relayer.Move (fun _ _ => True) s'.relayer)
    (hexact : Exact sdk encrypt s') (hcalls : s'.calls = s.calls) {i : ℕ} {p p' : Phase}
    (hp : phases[i]? = some p) (hcall : p'.call = p.call) (hknows : Knows sdk s' p')
    (htold : ∀ j status response, s'.replies.lookup j = some (.ok (status, response)) →
      s.replies.lookup j = some (.ok (status, response)) ∨
        ∃ c row, s'.calls[j]? = some c ∧ Made s' c row ∧ Shows response row) :
    Sound sdk encrypt s' (phases.set i p') where
  relayer := hrelayer
  exact_ := hexact
  calls := by
    have hi := (List.getElem?_eq_some_iff.mp hp).1
    have hlen : i < (phases.map Phase.call).length := by rwa [List.length_map]
    have hsame : p'.call = (phases.map Phase.call)[i] := by
      rw [List.getElem_map, (List.getElem?_eq_some_iff.mp hp).2, hcall]
    rw [List.map_set, hsame, List.set_getElem_self, hcalls, h.calls]
  knows q hq := by
    rcases List.mem_or_eq_of_mem_set hq with hold | rfl
    · exact (h.knows q hold).grows hgrows
    · exact hknows
  told j status response hj := by
    rcases htold j status response hj with hold | hnew
    · exact h.told_grows hgrows hold
    · exact hnew

theorem tracked_setDb {sys : Relayer.System T} {f : Relayer.Shared T → Relayer.Shared T}
    (h : Workers.Tracked Relayer.Move (fun _ _ => True) sys) :
    Workers.Tracked Relayer.Move (fun _ _ => True) (sys.outside f) :=
  h.outside fun _ _ _ => trivial

theorem Sound.call_of (h : Sound sdk encrypt s phases) {i : ℕ} {p : Phase} (hp : phases[i]? = some p) :
    s.calls[i]? = some p.call := by
  rw [← h.calls, List.getElem?_map, hp]
  rfl

/-- An effect that is no transaction, and tells the caller nothing, changes nothing. -/
theorem perform_same (worker : ℕ) (outcome : Outcome) {e : Effect} (s : Shared T)
    (hcomplete : ∀ id merchantId a ciphertext, e ≠ .complete id merchantId a ciphertext)
    (hreply : ∀ result, e ≠ .reply result) : (perform worker outcome e s).2 = s := by
  cases e with
  | complete id merchantId a ciphertext => exact absurd rfl (hcomplete id merchantId a ciphertext)
  | reply result => exact absurd rfl (hreply result)
  | randomBytes => rfl
  | requireMerchant merchantId => cases outcome <;> rfl
  | findAuthorization id merchantId => cases outcome <;> rfl
  | getLatestLedgerSequence => cases outcome <;> rfl
  | assetDecimals merchantId mandateId => cases outcome <;> rfl

theorem perform_merchant {worker : ℕ} {outcome : Outcome} {merchantId : Uuid} {walletAddress : Address}
    (h : (perform worker outcome (.requireMerchant merchantId) s).1 = .ok walletAddress) :
    s.db.merchants.lookup merchantId = some walletAddress := by
  cases outcome with
  | served random latestLedger decimals =>
      change (s.db.merchants.lookup merchantId).elim (Except.error RouteError.unexpected) Except.ok = _ at h
      cases hwallet : s.db.merchants.lookup merchantId with
      | none => rw [hwallet] at h; cases h
      | some wallet => rw [hwallet] at h; exact congrArg some (Except.ok.inj h)
  | refused e => cases h
  | unanswered random => cases h

theorem perform_found {worker : ℕ} {outcome : Outcome} {c : Call} {found : Found}
    (h : (perform worker outcome (.findAuthorization c.id c.merchantId) s).1 = some (some found)) :
    Read s c found ∧ found.chargeRequest = requestOf s.db c.id := by
  cases outcome with
  | served random latestLedger decimals =>
      replace h : s.findAuthorization c.id c.merchantId = some found := Option.some.inj h
      unfold Shared.findAuthorization at h
      split at h
      · rename_i authorization challenge hstored hissued
        split_ifs at h with hmerchant
        obtain rfl := Option.some.inj h
        exact ⟨⟨⟨authorization, hstored, .refl authorization⟩, hmerchant, hissued⟩, rfl⟩
      · cases h
  | refused e => cases h
  | unanswered random => cases h

/-- The transaction touches the tables only. -/
theorem complete_frame (s : Shared T) (id merchantId : Uuid) (a : ChargeAuthorization)
    (ciphertext newId : ℕ) :
    (s.complete id merchantId a ciphertext newId).2.calls = s.calls ∧
      (s.complete id merchantId a ciphertext newId).2.replies = s.replies ∧
      (Workers.Tracked Relayer.Move (fun _ _ => True) s.relayer →
        Workers.Tracked Relayer.Move (fun _ _ => True)
          (s.complete id merchantId a ciphertext newId).2.relayer) := by
  unfold Shared.complete
  split
  · exact ⟨rfl, rfl, tracked_setDb⟩
  · exact ⟨rfl, rfl, fun h => h⟩

theorem Sound.complete_grows (h : Sound sdk encrypt s phases) {c : Call} {found : Found}
    {walletAddress : Address} {ciphertext iv newId : ℕ} {i : ℕ}
    (hp : phases[i]? = some (.validated c walletAddress found))
    (hencrypted : encrypt c.signedAuthorizationEntryXdr iv = some ciphertext) :
    s.Grows (s.complete c.id c.merchantId found.authorization ciphertext newId).2 := by
  obtain ⟨hwallet, hread, haccepted⟩ := h.knows _ (List.mem_of_getElem? hp)
  exact (Completing.complete_grows h.exact_ ⟨i, h.call_of hp⟩ hwallet hread haccepted hencrypted).1

/-- A call makes its transaction, and is told what comes of it or not. -/
theorem Sound.completing (h : Sound sdk encrypt s phases) {c : Call} {found : Found}
    {walletAddress : Address} {ciphertext iv newId : ℕ} {i : ℕ} {p' : Phase}
    (hp : phases[i]? = some (.validated c walletAddress found))
    (hencrypted : encrypt c.signedAuthorizationEntryXdr iv = some ciphertext) (hcall : p'.call = c)
    (hknows : Knows sdk (s.complete c.id c.merchantId found.authorization ciphertext newId).2 p') :
    Sound sdk encrypt (s.complete c.id c.merchantId found.authorization ciphertext newId).2
      (phases.set i p') := by
  obtain ⟨hwallet, hread, haccepted⟩ := h.knows _ (List.mem_of_getElem? hp)
  have hcalled : ∃ j : ℕ, s.calls[j]? = some c := ⟨i, h.call_of hp⟩
  obtain ⟨hgrows, hexact⟩ :=
    Completing.complete_grows h.exact_ hcalled hwallet hread haccepted hencrypted
  obtain ⟨hcalls, hreplies, hrelayer⟩ :=
    complete_frame s c.id c.merchantId found.authorization ciphertext newId
  refine h.set hgrows (hrelayer h.relayer) hexact hcalls hp hcall hknows fun j status response hj => ?_
  rw [hreplies] at hj
  exact .inl hj

/-- The caller of a call is told something. -/
theorem Sound.reply (h : Sound sdk encrypt s phases) {i : ℕ} {p : Phase} (hp : phases[i]? = some p)
    (result : Except RouteError (ℕ × ChargeRequestResponse))
    (hresult : ∀ status response, result = .ok (status, response) →
      ∃ row, Made s p.call row ∧ Shows response row) :
    Sound sdk encrypt { s with replies := s.replies.insert i result } (phases.set i p) := by
  have hgrows : s.Grows { s with replies := s.replies.insert i result } :=
    ⟨fun h => h, fun {_ a} h => ⟨a, h, .refl a⟩, fun h => h, fun h => h, fun h => h⟩
  have hexact : Exact sdk encrypt { s with replies := s.replies.insert i result } :=
    h.exact_.frame hgrows (fun _ => rfl) h.exact_.issued fun ha =>
      ⟨h.exact_.keyed ha, fun hpending => .inl ⟨_, ha, hpending⟩⟩
  refine h.set hgrows h.relayer hexact rfl hp rfl ?_ fun j status response hj => ?_
  · exact (h.knows p (List.mem_of_getElem? hp)).grows hgrows
  · change (s.replies.insert i result).lookup j = _ at hj
    rw [FinMap.lookup_insert] at hj
    split_ifs at hj with hji
    · obtain ⟨row, hmade, hshows⟩ := hresult status response (Option.some.inj hj)
      exact .inr ⟨p.call, row, by rw [hji]; exact h.call_of hp, hmade, hshows⟩
    · exact .inl hj

/-- **A call's step.** -/
theorem sound_perform {worker : ℕ} {outcome : Outcome} {p p' : Phase} {e : Effect}
    (h : Sound sdk encrypt s phases) (hp : phases[worker]? = some p)
    (hmove : Move sdk encrypt p e (perform worker outcome e s).1 p') :
    Sound sdk encrypt (perform worker outcome e s).2 (phases.set worker p') := by
  have hknows := h.knows p (List.mem_of_getElem? hp)
  -- a step that leaves the state as it is
  have hidle : ∀ {q : Phase}, (perform worker outcome e s).2 = s → q.call = p.call → Knows sdk s q →
      Sound sdk encrypt (perform worker outcome e s).2 (phases.set worker q) := by
    intro q hsame hcall hq
    rw [hsame]
    exact h.set (.refl s) h.relayer h.exact_ rfl hp hcall hq fun j status response hj => .inl hj
  have hsame := perform_same worker outcome (e := e) s
  generalize hanswer : (perform worker outcome e s).1 = answer at hmove
  cases hmove with
  | refused c e => exact hidle (hsame (by simp) (by simp)) rfl trivial
  | authenticated c walletAddress =>
      exact hidle (hsame (by simp) (by simp)) rfl (perform_merchant hanswer)
  | find c walletAddress => exact hidle (hsame (by simp) (by simp)) rfl hknows
  | found c walletAddress found =>
      exact hidle (hsame (by simp) (by simp)) rfl ⟨hknows, (perform_found hanswer).1⟩
  | existing c walletAddress found row hrow =>
      have hrequest := (perform_found hanswer).2.symm.trans hrow
      exact hidle (hsame (by simp) (by simp)) rfl (made_of_requestOf h.exact_ hrequest)
  | latestLedger => exact hidle (hsame (by simp) (by simp)) rfl hknows
  | validate c walletAddress found answer haccepted =>
      exact hidle (hsame (by simp) (by simp)) rfl ⟨hknows.1, hknows.2, haccepted⟩
  | random => exact hidle (hsame (by simp) (by simp)) rfl hknows
  | decimals => exact hidle (hsame (by simp) (by simp)) rfl hknows
  | failed c walletAddress found ciphertext iv hencrypted e =>
      cases outcome with
      | served random latestLedger decimals =>
          exact h.completing hp hencrypted rfl
            (hknows.grows (h.complete_grows hp hencrypted))
      | unanswered random =>
          exact h.completing hp hencrypted rfl
            (hknows.grows (h.complete_grows hp hencrypted))
      | refused e' => exact hidle rfl rfl hknows
  | complete c walletAddress found ciphertext iv hencrypted row =>
      cases outcome with
      | served random latestLedger decimals =>
          refine h.completing hp hencrypted rfl ?_
          obtain ⟨hwallet, hread, haccepted⟩ := hknows
          exact (complete_ok h.exact_ ⟨worker, h.call_of hp⟩ hwallet hread haccepted hencrypted
            (Prod.ext hanswer rfl)).2.2
      | refused e' => cases hanswer
      | unanswered random => cases hanswer
  | refuse p e => exact h.reply hp (.error e) fun _ _ hok => by cases hok
  | accept c row status response hshows =>
      refine h.reply hp (.ok (status, response)) fun status' response' hok => ?_
      obtain ⟨rfl, rfl⟩ := Prod.mk.inj (Except.ok.inj hok)
      exact ⟨row, hknows, hshows⟩

/-! ## Whatever else happens -/

theorem Sound.later (h : Sound sdk encrypt s phases) {relayer : Relayer.System T}
    (htracked : Workers.Tracked Relayer.Move (fun _ _ => True) relayer)
    (hlater : s.db.Later relayer.shared.db) :
    Sound sdk encrypt { s with relayer := relayer } phases := by
  have hgrows : s.Grows { s with relayer := relayer } :=
    { merchants := fun {id walletAddress} hwallet => by
        show relayer.shared.db.merchants.lookup id = some walletAddress
        rw [hlater.merchants, hwallet]
      authorizations := fun ha => by
        obtain ⟨a', ha', hmarked⟩ := hlater.present ha
        exact ⟨a', ha', .of_later hmarked⟩
      challenges := fun h => h
      created := fun hrow => (hlater.created _).trans hrow
      calls := fun h => h }
  refine h.outside hgrows htracked (h.exact_.frame hgrows hlater.created ?_ ?_) rfl rfl
  · intro id hnone
    refine h.exact_.issued ?_
    cases ha : s.db.chargeAuthorizations.lookup id with
    | none => rfl
    | some a =>
        obtain ⟨a', ha', -⟩ := hlater.present ha
        exact absurd (ha'.symm.trans hnone) (Option.some_ne_none a')
  · intro id a' ha'
    obtain ⟨a, ha, hmarked⟩ := hlater.before ha'
    have hid : a'.id = a.id := (Evolved.of_later hmarked).columns.1
    exact ⟨hid.trans (h.exact_.keyed ha), fun hpending => .inl ⟨a, ha, hmarked.pending hpending⟩⟩

theorem Sound.createMerchant (h : Sound sdk encrypt s phases) {id : Uuid} {walletAddress : Address}
    (hnew : s.db.merchants.lookup id = none) :
    Sound sdk encrypt (s.setDb { s.db with merchants := s.db.merchants.insert id walletAddress })
      phases := by
  have hgrows :
      s.Grows (s.setDb { s.db with merchants := s.db.merchants.insert id walletAddress }) :=
    { merchants := fun {id' wallet} hwallet => by
        have hne : id' ≠ id := by
          rintro rfl
          rw [hnew] at hwallet
          cases hwallet
        show (s.db.merchants.insert id walletAddress).lookup id' = some wallet
        rw [FinMap.lookup_insert, if_neg hne, hwallet]
      authorizations := fun {_ a} ha => ⟨a, ha, .refl a⟩
      challenges := fun h => h
      created := fun hrow => hrow
      calls := fun h => h }
  exact h.outside hgrows (tracked_setDb h.relayer)
    (h.exact_.frame hgrows (fun _ => rfl) h.exact_.issued fun ha =>
      ⟨h.exact_.keyed ha, fun hpending => .inl ⟨_, ha, hpending⟩⟩) rfl rfl

/-- A new authorization is pending. -/
theorem createChargeAuthorization_ok {db db' : Db} {authorization : ChargeAuthorization}
    (h : Relayer.createChargeAuthorization db authorization = .ok db') :
    db.chargeAuthorizations.lookup authorization.id = none ∧
      ∃ a : ChargeAuthorization, a.id = authorization.id ∧ db' = { db with
        chargeAuthorizations := db.chargeAuthorizations.insert authorization.id a } := by
  obtain ⟨_, hfresh, h⟩ := Tx.bind_ok.mp h
  rw [Tx.rejectIf_ok, not_or] at hfresh
  refine ⟨by simpa using hfresh.1,
    { authorization with status := .pending, signedEntryCiphertext := none, consumedAt := none }, rfl, ?_⟩
  exact (Except.ok.inj h).symm

theorem Sound.issue (h : Sound sdk encrypt s phases) {id : Uuid} {a : ChargeAuthorization}
    {challenge : Challenge} (hnew : s.db.chargeAuthorizations.lookup id = none) (hid : a.id = id) :
    Sound sdk encrypt
      { s.setDb { s.db with chargeAuthorizations := s.db.chargeAuthorizations.insert id a } with
        challenges := s.challenges.insert id challenge } phases := by
  have hlookup : ∀ {id' a'}, (s.db.chargeAuthorizations.insert id a).lookup id' = some a' →
      (id' = id ∧ a' = a) ∨ s.db.chargeAuthorizations.lookup id' = some a' := by
    intro id' a' ha'
    rw [FinMap.lookup_insert] at ha'
    split_ifs at ha' with hsame
    · exact .inl ⟨hsame, (Option.some.inj ha').symm⟩
    · exact .inr ha'
  have hgrows : s.Grows
      { s.setDb { s.db with chargeAuthorizations := s.db.chargeAuthorizations.insert id a } with
        challenges := s.challenges.insert id challenge } :=
    { merchants := fun h => h
      authorizations := fun {id' a'} ha' => by
        have hne : id' ≠ id := by
          rintro rfl
          rw [hnew] at ha'
          cases ha'
        refine ⟨a', ?_, .refl a'⟩
        show (s.db.chargeAuthorizations.insert id a).lookup id' = some a'
        rw [FinMap.lookup_insert, if_neg hne, ha']
      challenges := fun {id' challenge'} hissued => by
        have hne : id' ≠ id := by
          rintro rfl
          rw [h.exact_.issued hnew] at hissued
          cases hissued
        show (s.challenges.insert id challenge).lookup id' = some challenge'
        rw [FinMap.lookup_insert, if_neg hne, hissued]
      created := fun hrow => hrow
      calls := fun h => h }
  refine h.outside hgrows (tracked_setDb h.relayer) (h.exact_.frame hgrows (fun _ => rfl) ?_ ?_) rfl rfl
  · intro id' hnone
    change (s.db.chargeAuthorizations.insert id a).lookup id' = none at hnone
    show (s.challenges.insert id challenge).lookup id' = none
    rw [FinMap.lookup_insert] at hnone ⊢
    split_ifs at hnone ⊢
    exact h.exact_.issued hnone
  · intro id' a' ha'
    rcases hlookup ha' with ⟨rfl, rfl⟩ | hold
    · exact ⟨hid, fun _ => .inr hnew⟩
    · exact ⟨h.exact_.keyed hold, fun hpending => .inl ⟨a', hold, hpending⟩⟩

/-- A call is made. -/
theorem Sound.call (h : Sound sdk encrypt s phases) (c : Call) :
    Sound sdk encrypt { s with calls := s.calls ++ [c] } (phases ++ [.opening c]) := by
  have hgrows : s.Grows { s with calls := s.calls ++ [c] } :=
    { merchants := fun h => h
      authorizations := fun {_ a} ha => ⟨a, ha, .refl a⟩
      challenges := fun h => h
      created := fun hrow => hrow
      calls := fun hi => (List.getElem?_append_left (List.getElem?_eq_some_iff.mp hi).1).trans hi }
  have hexact : Exact sdk encrypt { s with calls := s.calls ++ [c] } :=
    h.exact_.frame hgrows (fun _ => rfl) h.exact_.issued fun ha =>
      ⟨h.exact_.keyed ha, fun hpending => .inl ⟨_, ha, hpending⟩⟩
  refine ⟨h.relayer, hexact, ?_, fun p hp => ?_, fun i status response hi => h.told_grows hgrows hi⟩
  · rw [List.map_append, h.calls]
    rfl
  · rcases List.mem_append.mp hp with hold | hnew
    · exact (h.knows p hold).grows hgrows
    · obtain rfl := List.mem_singleton.mp hnew
      trivial

theorem sound_outsideEffect (host : Host T) (deps : PipelineDeps) {action : Action T}
    (h : Sound sdk encrypt s phases) (hcall : ∀ c, action ≠ .call c) :
    Sound sdk encrypt (outsideEffect host deps action s) phases := by
  cases action with
  | call c => exact absurd rfl (hcall c)
  | work worker outcome => exact h
  | relayer action =>
      simp only [outsideEffect]
      split_ifs with hroute
      · exact h
      · obtain ⟨htracked, hlater⟩ :=
          Relayer.later_exec host deps h.relayer (Bool.eq_false_iff.mpr hroute)
        exact h.later htracked hlater
  | createMerchant id walletAddress =>
      simp only [outsideEffect]
      split_ifs with hnew
      · exact h.createMerchant (Option.isNone_iff_eq_none.mp hnew)
      · exact h
  | issue authorization challenge =>
      simp only [outsideEffect]
      split
      · rename_i db hdb
        obtain ⟨hnew, a, hid, rfl⟩ := createChargeAuthorization_ok hdb
        exact h.issue hnew hid
      · exact h

/-- **What one action preserves.** -/
theorem sound_exec (host : Host T) (deps : PipelineDeps) {sys : System T} (action : Action T)
    (h : Workers.Tracked (Move sdk encrypt) (Sound sdk encrypt) sys) :
    Workers.Tracked (Move sdk encrypt) (Sound sdk encrypt) (exec host deps sdk encrypt sys action) := by
  cases action with
  | call c =>
      obtain ⟨phases, hin, hsound⟩ := h
      have hbefore : Workers.Tracked (Move sdk encrypt) (fun shared phases' =>
            shared = { sys.shared with calls := sys.shared.calls ++ [c] } ∧ phases' = phases)
          (sys.outside (outsideEffect host deps (.call c))) := ⟨phases, hin, rfl, rfl⟩
      refine hbefore.start_to (follows_serve c) fun phases' hsame => ?_
      rw [hsame.1, hsame.2]
      exact hsound.call c
  | work worker outcome =>
      exact h.work fun phases p e k p' hsound hp hw hmove => sound_perform hsound hp hmove
  | _ =>
      refine h.outside fun phases hin hsound => sound_outsideEffect host deps hsound fun c hc => ?_
      cases hc

theorem sound_initial (t₀ : U64) (tok₀ : T) :
    Workers.Tracked (Move sdk encrypt) (Sound sdk encrypt) (initial t₀ tok₀) := by
  refine ⟨[], ⟨rfl, fun h => ?_⟩, ?_⟩
  · cases h
  · exact
      { relayer := ⟨[], ⟨rfl, fun h => by cases h⟩, trivial⟩
        exact_ :=
          { issued := fun _ => rfl
            keyed := fun h => by cases h
            pending := fun h => by cases h
            completed := fun h => by cases h
            unique := fun h => by cases h }
        calls := rfl
        knows := fun p hp => by cases hp
        told := fun i status response h => by cases h }

theorem sound_run (host : Host T) (deps : PipelineDeps) (sdk : Sdk) (encrypt : String → ℕ → Option ℕ)
    (t₀ : U64) (tok₀ : T) (actions : List (Action T)) :
    ∃ phases, Sound sdk encrypt (run host deps sdk encrypt (initial t₀ tok₀) actions).shared phases := by
  obtain ⟨phases, -, hsound⟩ := Runs.run_invariant
    (fun sys action h => sound_exec host deps action h) (sound_initial t₀ tok₀) actions
  exact ⟨phases, hsound⟩

/-! ## One request for one authorization -/

theorem created_of_lookup {db : Db} {id : Uuid} {row : ChargeRequest}
    (h : db.chargeRequests.lookup id = some row) : db.created id = some row.asCreated := by
  unfold Db.created
  rw [h]
  rfl

theorem lookup_of_created {db : Db} {id : Uuid} {row : ChargeRequest}
    (h : db.created id = some row.asCreated) :
    ∃ stored, db.chargeRequests.lookup id = some stored ∧ stored.asCreated = row.asCreated :=
  Option.map_eq_some_iff.mp h

/-- A response shows a request however far that has come. -/
theorem Shows.of_asCreated {response : ChargeRequestResponse} {row row' : ChargeRequest}
    (h : Shows response row) (hsame : row'.asCreated = row.asCreated) :
    Shows response row' ∧ row'.authorizationId = row.authorizationId := by
  simp only [ChargeRequest.asCreated, ChargeRequest.mk.injEq] at hsame
  obtain ⟨hid, -, hmandate, hcharge, hamount, hinvoice, hscheduled, -, -, -, -, -, hauthorization, -⟩ :=
    hsame
  obtain ⟨decimals, hdecimals⟩ := h.amount
  exact ⟨⟨h.id.trans hid.symm, h.mandateId.trans hmandate.symm, h.chargeId.trans hcharge.symm,
    ⟨decimals, hamount ▸ hdecimals⟩, h.invoiceHash.trans hinvoice.symm,
    h.scheduledFor.trans hscheduled.symm⟩, hauthorization⟩

/-- **An authorization is completed once, and exactly**, however calls and the relayer are interleaved:

* it has at most one request;
* each request is for an authorization, of which it has what is charged and when; a call of the merchant
  made it with an entry that was accepted, and that entry covers this charge and authorizes no other;
* a call that succeeds shows the request of its authorization. -/
theorem completed_exactly (host : Host T) (deps : PipelineDeps) (hdoc : sdk.Documented)
    {signed : Address → List UInt8 → Prop} (hunforgeable : sdk.Unforgeable signed)
    (encrypt : String → ℕ → Option ℕ) (t₀ : U64) (tok₀ : T) (actions : List (Action T)) :
    let s := (run host deps sdk encrypt (initial t₀ tok₀) actions).shared
    (∀ rid rid' row row', s.db.chargeRequests.lookup rid = some row →
      s.db.chargeRequests.lookup rid' = some row' → row.authorizationId = row'.authorizationId →
      rid = rid') ∧
    (∀ rid row, s.db.chargeRequests.lookup rid = some row →
      ∃ (c : Call) (a : ChargeAuthorization) (challenge : Challenge) (walletAddress : Address)
        (entry : Stellar.SorobanAuthorizationEntry),
        row.authorizationId = some c.id ∧ c ∈ s.calls ∧
        s.db.chargeAuthorizations.lookup c.id = some a ∧ a.merchantId = c.merchantId ∧
        s.challenges.lookup c.id = some challenge ∧
        s.db.merchants.lookup c.merchantId = some walletAddress ∧ Copies row a ∧
        Accepted sdk c challenge walletAddress a ∧
        sdk.fromXDR (sdk.bufferFrom c.signedAuthorizationEntryXdr) = .ok entry ∧
        Covers sdk signed (challengeContext challenge walletAddress) (authorizedArgs a)
          a.signatureExpirationLedger entry ∧
        ∀ contractId mandateId chargeId amount invoiceHash,
          Stellar.chargeCall contractId mandateId chargeId amount invoiceHash
            ∈ entry.rootInvocation.calls →
          contractId = challenge.contractId ∧ mandateId = row.mandateId ∧ chargeId = row.chargeId ∧
            amount.val = row.amount ∧ invoiceHash = row.invoiceHash) ∧
    (∀ (i : ℕ) c status response, s.calls[i]? = some c →
      s.replies.lookup i = some (.ok (status, response)) →
      ∃ row, s.db.chargeRequests.lookup response.id = some row ∧
        row.authorizationId = some c.id ∧ Shows response row) := by
  intro s
  obtain ⟨phases, hsound⟩ := sound_run host deps sdk encrypt t₀ tok₀ actions
  refine ⟨fun rid rid' row row' hrow hrow' hsame => ?_, fun rid row hrow => ?_,
    fun i c status response hcall hreply => ?_⟩
  · exact hsound.exact_.unique (created_of_lookup hrow) (created_of_lookup hrow') hsame
  · obtain ⟨-, c, a, challenge, walletAddress, hby⟩ := hsound.exact_.completed (created_of_lookup hrow)
    obtain ⟨i, hcall⟩ := hby.called
    obtain ⟨latestLedger, expiration, hvalid⟩ := hby.accepted
    obtain ⟨entry, hentry, hcovers⟩ := Stellar.covers_of_validate hdoc hunforgeable hvalid
    have hcopies : Copies row a := ⟨hby.copies.mandateId, hby.copies.chargeId, hby.copies.amount,
      hby.copies.invoiceHash, hby.copies.scheduledFor⟩
    refine ⟨c, a, challenge, walletAddress, entry, hby.request, List.mem_of_getElem? hcall, hby.stored,
      hby.merchantId, hby.issued, hby.wallet, hcopies, hby.accepted, hentry, hcovers, ?_⟩
    intro contractId mandateId chargeId amount invoiceHash hmem
    obtain ⟨hcontract, hmandate, hcharge, hamount, hinvoice⟩ := hcovers.only hmem
    exact ⟨hcontract, hmandate.trans hcopies.mandateId.symm, hcharge.trans hcopies.chargeId.symm,
      hamount.trans hcopies.amount.symm, hinvoice.trans hcopies.invoiceHash.symm⟩
  · obtain ⟨c', row, hcall', ⟨hcreated, hrequest⟩, hshows⟩ := hsound.told i status response hreply
    obtain rfl := Option.some.inj (hcall.symm.trans hcall')
    obtain ⟨stored, hstored, hsame⟩ := lookup_of_created hcreated
    obtain ⟨hshows', hauthorization⟩ := hshows.of_asCreated hsame
    exact ⟨stored, hshows.id ▸ hstored, hauthorization.trans hrequest, hshows'⟩

end

section

open Registry (MockToken mockFunds mockHost mockId)

def mockAuthorization : ChargeAuthorization where
  id := 1
  merchantId := 1
  mandateId := mockId
  chargeId := ⟨1⟩
  amount := 5
  invoiceHash := ⟨6⟩
  scheduledFor := 0
  signedEntryCiphertext := none
  signatureExpirationLedger := 1000
  status := .pending
  consumedAt := none

def mockCall : Call := ⟨1, 1, "signed"⟩

/-- Two calls, of which the second makes the request. -/
def completingTwice : List (Action MockToken) :=
  [.createMerchant 1 ⟨2⟩, .issue mockAuthorization ⟨⟨4⟩, "Test SDF Network"⟩, .call mockCall,
    .call mockCall] ++
  ([0, 0, 0, 0, 1, 1, 1, 1, 1, 1, 1, 0, 0, 0].map fun worker => .work worker (.served worker 999 (.ok 0)))

def completedTwice : Shared MockToken :=
  (run mockHost Relayer.mockDeps Stellar.mockSdk (fun _ iv => some iv) (initial 0 mockFunds)
    completingTwice).shared

/-- Both calls are told of the one request. -/
theorem completed_exactly_twice :
    (∃ response, completedTwice.replies.lookup 0 = some (.ok (201, response)) ∧
      completedTwice.replies.lookup 1 = some (.ok (201, response))) ∧
    ∀ rid rid' row row', completedTwice.db.chargeRequests.lookup rid = some row →
      completedTwice.db.chargeRequests.lookup rid' = some row' →
      row.authorizationId = row'.authorizationId → rid = rid' :=
  ⟨⟨_, rfl, rfl⟩, (completed_exactly mockHost Relayer.mockDeps Stellar.mockSdk_documented
    Stellar.mockSdk_unforgeable (fun _ iv => some iv) 0 mockFunds completingTwice).1⟩

end

end Paymap.Api.Completing
