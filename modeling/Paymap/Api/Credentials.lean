import Paymap.Api.ApiKeys
import Paymap.Api.MerchantSessions
import Paymap.Lib.Js
import Paymap.Lib.Views

set_option autoImplicit false

/-! # Sessions and API keys beside each other

`createAuthPreHandler` (`apps/api/src/auth/plugin.ts`) takes a session or an API key, and a key must have
the scopes of the route. Keys are made and revoked in such routes (`routes/merchants.ts`): a request makes
a key with any scopes it asks for, replaces the key it was authenticated with, or revokes another one.
A session is taken for any route.

A request is a program over the effects on the sessions (`MerchantSessions`, on the left) and on the keys
(on the right), and all requests to the API that have to do with credentials are interleaved at them. What
a request does to the sessions is a request of `MerchantSessions` (`seen_serve`).
-/

namespace Paymap.Api.Credentials

open Relayer (Time Uuid)
open ApiKeys (ApiKey GeneratedApiKey RotatedApiKey)
open Tx (rejectIf)

/-! ## Scopes -/

/-- `API_KEY_SCOPES`. -/
def apiKeyScopes : List String :=
  ["products:read", "products:write", "checkout_sessions:read", "checkout_sessions:write",
    "mandates:read", "charges:read", "charges:write", "payments:read", "refunds:read",
    "refunds:write", "webhooks:read", "webhooks:write", "api_keys:manage"]

def assertValidScopes (scopes : List String) : Except RouteError Unit :=
  let invalid := scopes.filter fun scope => !apiKeyScopes.contains scope
  rejectIf (0 < invalid.length)
    (.api 403 "INVALID_API_KEY_SCOPE"
      ("Unsupported API key scope: " ++ String.intercalate ", " invalid ++ "."))

structure CreateScopedApiKeyInput where
  name : String
  scopes : List String
deriving DecidableEq

/-- `z.enum(API_KEY_SCOPES)`. -/
def zScope : Parse String := fun field =>
  (zString field).filter fun scope => apiKeyScopes.contains scope

/-- `CreateApiKeySchema`, the scopes being an array or not. -/
def createApiKeySchema (name : Option Json) (scopes : Option (List Json)) :
    Option CreateScopedApiKeyInput := do
  let name ← zString name
  let name := String.ofList (Js.trim name.toList)
  let name ← zText 1 100 (some (.string name))
  let scopes ← scopes
  let scopes ← scopes.mapM fun scope => zScope (some scope)
  if 1 ≤ scopes.length ∧ scopes.length ≤ apiKeyScopes.length then return ⟨name, scopes⟩ else none

/-! ## Effects -/

/-- What a request was authenticated with. -/
inductive Credential where
  | apiKey (id : Uuid)
  | session (id : Uuid)
deriving DecidableEq

/-- `merchantContext`. -/
structure Context where
  merchantId : Uuid
  credential : Credential
deriving DecidableEq

inductive Response where
  /-- The handler of some other route has answered. -/
  | handled
  | created (apiKeyId : Uuid) (name : String) (scopes : List String) (apiKey : String)
  | rotated (rotated : RotatedApiKey)
  | revoked (apiKeyId : Uuid)
deriving DecidableEq

/-- The effects besides those on sessions. -/
inductive KeyEffect where
  /-- Of authentication by a key, and of rotation. -/
  | key (e : ApiKeys.Effect)
  /-- The handler of the route is entered. -/
  | enter (context : Context)
  /-- The `INSERT` of a key for the one who asks for it. -/
  | insertKey (issuer : Credential) (id : Uuid) (key : ApiKey)
  /-- The update of a key of the merchant that is active; the answer is the number of rows. -/
  | revokeActive (id merchantId : Uuid) (revokedAt : Time)
  /-- The caller is told the result. -/
  | tell (result : Except RouteError Response)

/-- What an effect is answered with; `none` is an exception of the database. -/
abbrev KeyAnswer : KeyEffect → Type
  | .key e => ApiKeys.Answer e
  | .enter _ => Unit
  | .insertKey _ _ _ => Option Unit
  | .revokeActive _ _ _ => Option ℕ
  | .tell _ => Unit

abbrev Effect := MerchantSessions.Effect ⊕ KeyEffect

abbrev Answer : Effect → Type := Sum.elim MerchantSessions.Answer KeyAnswer

/-- A program over the effects besides those on sessions. -/
abbrev KeyJob (α : Type) := Prog KeyEffect KeyAnswer RouteError α

abbrev Job (α : Type) := Prog Effect Answer RouteError α

def KeyEffect.run (e : KeyEffect) : KeyJob (KeyAnswer e) := .perform e

/-- A program on the keys. -/
def onKeys {α : Type} (x : ApiKeys.Job α) : KeyJob α := x.through KeyEffect.key fun _ a => a

/-- The answer of the database, or the error that nobody expects. -/
def orUnexpected {α : Type} : Option α → KeyJob α
  | some a => .ret a
  | none => .raise .unexpected

/-- A check of the code, as a program. -/
def orThrow {α : Type} : Except RouteError α → KeyJob α
  | .ok a => .ret a
  | .error e => .raise e

/-! ## The routes of keys -/

/-- `requireApiKeyCredential`. -/
def requireApiKeyCredential (context : Context) : Except RouteError Uuid :=
  match context.credential with
  | .apiKey id => .ok id
  | .session _ =>
      .error (.api 403 "API_KEY_CREDENTIAL_REQUIRED" "This operation requires an API key credential.")

/-- `POST /merchants/me/api-keys/rotate`. -/
def rotate (hash : String → String) (generated : GeneratedApiKey) (context : Context) :
    KeyJob Response := do
  let apiKeyId ← orThrow (requireApiKeyCredential context)
  let rotated ← onKeys (ApiKeys.rotateApiKey hash context.merchantId apiKeyId generated)
  return .rotated rotated

/-- The row of a key that is made with these scopes. -/
def scopedApiKey (hash : String → String) (merchantId : Uuid) (input : CreateScopedApiKeyInput)
    (generated : GeneratedApiKey) : ApiKey where
  merchantId := merchantId
  name := input.name
  scopes := input.scopes
  keyPrefix := ApiKeys.lookupPrefix generated.raw
  keyHash := hash generated.raw
  status := .active
  lastUsedAt := none
  revokedAt := none

/-- `createScopedApiKey`. -/
def createScopedApiKey (hash : String → String) (context : Context) (input : CreateScopedApiKeyInput)
    (generated : GeneratedApiKey) : KeyJob ApiKey := do
  orThrow (assertValidScopes input.scopes)
  let apiKey := scopedApiKey hash context.merchantId input generated
  orUnexpected (← (KeyEffect.insertKey context.credential generated.id apiKey).run)
  return apiKey

/-- `POST /merchants/me/api-keys`. -/
def createKey (hash : String → String) (name : Option Json) (scopes : Option (List Json))
    (generated : GeneratedApiKey) (context : Context) : KeyJob Response :=
  match createApiKeySchema name scopes with
  | none => .raise .zod
  | some input => do
      let apiKey ← createScopedApiKey hash context input generated
      return .created generated.id apiKey.name apiKey.scopes generated.raw

def apiKeyNotFound (id : String) : RouteError :=
  .api 404 "API_KEY_NOT_FOUND" ("No active API key \"" ++ id ++ "\".")

def cannotRevokeCurrent : RouteError :=
  .api 409 "CANNOT_REVOKE_CURRENT_API_KEY"
    "Rotate this API key instead of revoking the credential used for this request."

/-- `DELETE /merchants/me/api-keys/:id`. -/
def deleteKey (id : Uuid) (context : Context) : KeyJob Response :=
  if context.credential = .apiKey id then .raise cannotRevokeCurrent
  else do
    let now ← onKeys ApiKeys.Effect.now.run
    let count ← orUnexpected (← (KeyEffect.revokeActive id context.merchantId now).run)
    if count = 1 then return .revoked id else .raise (apiKeyNotFound (toString id))

/-! ## Requests -/

/-- A request, with the ids and random values that are generated for it. -/
inductive Request where
  /-- About the session itself. -/
  | session (c : MerchantSessions.Call)
  | rotate (header : Option String) (generated : GeneratedApiKey)
  | create (header : Option String) (name : Option Json) (scopes : Option (List Json))
      (generated : GeneratedApiKey)
  | delete (header : Option String) (id : Uuid)
  /-- To any other route that is guarded, with the scopes that it asks for. -/
  | other (header : Option String) (requiredScopes : List String)

namespace Request

/-- What the request is to those who see nothing but sessions. -/
def call : Request → MerchantSessions.Call
  | .session c => c
  | .rotate header _ => .request header
  | .create header _ _ _ => .request header
  | .delete header _ => .request header
  | .other header _ => .request header

def requiredScopes : Request → List String
  | .other _ requiredScopes => requiredScopes
  | _ => ApiKeys.requiredScopes

/-- What the route does once it is entered. -/
def handler (hash : String → String) : Request → Context → KeyJob Response
  | .session _, _ => return .handled
  | .rotate _ generated, context => Credentials.rotate hash generated context
  | .create _ name scopes generated, context => createKey hash name scopes generated context
  | .delete _ id, context => deleteKey id context
  | .other _ _, _ => return .handled

end Request

/-- A result is told. -/
def respond (body : KeyJob Response) : KeyJob Unit := do
  let result ← body.attempt
  (KeyEffect.tell result).run

/-- The route is entered, and does what it does. -/
def enterRoute (hash : String → String) (r : Request) (context : Context) : KeyJob Response := do
  (KeyEffect.enter context).run
  r.handler hash context

/-- The request goes on to be authenticated by an API key. -/
def enterWithApiKey (hash : String → String) (r : Request) (raw : String) : KeyJob Response := do
  let (apiKeyId, apiKey) ← onKeys (ApiKeys.authenticateApiKey hash raw)
  orThrow (ApiKeys.requireApiKeyScopes apiKey r.requiredScopes)
  enterRoute hash r ⟨apiKey.merchantId, .apiKey apiKeyId⟩

/-- A guarded route: `createAuthPreHandler`, then the route. -/
def serveGuarded (cfg : MerchantSessions.Config) (hash : String → String) (r : Request)
    (header : Option String) : Job Unit := do
  match ← (MerchantSessions.authenticate cfg header).attempt.left with
  | .ok (.session context) =>
      (MerchantSessions.Effect.enter context).run.left
      (respond (enterRoute hash r ⟨context.merchantId, .session context.sessionId⟩)).right
  | .ok (.apiKey raw) =>
      (MerchantSessions.Effect.enterWithApiKey raw).run.left
      (respond (enterWithApiKey hash r raw)).right
  | .error e => (MerchantSessions.Effect.reply (.error e)).run.left

def serve (cfg : MerchantSessions.Config) (hash : String → String) (r : Request) : Job Unit :=
  match r with
  | .session c => (MerchantSessions.serve cfg c).left
  | .rotate header _ => serveGuarded cfg hash r header
  | .create header _ _ _ => serveGuarded cfg hash r header
  | .delete header _ => serveGuarded cfg hash r header
  | .other header _ => serveGuarded cfg hash r header

/-! ## The database -/

structure Keys where
  /-- The keys, and the transactions that rotate them. -/
  table : ApiKeys.Shared
  /-- The requests there were. -/
  requests : List Request
  /-- Who is served by a route, and as whom. -/
  entered : FinMap ℕ Context
  /-- For whom a key was made. -/
  issues : List (Credential × Uuid)
  /-- What the callers were told. -/
  replies : FinMap ℕ (Except RouteError Response)

/-- What becomes of an effect, and the time that is read then. -/
abbrev Outcome := ApiKeys.Outcome

/-- The same for an effect on sessions. -/
def onSessions : Outcome → MerchantSessions.Outcome
  | .served _ => .served
  | .failed _ => .failed
  | .unanswered _ => .unanswered

/-- The merchants whose account is disabled. -/
def disabledMerchants (tables : MerchantSessions.Tables) : List Uuid :=
  FinMap.keysWhere (fun merchant => merchant.status ≠ .active) tables.merchants

namespace Keys

def insertKey (k : Keys) (issuer : Credential) (id : Uuid) (key : ApiKey) : Keys :=
  { k with
    table := { k.table with keys := k.table.keys.insert id key }
    issues := k.issues ++ [(issuer, id)] }

/-- The number of rows that are revoked, and the table then. -/
def revokeActive (k : Keys) (id merchantId : Uuid) (revokedAt : Time) : ℕ × Keys :=
  match k.table.keys.lookup id with
  | none => (0, k)
  | some key =>
      if key.merchantId = merchantId ∧ key.status = .active then
        (1, { k with table := { k.table with keys := k.table.keys.insert id (key.revoke revokedAt) } })
      else (0, k)

/-- The effect waits for a transaction. -/
def waits (k : Keys) (worker : ℕ) : KeyEffect → Bool
  | .key e => k.table.waits worker e
  | .insertKey _ id key => k.table.held worker (ApiKeys.Shared.insertsRow id key)
  | .revokeActive id _ _ => k.table.held worker (ApiKeys.Shared.updatesRow id)
  | _ => false

end Keys

def performKeys (worker : ℕ) (outcome : Outcome) (disabled : List Uuid) :
    (e : KeyEffect) → Keys → KeyAnswer e × Keys
  | .key e, k =>
      let (answer, table) :=
        ApiKeys.perform worker outcome e { k.table with disabledMerchants := disabled }
      (answer, { k with table := table })
  | .enter context, k => ((), { k with entered := k.entered.insert worker context })
  | .insertKey issuer id key, k =>
      if ApiKeys.Shared.violates k.table.keys id key then (none, k)
      else match outcome with
        | .served _ => (some (), k.insertKey issuer id key)
        | .unanswered _ => (none, k.insertKey issuer id key)
        | .failed _ => (none, k)
  | .revokeActive id merchantId revokedAt, k =>
      match outcome with
      | .served _ =>
          (some (k.revokeActive id merchantId revokedAt).1, (k.revokeActive id merchantId revokedAt).2)
      | .unanswered _ => (none, (k.revokeActive id merchantId revokedAt).2)
      | .failed _ => (none, k)
  | .tell result, k => ((), { k with replies := k.replies.insert worker result })

abbrev Shared := MerchantSessions.Shared × Keys

def waits (s : Shared) (worker : ℕ) : Effect → Bool
  | .inl e => s.1.waits worker e
  | .inr e => s.2.waits worker e

def perform (worker : ℕ) (outcome : Outcome) : (e : Effect) → Shared → Answer e × Shared
  | .inl e, s =>
      let (answer, sessions) := MerchantSessions.perform worker (onSessions outcome) e s.1
      (answer, sessions, s.2)
  | .inr e, s =>
      let (answer, keys) := performKeys worker outcome (disabledMerchants s.1.tables) e s.2
      (answer, s.1, keys)

/-! ## Runs -/

inductive Action where
  | request (r : Request)
  /-- A request has its next effect performed, if it need not wait. -/
  | work (worker : ℕ) (outcome : Outcome)
  /-- The database aborts a transaction: a timeout, a deadlock, a lost connection. -/
  | abort (worker : ℕ)
  | tick (ms : ℕ)
  /-- An operator disables a merchant, or enables one. -/
  | setStatus (merchantId : Uuid) (status : MerchantSessions.MerchantStatus)
  /-- A merchant is made in another way, without a key. -/
  | createMerchant (id : Uuid) (merchant : MerchantSessions.Merchant)

abbrev System := Workers Shared (Job Unit)

/-- The action that is seen of it on the sessions. -/
def Action.onSessions : Action → MerchantSessions.Action
  | .request r => .call r.call
  | .work worker outcome => .work worker (Credentials.onSessions outcome)
  | .abort worker => .abort worker
  | .tick ms => .tick ms
  | .setStatus merchantId status => .setStatus merchantId status
  | .createMerchant id merchant => .createMerchant id merchant

/-- What an action does to the shared state when it is not a worker's. -/
def outsideEffect (s : Shared) (a : Action) : Shared :=
  match a with
  | .abort worker =>
      (MerchantSessions.outsideEffect s.1 a.onSessions,
        { s.2 with table := s.2.table.abort worker })
  | _ => (MerchantSessions.outsideEffect s.1 a.onSessions, s.2)

/-- A request arrives. -/
def arrive (r : Request) (s : Shared) : Shared :=
  ({ s.1 with calls := s.1.calls ++ [r.call] }, { s.2 with requests := s.2.requests ++ [r] })

def exec (cfg : MerchantSessions.Config) (hash : String → String) (s : System) : Action → System
  | .request r => (s.outside (arrive r)).start (serve cfg hash r)
  | .work worker outcome =>
      match s.running[worker]? with
      | some (.call e _) =>
          if waits s.shared worker e then s else s.work (perform worker outcome) worker
      | _ => s
  | action => s.outside fun shared => outsideEffect shared action

/-- Nothing in the tables, and no request yet. -/
def initial : System :=
  ⟨(MerchantSessions.initial.shared, ⟨⟨∅, [], ∅, [], ∅⟩, [], ∅, [], ∅⟩), []⟩

abbrev run (cfg : MerchantSessions.Config) (hash : String → String) (s : System)
    (actions : List Action) : System :=
  Runs.run (exec cfg hash) s actions

/-! ## What is seen of it on the sessions -/

section

variable {cfg : MerchantSessions.Config} {hash : String → String}

theorem seen_serve (r : Request) : (serve cfg hash r).Seen (MerchantSessions.serve cfg r.call) := by
  have hguarded : ∀ header, (serveGuarded cfg hash r header).Seen
      (MerchantSessions.enterRoute cfg header) := by
    intro header
    refine Prog.Seen.left_bind ?_
    rintro (e | raw | context)
    · exact Prog.seen_left _
    · exact Prog.Seen.left_bind fun _ => (Prog.hidden_right _).seen _
    · exact Prog.Seen.left_bind fun _ => (Prog.hidden_right _).seen _
  cases r with
  | session c => exact Prog.seen_left _
  | rotate header generated => exact hguarded header
  | create header name scopes generated => exact hguarded header
  | delete header id => exact hguarded header
  | other header requiredScopes => exact hguarded header

end

end Paymap.Api.Credentials
