import Paymap.Api.Products
import Paymap.Lib.FinMap
import Paymap.Lib.Prog
import Paymap.Lib.Runs
import Paymap.Lib.Transactions
import Paymap.Relayer.Tables

set_option autoImplicit false

/-! # Rotating API keys

`POST /merchants/me/api-keys/rotate`: a request is authenticated with a key
(`apps/api/src/auth/api-key.ts`, `plugin.ts`), and `rotateApiKey` revokes this key and creates another
one, in one transaction. Requests are interleaved at their effects. An `UPDATE` of a row waits as long
as another open transaction has updated the row, and an `INSERT` as long as one has inserted its id or
its hash (`Shared.waits`).

The key was active when it authenticated the request. Whether it still is is never asked again, and two
requests that a key has authenticated both rotate it. When every key is still active by the time it is
revoked, rotations neither add keys nor lose any.
-/

namespace Paymap.Api.ApiKeys

open Relayer (Time Uuid)

/-! ## Tables -/

inductive ApiKeyStatus where
  | active
  | revoked
deriving DecidableEq, Repr

structure ApiKey where
  merchantId : Uuid
  name : String
  scopes : List String
  keyPrefix : String
  keyHash : String
  status : ApiKeyStatus
  lastUsedAt : Option Time
  revokedAt : Option Time
deriving DecidableEq

/-- A row that a key is looked up by: its id, the row, and whether its merchant is active. -/
abbrev Candidate := Uuid × ApiKey × Bool

/-- The answer to a request that has rotated a key. -/
structure RotatedApiKey where
  apiKeyId : Uuid
  apiKey : String
  revokedApiKeyId : Uuid
deriving DecidableEq

/-! ## Effects -/

inductive Effect where
  | findKeys (keyPrefix : String)
  | now
  /-- The update of `lastUsedAt`. -/
  | touchKey (id : Uuid) (lastUsedAt : Time)
  | beginTransaction
  | findKey (id merchantId : Uuid)
  | revokeKey (id : Uuid) (revokedAt : Time)
  | createKey (id : Uuid) (key : ApiKey)
  | commit
  | rollback
  /-- The caller is told the result. -/
  | reply (result : Except RouteError RotatedApiKey)

/-- What an effect is answered with; `none` is an exception of the database. -/
abbrev Answer : Effect → Type
  | .findKeys _ => Option (List Candidate)
  | .now => Time
  | .touchKey _ _ => Option Unit
  | .beginTransaction => Option Unit
  | .findKey _ _ => Option (Option ApiKey)
  | .revokeKey _ _ => Option Unit
  | .createKey _ _ => Option Unit
  | .commit => Option Unit
  | .rollback => Unit
  | .reply _ => Unit

abbrev Job (α : Type) := Prog Effect Answer RouteError α

def Effect.run (e : Effect) : Job (Answer e) := .perform e

/-! ## Authentication -/

/-- `KEY_PREFIX`. -/
def keyPrefixText : String := "sk_live_"

def prefixLookupLength : ℕ := utf16Length keyPrefixText + 8

/-- The prefix that a key is looked up by. -/
def lookupPrefix (raw : String) : String := .ofList (raw.toList.take prefixLookupLength)

def WellFormed (raw : String) : Prop :=
  keyPrefixText.toList.isPrefixOf raw.toList ∧ prefixLookupLength + 16 ≤ utf16Length raw

instance (raw : String) : Decidable (WellFormed raw) := by
  unfold WellFormed
  infer_instance

def requiredScopes : List String := ["api_keys:manage"]

/-- `requireApiKeyScopes`. -/
def requireApiKeyScopes (apiKey : ApiKey) (required : List String) : Except RouteError Unit :=
  let missing := required.filter fun scope => !apiKey.scopes.contains scope
  Tx.rejectIf (0 < missing.length)
    (.api 403 "INSUFFICIENT_SCOPE"
      ("This API key requires scope: " ++ String.intercalate ", " missing ++ "."))

/-- The last use is worth recording again after an hour. -/
def usedLongAgo (apiKey : ApiKey) (now : Time) : Bool :=
  match apiKey.lastUsedAt with
  | none => true
  | some lastUsedAt => 60 * 60 * 1000 ≤ (now : ℤ) - lastUsedAt

def recordUse (id : Uuid) (apiKey : ApiKey) : Job (Uuid × ApiKey) := do
  let now ← Effect.now.run
  if usedLongAgo apiKey now then
    let now ← Effect.now.run
    match ← (Effect.touchKey id now).run with
    | none => .raise .unexpected
    | some () => return (id, apiKey)
  else return (id, apiKey)

/-- The row whose hash is the one of the key, if there is one. -/
def authenticateCandidate : Option Candidate → Job (Uuid × ApiKey)
  | none => .raise (.api 401 "INVALID_API_KEY" "Invalid API key.")
  | some (id, apiKey, merchantActive) =>
      if apiKey.status ≠ .active then
        .raise (.api 401 "API_KEY_REVOKED"
          "This API key has been revoked. Rotate to a new key.")
      else if merchantActive = false then
        .raise (.api 403 "MERCHANT_DISABLED" "This merchant account is disabled.")
      else recordUse id apiKey

/-- `authenticateApiKey`, the hash of a key being its HMAC under the secret of the server. -/
def authenticateApiKey (hash : String → String) (raw : String) : Job (Uuid × ApiKey) :=
  if WellFormed raw then do
    match ← (Effect.findKeys (lookupPrefix raw)).run with
    | none => .raise .unexpected
    | some candidates =>
        authenticateCandidate (candidates.find? fun candidate => candidate.2.1.keyHash = hash raw)
  else .raise (.api 401 "INVALID_API_KEY" "Malformed API key.")

/-! ## Rotation -/

/-- A key as it is generated, and the id of its row. -/
structure GeneratedApiKey where
  id : Uuid
  raw : String
deriving DecidableEq

/-- The row of a new key. -/
def newApiKey (hash : String → String) (merchantId : Uuid) (current : ApiKey)
    (generated : GeneratedApiKey) : ApiKey where
  merchantId := merchantId
  name := current.name
  scopes := current.scopes
  keyPrefix := lookupPrefix generated.raw
  keyHash := hash generated.raw
  status := .active
  lastUsedAt := none
  revokedAt := none

/-- `prisma.$transaction`: it commits, unless an exception ends it. -/
def transaction (body : Job RotatedApiKey) : Job RotatedApiKey := do
  match ← Effect.beginTransaction.run with
  | none => .raise .unexpected
  | some () =>
      match ← body.attempt with
      | .ok result =>
          match ← Effect.commit.run with
          | none => .raise .unexpected
          | some () => return result
      | .error e =>
          Effect.rollback.run
          .raise e

/-- What the transaction does with the row of the current key. -/
def replaceKey (hash : String → String) (merchantId currentApiKeyId : Uuid)
    (generated : GeneratedApiKey) (current : ApiKey) : Job RotatedApiKey := do
  let now ← Effect.now.run
  match ← (Effect.revokeKey currentApiKeyId now).run with
  | none => .raise .unexpected
  | some () =>
      match ← (Effect.createKey generated.id (newApiKey hash merchantId current generated)).run with
      | none => .raise .unexpected
      | some () => return ⟨generated.id, generated.raw, currentApiKeyId⟩

def rotateApiKey (hash : String → String) (merchantId currentApiKeyId : Uuid)
    (generated : GeneratedApiKey) : Job RotatedApiKey :=
  transaction do
    match ← (Effect.findKey currentApiKeyId merchantId).run with
    | none => .raise .unexpected
    | some none => .raise .unexpected
    | some (some current) => replaceKey hash merchantId currentApiKeyId generated current

/-- A request with its key, and the key that is generated for it. -/
structure Call where
  raw : String
  generated : GeneratedApiKey

/-- `POST /merchants/me/api-keys/rotate`. -/
def rotate (hash : String → String) (c : Call) : Job RotatedApiKey := do
  let (apiKeyId, apiKey) ← authenticateApiKey hash c.raw
  match requireApiKeyScopes apiKey requiredScopes with
  | .error e => .raise e
  | .ok () => rotateApiKey hash apiKey.merchantId apiKeyId c.generated

/-- A call, and its caller. -/
def serve (hash : String → String) (c : Call) : Job Unit := do
  let result ← (rotate hash c).attempt
  (Effect.reply result).run

/-! ## The database -/

/-- An open transaction: the row it has updated, and the row it has inserted. -/
structure Transaction where
  revoked : Option (Uuid × Time)
  created : Option (Uuid × ApiKey)
deriving DecidableEq

def Transaction.empty : Transaction := ⟨none, none⟩

def ApiKey.revoke (apiKey : ApiKey) (revokedAt : Time) : ApiKey :=
  { apiKey with status := .revoked, revokedAt := some revokedAt }

/-- The table as the transaction sees it, and leaves it. -/
def Transaction.apply (t : Transaction) (keys : FinMap Uuid ApiKey) : FinMap Uuid ApiKey :=
  let updated :=
    match t.revoked with
    | none => keys
    | some (id, revokedAt) =>
        match keys.lookup id with
        | none => keys
        | some apiKey => keys.insert id (apiKey.revoke revokedAt)
  match t.created with
  | none => updated
  | some (id, apiKey) => updated.insert id apiKey

structure Shared where
  /-- The table, as far as it is committed. -/
  keys : FinMap Uuid ApiKey
  disabledMerchants : List Uuid
  /-- The open transactions of the calls. -/
  transactions : FinMap ℕ Transaction
  /-- The rotations that are committed: the key that was revoked, and the new one. -/
  rotations : List (Uuid × Uuid)
  /-- What the callers were told. -/
  replies : FinMap ℕ (Except RouteError RotatedApiKey)

/-- What becomes of an effect. -/
inductive Outcome where
  | served (now : Time)
  /-- It fails, and the transaction with it. -/
  | failed (now : Time)
  /-- It is carried out and the answer is lost, and an open transaction with it. -/
  | unanswered (now : Time)

def Outcome.now : Outcome → Time
  | .served now => now
  | .failed now => now
  | .unanswered now => now

def Outcome.fate : Outcome → Transactions.Fate
  | .served _ => .served
  | .failed _ => .failed
  | .unanswered _ => .unanswered

namespace Shared

abbrev layer : Transactions.Layer Shared Transaction where
  get := Shared.transactions
  set transactions s := { s with transactions := transactions }
  get_set _ _ := rfl
  set_get _ := rfl
  set_set _ _ _ := rfl

/-- A transaction is rolled back. -/
abbrev abort (worker : ℕ) (s : Shared) : Shared := layer.abort worker s

abbrev put (worker : ℕ) (t : Transaction) (s : Shared) : Shared := layer.put worker t s

def commit (worker : ℕ) (t : Transaction) (s : Shared) : Shared :=
  { s with
    keys := t.apply s.keys
    transactions := s.transactions.erase worker
    rotations :=
      match t.revoked, t.created with
      | some (old, _), some (new, _) => s.rotations ++ [(old, new)]
      | _, _ => s.rotations }

/-- Another open transaction has done this. -/
def held (s : Shared) (worker : ℕ) (p : Transaction → Bool) : Bool :=
  (FinMap.keysWhere p s.transactions).any fun other => other ≠ worker

def updatesRow (id : Uuid) (t : Transaction) : Bool := t.revoked.any fun revoked => revoked.1 = id

def insertsRow (id : Uuid) (apiKey : ApiKey) (t : Transaction) : Bool :=
  t.created.any fun created => created.1 = id ∨ created.2.keyHash = apiKey.keyHash

/-- The effect waits for another transaction. -/
def waits (s : Shared) (worker : ℕ) : Effect → Bool
  | .touchKey id _ => s.held worker (updatesRow id)
  | .revokeKey id _ => s.held worker (updatesRow id)
  | .createKey id apiKey => s.held worker (insertsRow id apiKey)
  | _ => false

/-- The row violates a unique constraint. -/
def violates (keys : FinMap Uuid ApiKey) (id : Uuid) (apiKey : ApiKey) : Bool :=
  (keys.lookup id).isSome || (FinMap.values keys).any fun stored => stored.keyHash = apiKey.keyHash

/-- The rows with this prefix. -/
def candidates (s : Shared) (keyPrefix : String) : List Candidate :=
  (s.keys.entries.filter fun row => row.2.keyPrefix = keyPrefix).map fun row =>
    (row.1, row.2, !s.disabledMerchants.contains row.2.merchantId)

/-- `UPDATE` of `lastUsedAt`, outside any transaction. -/
def touch (s : Shared) (id : Uuid) (lastUsedAt : Time) : Option Unit × Shared :=
  match s.keys.lookup id with
  | none => (none, s)
  | some apiKey =>
      (some (), { s with keys := s.keys.insert id { apiKey with lastUsedAt := some lastUsedAt } })

/-- A statement in a transaction: `f` is its answer, and what it does to the transaction. -/
abbrev within {α : Type} (s : Shared) (worker : ℕ) (outcome : Outcome)
    (f : Transaction → Option (α × Transaction)) : Option α × Shared :=
  layer.within s worker (outcome.fate.run f)

end Shared

def perform (worker : ℕ) (outcome : Outcome) : (e : Effect) → Shared → Answer e × Shared
  | .findKeys keyPrefix, s =>
      match outcome with
      | .served _ => (some (s.candidates keyPrefix), s)
      | _ => (none, s)
  | .now, s => (outcome.now, s)
  | .touchKey id lastUsedAt, s =>
      match outcome with
      | .served _ => s.touch id lastUsedAt
      | .unanswered _ => (none, (s.touch id lastUsedAt).2)
      | .failed _ => (none, s)
  | .beginTransaction, s =>
      match outcome with
      | .served _ => (some (), s.put worker .empty)
      | _ => (none, s)
  | .findKey id merchantId, s =>
      s.within worker outcome fun t =>
        some (((t.apply s.keys).lookup id).filter fun apiKey => apiKey.merchantId = merchantId, t)
  | .revokeKey id revokedAt, s =>
      s.within worker outcome fun t =>
        if (s.keys.lookup id).isSome then some ((), { t with revoked := some (id, revokedAt) })
        else none
  | .createKey id apiKey, s =>
      s.within worker outcome fun t =>
        if Shared.violates (t.apply s.keys) id apiKey then none
        else some ((), { t with created := some (id, apiKey) })
  | .commit, s => Shared.layer.commit (Shared.commit worker) s worker outcome.fate
  | .rollback, s => ((), s.abort worker)
  | .reply result, s => ((), { s with replies := s.replies.insert worker result })

/-! ## Runs -/

inductive Action where
  | call (c : Call)
  /-- A call has its next effect performed, if it need not wait. -/
  | work (worker : ℕ) (outcome : Outcome)
  /-- The database aborts a transaction: a timeout, a deadlock, a lost connection. -/
  | abort (worker : ℕ)

abbrev System := Workers Shared (Job Unit)

def exec (hash : String → String) (s : System) : Action → System
  | .call c => s.start (serve hash c)
  | .work worker outcome =>
      match s.running[worker]? with
      | some (.call e _) =>
          if s.shared.waits worker e then s else s.work (perform worker outcome) worker
      | _ => s
  | .abort worker => s.outside (Shared.abort worker)

/-- These keys, and no call yet. -/
def initial (keys : FinMap Uuid ApiKey) (disabledMerchants : List Uuid) : System :=
  ⟨⟨keys, disabledMerchants, ∅, [], ∅⟩, []⟩

abbrev run (hash : String → String) (s : System) (actions : List Action) : System :=
  Runs.run (exec hash) s actions

/-! ## A call, move by move -/

/-- Where a call is in its transaction, with the key it rotates and the merchant of the key. -/
inductive Phase where
  | outside
  | begun
  | found (id merchantId : Uuid)
  | revoked (id merchantId : Uuid)
  | created (id merchantId new : Uuid)
  /-- The transaction is to be rolled back. -/
  | failing
  /-- The rotation is committed. -/
  | rotated (id new : Uuid)

inductive Move : Phase → (e : Effect) → Answer e → Phase → Prop where
  | findKeys (keyPrefix : String) (answer : Option (List Candidate)) :
      Move .outside (.findKeys keyPrefix) answer .outside
  | now (p : Phase) (time : Time) : Move p .now time p
  | touch (id : Uuid) (lastUsedAt : Time) (answer : Option Unit) :
      Move .outside (.touchKey id lastUsedAt) answer .outside
  | begin : Move .outside .beginTransaction (some ()) .begun
  | unbegun : Move .outside .beginTransaction none .outside
  | find (id merchantId : Uuid) (apiKey : ApiKey) :
      Move .begun (.findKey id merchantId) (some (some apiKey)) (.found id merchantId)
  | missing (id merchantId : Uuid) : Move .begun (.findKey id merchantId) (some none) .failing
  | findFailed (id merchantId : Uuid) : Move .begun (.findKey id merchantId) none .failing
  | revoke (id merchantId : Uuid) (revokedAt : Time) :
      Move (.found id merchantId) (.revokeKey id revokedAt) (some ()) (.revoked id merchantId)
  | revokeFailed (id merchantId : Uuid) (revokedAt : Time) :
      Move (.found id merchantId) (.revokeKey id revokedAt) none .failing
  | create (id merchantId new : Uuid) (apiKey : ApiKey) (merchant : apiKey.merchantId = merchantId)
      (active : apiKey.status = .active) :
      Move (.revoked id merchantId) (.createKey new apiKey) (some ()) (.created id merchantId new)
  | createFailed (id merchantId new : Uuid) (apiKey : ApiKey) :
      Move (.revoked id merchantId) (.createKey new apiKey) none .failing
  | commit (id merchantId new : Uuid) :
      Move (.created id merchantId new) .commit (some ()) (.rotated id new)
  | commitFailed (id merchantId new : Uuid) :
      Move (.created id merchantId new) .commit none .outside
  | rollback : Move .failing .rollback () .outside
  | refuse (e : RouteError) : Move .outside (.reply (.error e)) () .outside
  | answer (id new : Uuid) (apiKey : String) :
      Move (.rotated id new) (.reply (.ok ⟨new, apiKey, id⟩)) () (.rotated id new)

section

variable {hash : String → String}

/-- A rotation is told of once it is committed. -/
def Returns (rotated : RotatedApiKey) (p : Phase) : Prop :=
  p = .rotated rotated.revokedApiKeyId rotated.apiKeyId

def Throws (_ : RouteError) (p : Phase) : Prop := p = .outside

theorem ends_recordUse (id : Uuid) (apiKey : ApiKey) :
    (recordUse id apiKey).Ends Move (fun _ p => p = .outside) Throws .outside := by
  intro now
  refine ⟨_, .now _ now, ?_⟩
  show (if _ then _ else _ : Job (Uuid × ApiKey)).Ends _ _ _ _
  split_ifs
  · refine fun now' => ⟨_, .now _ now', fun answer => ⟨_, .touch id now' answer, ?_⟩⟩
    cases answer with
    | none => exact rfl
    | some u => exact rfl
  · exact rfl

theorem ends_authenticateApiKey (raw : String) :
    (authenticateApiKey hash raw).Ends Move (fun _ p => p = .outside) Throws .outside := by
  unfold authenticateApiKey
  split_ifs
  · rintro (_ | candidates)
    · exact ⟨_, .findKeys _ none, rfl⟩
    · refine ⟨_, .findKeys _ (some candidates), ?_⟩
      show (authenticateCandidate _).Ends _ _ _ _
      cases candidates.find? fun candidate => candidate.2.1.keyHash = hash raw with
      | none => exact rfl
      | some candidate =>
          unfold authenticateCandidate
          dsimp only
          split_ifs
          · exact rfl
          · exact rfl
          · exact ends_recordUse candidate.1 candidate.2.1
  · exact rfl

/-- The transaction ends filled, or is to be rolled back. -/
theorem ends_replaceKey (id merchantId : Uuid) (generated : GeneratedApiKey) (current : ApiKey) :
    (replaceKey hash merchantId id generated current).Ends Move
      (fun rotated p => rotated.revokedApiKeyId = id ∧ rotated.apiKeyId = generated.id ∧
        p = .created id merchantId generated.id)
      (fun _ p => p = .failing) (.found id merchantId) := by
  refine fun now => ⟨_, .now _ now, ?_⟩
  rintro (_ | u)
  · exact ⟨_, .revokeFailed id merchantId now, rfl⟩
  · refine ⟨_, .revoke id merchantId now, ?_⟩
    rintro (_ | u)
    · exact ⟨_, .createFailed id merchantId generated.id _, rfl⟩
    · exact ⟨_, .create id merchantId generated.id _ rfl rfl, rfl, rfl, rfl⟩

theorem ends_rotateApiKey (id merchantId : Uuid) (generated : GeneratedApiKey) :
    (rotateApiKey hash merchantId id generated).Ends Move Returns Throws .outside := by
  rintro (_ | u)
  · exact ⟨_, .unbegun, rfl⟩
  · refine ⟨_, .begin, ?_⟩
    show Prog.Ends _ _ _ (Prog.attempt _ >>= _) _
    rw [Prog.ends_bind, Prog.ends_attempt]
    have hcommits : ∀ (rotated : RotatedApiKey) (p : Phase), rotated.revokedApiKeyId = id ∧
        rotated.apiKeyId = generated.id ∧ p = .created id merchantId generated.id →
        (show Job RotatedApiKey from do
          match ← Effect.commit.run with
          | none => .raise .unexpected
          | some () => return rotated).Ends Move Returns Throws p := by
      rintro rotated p ⟨hid, hnew, rfl⟩
      rintro (_ | u)
      · exact ⟨_, .commitFailed id merchantId generated.id, rfl⟩
      · refine ⟨_, .commit id merchantId generated.id, ?_⟩
        exact (congrArg₂ Phase.rotated hid hnew).symm
    have hrolls : ∀ (e : RouteError) (p : Phase), p = .failing →
        (show Job RotatedApiKey from do
          Effect.rollback.run
          .raise e).Ends Move Returns Throws p := by
      rintro e p rfl u
      exact ⟨_, .rollback, rfl⟩
    rintro (_ | _ | current)
    · exact ⟨_, .findFailed id merchantId, hrolls _ _ rfl⟩
    · exact ⟨_, .missing id merchantId, hrolls _ _ rfl⟩
    · refine ⟨_, .find id merchantId current, ?_⟩
      exact (ends_replaceKey id merchantId generated current).mono hcommits hrolls

theorem follows_serve (c : Call) :
    (serve hash c).Follows Move (fun _ _ => True) .outside := by
  have hrotate : (rotate hash c).Ends Move Returns Throws .outside := by
    rw [rotate, Prog.ends_bind]
    refine (ends_authenticateApiKey c.raw).mono ?_ (fun e p h => h)
    rintro ⟨id, apiKey⟩ _ rfl
    show (match requireApiKeyScopes apiKey requiredScopes with
      | .error e => _
      | .ok () => _ : Job RotatedApiKey).Ends Move Returns Throws .outside
    cases requireApiKeyScopes apiKey requiredScopes with
    | error e => exact rfl
    | ok u => exact ends_rotateApiKey id apiKey.merchantId c.generated
  rw [serve, Prog.follows_bind, Prog.follows_attempt]
  refine hrotate.mono ?_ ?_
  · rintro rotated _ rfl
    exact fun _ => ⟨_, .answer _ _ rotated.apiKey, trivial⟩
  · rintro e _ rfl
    exact fun _ => ⟨_, .refuse e, trivial⟩

end

end Paymap.Api.ApiKeys
