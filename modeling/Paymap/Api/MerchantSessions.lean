import Paymap.Api.Products
import Paymap.Lib.Hex
import Paymap.Lib.Js
import Paymap.Lib.Locks
import Paymap.Lib.Prog
import Paymap.Lib.Runs
import Paymap.Lib.Transactions
import Paymap.Relayer.Tables

set_option autoImplicit false

/-! # Merchants sign in with their wallets

`apps/api/src/auth/merchant-session.ts`, the routes of `routes/merchants.ts` that use it, and the handler
that authenticates the requests of the other routes (`auth/plugin.ts`). A wallet asks for a challenge and
signs it; the challenge is consumed and a session made in one transaction, and the session is the
credential from then on. A wallet without a merchant registers one first, in a session that has none.

Requests are interleaved at their effects. An `UPDATE` of a row, and an `INSERT` with its id or one of its
unique columns, wait as long as another open transaction has written that (`Shared.waits`). Hashes,
base64 and signatures are a parameter (`Config`); hexadecimal is `Hex`.
-/

namespace Paymap.Api.MerchantSessions

open Relayer (Time Uuid)
open Tx (rejectIf)

/-! ## Tables -/

structure MerchantAuthChallenge where
  walletAddress : String
  networkPassphrase : String
  messageHash : String
  expiresAt : Time
  usedAt : Option Time
deriving DecidableEq

structure MerchantSession where
  /-- None until the wallet has a merchant. -/
  merchantId : Option Uuid
  walletAddress : String
  tokenPrefix : String
  tokenHash : String
  expiresAt : Time
  lastUsedAt : Option Time
  revokedAt : Option Time
deriving DecidableEq

inductive MerchantStatus where
  | active
  | disabled
deriving DecidableEq, Repr

structure Merchant where
  name : String
  walletAddress : String
  status : MerchantStatus
deriving DecidableEq

/-- A row that a session is looked up by: its id, the row, and the merchant it belongs to. -/
abbrev Candidate := Uuid × MerchantSession × Option (Uuid × Merchant)

/-! ## What is used of Node and the SDK -/

structure Config where
  networkPassphrase : String
  merchantAuthDomain : String
  toISOString : Time → String
  /-- Of the UTF-8 of a text. -/
  sha256 : String → List UInt8
  /-- Under the hash secret of the server. -/
  hmacSha256 : String → List UInt8
  /-- `Buffer.from(text, "base64")`. -/
  bufferFrom : String → List UInt8
  toBase64 : List UInt8 → String
  /-- `Keypair.fromPublicKey(key).verify(digest, signature)`; `none` is an exception. -/
  verify : (publicKey : String) → (digest signature : List UInt8) → Option Bool

/-- `.digest("hex")`. -/
def hex (bytes : List UInt8) : String := .ofList (Hex.encode bytes)

/-- `Buffer.from(text, "hex")`. -/
def bufferFromHex (text : String) : List UInt8 := Hex.decode text.toList

theorem bufferFromHex_hex (bytes : List UInt8) : bufferFromHex (hex bytes) = bytes := by
  unfold bufferFromHex hex
  rw [String.toList_ofList, Hex.decode_encode]

/-! ## Challenges, signatures, tokens -/

/-- `SIGNED_MESSAGE_PREFIX`. -/
def signedMessagePrefix : String := "Stellar Signed Message:\n"

/-- `SESSION_PREFIX`. -/
def sessionPrefix : String := "pms_live_"

/-- `SESSION_LOOKUP_LENGTH`. -/
def sessionLookupLength : ℕ := utf16Length sessionPrefix + 8

/-- `CHALLENGE_TTL_MS`. -/
def challengeTtlMs : ℕ := 5 * 60 * 1000

/-- `SESSION_TTL_MS`. -/
def sessionTtlMs : ℕ := 24 * 60 * 60 * 1000

/-- What a wallet is asked to sign. -/
structure ChallengeMessage where
  walletAddress : String
  networkPassphrase : String
  domain : String
  nonce : String
  issuedAt : Time
  expiresAt : Time
deriving DecidableEq

/-- A wallet signs this message to complete a challenge. -/
structure Completion where
  challengeId : Uuid
  message : String
  signature : String
  signerAddress : String
  /-- The id of the session row, and the random part of its token. -/
  sessionId : Uuid
  random : String
deriving DecidableEq

namespace Config

variable (cfg : Config)

def signedMessageDigest (message : String) : List UInt8 :=
  cfg.sha256 (signedMessagePrefix ++ message)

def sessionHash (rawToken : String) : String :=
  hex (cfg.hmacSha256 ("paymap:merchant-session:v1:" ++ rawToken))

def buildChallengeMessage (input : ChallengeMessage) : String :=
  String.intercalate "\n"
    ["Paymap merchant authentication",
      "",
      "Wallet: " ++ input.walletAddress,
      "Network: " ++ input.networkPassphrase,
      "Domain: " ++ input.domain,
      "Challenge: " ++ input.nonce,
      "Issued at: " ++ cfg.toISOString input.issuedAt,
      "Expires at: " ++ cfg.toISOString input.expiresAt,
      "",
      "Signing proves wallet ownership. It does not submit a transaction or move funds."]

def decodeSignature (signature : String) : Except RouteError (List UInt8) := do
  let decoded := cfg.bufferFrom signature
  rejectIf (decoded.length ≠ 64 ∨ cfg.toBase64 decoded ≠ signature)
    (.api 401 "INVALID_WALLET_SIGNATURE" "Wallet signature is invalid.")
  return decoded

/-- An exception counts as a signature that is not valid. -/
def signatureValid (signerAddress message signature : String) : Bool :=
  match cfg.decodeSignature signature with
  | .error _ => false
  | .ok bytes => (cfg.verify signerAddress (cfg.signedMessageDigest message) bytes).getD false

/-- What is asked of a challenge before it is consumed. -/
def checkChallenge (c : Completion) (challenge : MerchantAuthChallenge) (now : Time) :
    Except RouteError Unit := do
  rejectIf (challenge.usedAt.isSome = true)
    (.api 409 "AUTH_CHALLENGE_USED" "Authentication challenge was already used.")
  rejectIf (challenge.expiresAt ≤ now)
    (.api 401 "AUTH_CHALLENGE_EXPIRED" "Authentication challenge expired.")
  rejectIf (challenge.walletAddress ≠ c.signerAddress)
    (.api 401 "WALLET_ADDRESS_MISMATCH"
      "The wallet that signed does not match the connected wallet.")
  rejectIf (bufferFromHex challenge.messageHash ≠ cfg.signedMessageDigest c.message)
    (.api 401 "INVALID_AUTH_CHALLENGE" "Authentication challenge was altered.")
  rejectIf (cfg.signatureValid c.signerAddress c.message c.signature = false)
    (.api 401 "INVALID_WALLET_SIGNATURE" "Wallet signature is invalid.")

end Config

/-- The prefix that a token is looked up by. -/
def lookupPrefix (rawToken : String) : String := .ofList (rawToken.toList.take sessionLookupLength)

def Completion.token (c : Completion) : String := sessionPrefix ++ c.random

def WellFormed (rawToken : String) : Prop :=
  sessionPrefix.toList.isPrefixOf rawToken.toList ∧ sessionLookupLength + 16 ≤ utf16Length rawToken

instance (rawToken : String) : Decidable (WellFormed rawToken) := by
  unfold WellFormed
  infer_instance

/-! ## Effects -/

/-- `merchantContext`, when the credential is a session. -/
structure MerchantContext where
  sessionId : Uuid
  merchantId : Uuid
deriving DecidableEq

inductive Response where
  | challenge (challengeId : Uuid) (message networkPassphrase : String) (expiresAt : Time)
  | session (sessionToken : String) (expiresAt : Time) (profileRequired : Bool)
      (merchant : Option (Uuid × Merchant))
  | merchant (merchantId : Uuid) (name walletAddress : String)
  | loggedOut
deriving DecidableEq

inductive Effect where
  | now
  | createChallenge (id : Uuid) (challenge : MerchantAuthChallenge)
  | findChallenge (id : Uuid)
  | beginTransaction
  /-- The update of a challenge that is neither used nor over; the answer is the number of rows. -/
  | consumeChallenge (id : Uuid) (now : Time)
  | findMerchantByWallet (walletAddress : String)
  | createSession (id : Uuid) (session : MerchantSession)
  | upsertMerchant (id : Uuid) (name walletAddress : String)
  | assignMerchant (sessionId merchantId : Uuid)
  | commit
  | rollback
  | findSessions (tokenPrefix : String)
  /-- The update of `lastUsedAt`. -/
  | touchSession (id : Uuid) (lastUsedAt : Time)
  | findMerchant (id : Uuid)
  | revokeSession (id : Uuid) (now : Time)
  /-- The handler of the route is entered. -/
  | enter (context : MerchantContext)
  /-- The request goes on to be authenticated by an API key. -/
  | enterWithApiKey (raw : String)
  /-- The caller is told the result. -/
  | reply (result : Except RouteError Response)

/-- What an effect is answered with; `none` is an exception of the database. -/
abbrev Answer : Effect → Type
  | .now => Time
  | .createChallenge _ _ => Option Unit
  | .findChallenge _ => Option (Option MerchantAuthChallenge)
  | .beginTransaction => Option Unit
  | .consumeChallenge _ _ => Option ℕ
  | .findMerchantByWallet _ => Option (Option (Uuid × Merchant))
  | .createSession _ _ => Option Unit
  | .upsertMerchant _ _ _ => Option (Uuid × Merchant)
  | .assignMerchant _ _ => Option Unit
  | .commit => Option Unit
  | .rollback => Unit
  | .findSessions _ => Option (List Candidate)
  | .touchSession _ _ => Option Unit
  | .findMerchant _ => Option (Option Merchant)
  | .revokeSession _ _ => Option Unit
  | .enter _ => Unit
  | .enterWithApiKey _ => Unit
  | .reply _ => Unit

abbrev Job (α : Type) := Prog Effect Answer RouteError α

def Effect.run (e : Effect) : Job (Answer e) := .perform e

/-- The answer of the database, or the error that nobody expects. -/
def orUnexpected {α : Type} : Option α → Job α
  | some a => .ret a
  | none => .raise .unexpected

/-- `prisma.$transaction`: it commits, unless an exception ends it. -/
def transaction {α : Type} (body : Job α) : Job α := do
  orUnexpected (← Effect.beginTransaction.run)
  match ← body.attempt with
  | .ok result =>
      orUnexpected (← Effect.commit.run)
      return result
  | .error e =>
      Effect.rollback.run
      .raise e

/-! ## The challenge -/

/-- The message of a challenge that is issued now. -/
def Config.challengeMessage (cfg : Config) (walletAddress nonce : String) (now : Time) :
    ChallengeMessage where
  walletAddress := walletAddress
  networkPassphrase := cfg.networkPassphrase
  domain := cfg.merchantAuthDomain
  nonce := nonce
  issuedAt := now
  expiresAt := now + challengeTtlMs

/-- The row of a challenge with this message. -/
def Config.newChallenge (cfg : Config) (input : ChallengeMessage) : MerchantAuthChallenge where
  walletAddress := input.walletAddress
  networkPassphrase := input.networkPassphrase
  messageHash := hex (cfg.signedMessageDigest (cfg.buildChallengeMessage input))
  expiresAt := input.expiresAt
  usedAt := none

/-- `createMerchantAuthChallenge`. -/
def createMerchantAuthChallenge (cfg : Config) (walletAddress : String) (id : Uuid)
    (nonce : String) : Job Response := do
  let now ← Effect.now.run
  let input := cfg.challengeMessage walletAddress nonce now
  orUnexpected (← (Effect.createChallenge id (cfg.newChallenge input)).run)
  return .challenge id (cfg.buildChallengeMessage input) cfg.networkPassphrase input.expiresAt

/-- The row of a session that is made now. -/
def Config.newSession (cfg : Config) (c : Completion) (merchantId : Option Uuid) (now : Time) :
    MerchantSession where
  merchantId := merchantId
  walletAddress := c.signerAddress
  tokenPrefix := lookupPrefix c.token
  tokenHash := cfg.sessionHash c.token
  expiresAt := now + sessionTtlMs
  lastUsedAt := none
  revokedAt := none

/-- The transaction that consumes the challenge and makes the session. -/
def consumeAndCreate (cfg : Config) (c : Completion) (now : Time) :
    Job (Option (Uuid × Merchant)) := do
  let count ← orUnexpected (← (Effect.consumeChallenge c.challengeId now).run)
  if count = 1 then
    let merchant ← orUnexpected (← (Effect.findMerchantByWallet c.signerAddress).run)
    orUnexpected
      (← (Effect.createSession c.sessionId (cfg.newSession c (merchant.map Prod.fst) now)).run)
    return merchant
  else .raise (.api 409 "AUTH_CHALLENGE_USED" "Authentication challenge was already used.")

/-- `completeMerchantAuthChallenge`. -/
def completeMerchantAuthChallenge (cfg : Config) (c : Completion) : Job Response := do
  let now ← Effect.now.run
  match ← orUnexpected (← (Effect.findChallenge c.challengeId).run) with
  | none => .raise (.api 401 "INVALID_AUTH_CHALLENGE" "Authentication challenge is invalid.")
  | some challenge =>
      match cfg.checkChallenge c challenge now with
      | .error e => .raise e
      | .ok () =>
          let merchant ← transaction (consumeAndCreate cfg c now)
          return .session c.token (now + sessionTtlMs) merchant.isNone merchant

/-! ## Authentication -/

/-- The last use is worth recording again after an hour. -/
def usedLongAgo (session : MerchantSession) (now : Time) : Bool :=
  match session.lastUsedAt with
  | none => true
  | some lastUsedAt => 60 * 60 * 1000 ≤ (now : ℤ) - lastUsedAt

def recordUse (candidate : Candidate) (now : Time) : Job Candidate := do
  if usedLongAgo candidate.2.1 now then
    orUnexpected (← (Effect.touchSession candidate.1 now).run)
    return candidate
  else return candidate

/-- The row whose hash is the one of the token, if there is one. -/
def authenticateCandidate (allowPendingProfile : Bool) (now : Time) :
    Option Candidate → Job Candidate
  | none => .raise (.api 401 "INVALID_MERCHANT_SESSION" "Merchant session is invalid.")
  | some (id, session, merchant) =>
      if session.revokedAt.isSome = true ∨ session.expiresAt ≤ now then
        .raise (.api 401 "MERCHANT_SESSION_EXPIRED" "Merchant session expired.")
      else match merchant with
        | none =>
            if allowPendingProfile then return (id, session, none)
            else .raise (.api 403 "MERCHANT_PROFILE_REQUIRED"
              "Complete your merchant profile before continuing.")
        | some (merchantId, row) =>
            if row.status ≠ .active then
              .raise (.api 403 "MERCHANT_DISABLED" "This merchant account is disabled.")
            else recordUse (id, session, some (merchantId, row)) now

/-- The row has the hash of the token. -/
def Config.matches (cfg : Config) (rawToken : String) (candidate : Candidate) : Bool :=
  bufferFromHex candidate.2.1.tokenHash = bufferFromHex (cfg.sessionHash rawToken)

/-- `authenticateMerchantSession`. -/
def authenticateMerchantSession (cfg : Config) (rawToken : String) (now : Time)
    (allowPendingProfile : Bool) : Job Candidate :=
  if WellFormed rawToken then do
    let candidates ← orUnexpected (← (Effect.findSessions (lookupPrefix rawToken)).run)
    authenticateCandidate allowPendingProfile now (candidates.find? (cfg.matches rawToken))
  else .raise (.api 401 "INVALID_MERCHANT_SESSION" "Merchant session is invalid.")

/-- The credential in an `Authorization` header: `/^Bearer\s+(\S+)$/i`. -/
def bearerCredential (header : String) : Option String :=
  let (scheme, rest) := header.toList.splitAt 6
  let credential := rest.dropWhile Js.isSpace
  if scheme.map Char.toLower = "bearer".toList ∧ rest.any Js.isSpace ∧
      rest.head?.any Js.isSpace ∧ credential ≠ [] ∧ credential.all (!Js.isSpace ·) then
    some (.ofList credential)
  else none

/-- `requireBearerCredential` of the routes. -/
def requireBearerCredential (header : Option String) : Except RouteError String :=
  match bearerCredential (header.getD "") with
  | some credential => .ok credential
  | none => .error (.api 401 "MISSING_API_KEY" "Authorization header must be \"Bearer <credential>\".")

/-! ## Registration, logout -/

/-- `registerVerifiedMerchant`. -/
def registerVerifiedMerchant (candidate : Candidate) (generated : Uuid) (name : String) :
    Job (Uuid × Merchant) :=
  match candidate.2.1.merchantId with
  | some merchantId => do
      match ← orUnexpected (← (Effect.findMerchant merchantId).run) with
      | none => .raise .unexpected
      | some merchant => return (merchantId, merchant)
  | none =>
      transaction do
        let merchant ← orUnexpected
          (← (Effect.upsertMerchant generated name candidate.2.1.walletAddress).run)
        orUnexpected (← (Effect.assignMerchant candidate.1 merchant.1).run)
        return merchant

/-- The credential of a request to a route that authenticates it itself. -/
def authenticatePending (cfg : Config) (header : Option String) : Job Candidate :=
  match requireBearerCredential header with
  | .error e => .raise e
  | .ok rawToken => do
      let now ← Effect.now.run
      authenticateMerchantSession cfg rawToken now true

/-- `POST /merchant-auth/register`. -/
def register (cfg : Config) (header : Option String) (generated : Uuid) (name : String) :
    Job Response := do
  let candidate ← authenticatePending cfg header
  let merchant ← registerVerifiedMerchant candidate generated name
  return .merchant merchant.1 merchant.2.name merchant.2.walletAddress

/-- `POST /merchant-auth/logout`. -/
def logout (cfg : Config) (header : Option String) : Job Response := do
  let candidate ← authenticatePending cfg header
  let now ← Effect.now.run
  orUnexpected (← (Effect.revokeSession candidate.1 now).run)
  return .loggedOut

/-! ## The other routes (`plugin.ts`) -/

inductive MerchantCredential where
  | apiKey (raw : String)
  | session (context : MerchantContext)
deriving DecidableEq

/-- `createAuthPreHandler`. -/
def authenticate (cfg : Config) (header : Option String) : Job MerchantCredential :=
  match header with
  | none => .raise (.api 401 "MISSING_API_KEY" "Missing \"Authorization\" header.")
  | some header =>
      if header = "" then
        .raise (.api 401 "MISSING_API_KEY" "Missing \"Authorization\" header.")
      else match bearerCredential header with
        | none =>
            .raise (.api 401 "MISSING_API_KEY"
              "Authorization header must be \"Bearer <credential>\".")
        | some rawCredential =>
            if sessionPrefix.toList.isPrefixOf rawCredential.toList then do
              let now ← Effect.now.run
              let candidate ← authenticateMerchantSession cfg rawCredential now false
              match candidate.2.2 with
              | none =>
                  .raise (.api 403 "MERCHANT_PROFILE_REQUIRED"
                    "Complete your merchant profile before continuing.")
              | some (merchantId, _) => return .session ⟨candidate.1, merchantId⟩
            else return .apiKey rawCredential

/-! ## Requests -/

/-- A request, with the ids and random values that are generated for it. -/
inductive Call where
  | challenge (walletAddress : String) (id : Uuid) (nonce : String)
  | complete (c : Completion)
  | register (header : Option String) (generated : Uuid) (name : String)
  | logout (header : Option String)
  /-- To a route that `createAuthPreHandler` guards. -/
  | request (header : Option String)
deriving DecidableEq

def respond (body : Job Response) : Job Unit := do
  let result ← body.attempt
  (Effect.reply result).run

def enterRoute (cfg : Config) (header : Option String) : Job Unit := do
  match ← (authenticate cfg header).attempt with
  | .ok (.session context) => (Effect.enter context).run
  | .ok (.apiKey raw) => (Effect.enterWithApiKey raw).run
  | .error e => (Effect.reply (.error e)).run

def serve (cfg : Config) : Call → Job Unit
  | .challenge walletAddress id nonce =>
      respond (createMerchantAuthChallenge cfg walletAddress id nonce)
  | .complete c => respond (completeMerchantAuthChallenge cfg c)
  | .register header generated name => respond (register cfg header generated name)
  | .logout header => respond (logout cfg header)
  | .request header => enterRoute cfg header

/-! ## The database -/

structure Tables where
  challenges : FinMap Uuid MerchantAuthChallenge
  sessions : FinMap Uuid MerchantSession
  merchants : FinMap Uuid Merchant

/-- An open transaction: what it has updated, and what it has inserted. -/
structure Transaction where
  consumed : Option (Uuid × Time)
  opened : Option (Uuid × MerchantSession)
  registered : Option (Uuid × Merchant)
  assigned : Option (Uuid × Uuid)
deriving DecidableEq

def Transaction.empty : Transaction := ⟨none, none, none, none⟩

/-- What a transaction can hold: a row, or a value of a unique column. -/
inductive Row where
  | challenge (id : Uuid)
  | session (id : Uuid)
  | token (tokenHash : String)
  | merchant (id : Uuid)
  | wallet (walletAddress : String)
deriving DecidableEq

def Transaction.rows (t : Transaction) : List Row :=
  (t.consumed.toList.map fun consumed => .challenge consumed.1) ++
    (t.opened.toList.flatMap fun opened => [.session opened.1, .token opened.2.tokenHash]) ++
    (t.registered.toList.flatMap fun registered =>
      [.merchant registered.1, .wallet registered.2.walletAddress]) ++
    t.assigned.toList.map fun assigned => .session assigned.1

namespace Tables

def empty : Tables := ⟨∅, ∅, ∅⟩

/-- The merchant with this wallet. -/
def merchantOf (t : Tables) (walletAddress : String) : Option (Uuid × Merchant) :=
  (t.merchants.entries.find? fun row => row.2.walletAddress = walletAddress).map fun row =>
    (row.1, row.2)

def consume (t : Tables) (id : Uuid) (now : Time) : Tables :=
  match t.challenges.lookup id with
  | none => t
  | some challenge =>
      { t with challenges := t.challenges.insert id { challenge with usedAt := some now } }

def updateSession (t : Tables) (id : Uuid) (f : MerchantSession → MerchantSession) : Tables :=
  match t.sessions.lookup id with
  | none => t
  | some session => { t with sessions := t.sessions.insert id (f session) }

def hasToken (t : Tables) (tokenHash : String) : Bool :=
  (FinMap.values t.sessions).any fun session => session.tokenHash = tokenHash

/-- The rows with this prefix. -/
def candidates (t : Tables) (tokenPrefix : String) : List Candidate :=
  (t.sessions.entries.filter fun row => row.2.tokenPrefix = tokenPrefix).map fun row =>
    (row.1, row.2, row.2.merchantId.bind fun merchantId =>
      (t.merchants.lookup merchantId).map fun merchant => (merchantId, merchant))

end Tables

/-- The tables as the transaction sees them, and leaves them. -/
def Transaction.apply (t : Transaction) (tables : Tables) : Tables :=
  let consumed :=
    match t.consumed with
    | none => tables
    | some (id, now) => tables.consume id now
  let opened :=
    match t.opened with
    | none => consumed
    | some (id, session) => { consumed with sessions := consumed.sessions.insert id session }
  let registered :=
    match t.registered with
    | none => opened
    | some (id, merchant) => { opened with merchants := opened.merchants.insert id merchant }
  match t.assigned with
  | none => registered
  | some (id, merchantId) =>
      registered.updateSession id fun session => { session with merchantId := some merchantId }

/-- A challenge that a call has consumed for a session. -/
structure Login where
  worker : ℕ
  challengeId : Uuid
  sessionId : Uuid
deriving DecidableEq

structure Shared where
  /-- The tables, as far as they are committed. -/
  tables : Tables
  /-- The open transactions of the calls. -/
  transactions : FinMap ℕ Transaction
  clock : Time
  /-- The calls there were. -/
  calls : List Call
  /-- The logins that are committed. -/
  logins : List Login
  /-- What the callers were told. -/
  replies : FinMap ℕ (Except RouteError Response)
  /-- Who is served by a route, and as which merchant. -/
  entered : FinMap ℕ MerchantContext

/-- What becomes of an effect. -/
abbrev Outcome := Transactions.Fate

namespace Shared

abbrev layer : Transactions.Layer Shared Transaction where
  get := Shared.transactions
  set transactions s := { s with transactions := transactions }
  get_set _ _ := rfl
  set_get _ := rfl
  set_set _ _ _ := rfl

/-- A transaction is rolled back. -/
abbrev abort (worker : ℕ) (s : Shared) : Shared := layer.abort worker s

abbrev put (worker : ℕ) (t : Transaction) (s : Shared) : Shared := layer.put worker t s

def commit (worker : ℕ) (t : Transaction) (s : Shared) : Shared :=
  { s with
    tables := t.apply s.tables
    transactions := s.transactions.erase worker
    logins :=
      match t.consumed, t.opened with
      | some (challengeId, _), some (sessionId, _) =>
          s.logins ++ [⟨worker, challengeId, sessionId⟩]
      | _, _ => s.logins }

def held (s : Shared) (worker : ℕ) (wanted : List Row) : Bool :=
  Locks.held Transaction.rows s.transactions worker wanted

/-- The rows that an effect writes. -/
def wanted : Effect → List Row
  | .consumeChallenge id _ => [.challenge id]
  | .createSession id session => [.session id, .token session.tokenHash]
  | .upsertMerchant id _ walletAddress => [.merchant id, .wallet walletAddress]
  | .assignMerchant sessionId _ => [.session sessionId]
  | .touchSession id _ => [.session id]
  | .revokeSession id _ => [.session id]
  | _ => []

/-- The effect waits for another transaction. -/
def waits (s : Shared) (worker : ℕ) (e : Effect) : Bool := s.held worker (wanted e)

/-- A statement in a transaction: `f` is its answer, and what it does to the transaction. -/
abbrev within {α : Type} (s : Shared) (worker : ℕ) (outcome : Outcome)
    (f : Transaction → Option (α × Transaction)) : Option α × Shared :=
  layer.within s worker (outcome.run f)

/-- A statement outside any transaction. -/
def alone (s : Shared) (outcome : Outcome) (f : Tables → Option Tables) : Option Unit × Shared :=
  match f s.tables, outcome with
  | none, _ => (none, s)
  | some _, .failed => (none, s)
  | some tables, .served => (some (), { s with tables := tables })
  | some tables, .unanswered => (none, { s with tables := tables })

end Shared

/-! ### Statements -/

namespace Tables

def createChallenge (t : Tables) (id : Uuid) (challenge : MerchantAuthChallenge) : Option Tables :=
  if (t.challenges.lookup id).isSome then none
  else some { t with challenges := t.challenges.insert id challenge }

def touchSession (t : Tables) (id : Uuid) (lastUsedAt : Time) : Option Tables :=
  if (t.sessions.lookup id).isSome then
    some (t.updateSession id fun session => { session with lastUsedAt := some lastUsedAt })
  else none

/-- A session that is revoked already stays as it is. -/
def revokeSession (t : Tables) (id : Uuid) (now : Time) : Tables :=
  t.updateSession id fun session =>
    if session.revokedAt.isSome then session else { session with revokedAt := some now }

/-- The number of rows that are neither used nor over. -/
def consumable (t : Tables) (id : Uuid) (now : Time) : ℕ :=
  match t.challenges.lookup id with
  | none => 0
  | some challenge => if challenge.usedAt = none ∧ now < challenge.expiresAt then 1 else 0

end Tables

namespace Transaction

def consume (tables : Tables) (id : Uuid) (now : Time) (t : Transaction) : ℕ × Transaction :=
  if (t.apply tables).consumable id now = 1 then (1, { t with consumed := some (id, now) })
  else (0, t)

def createSession (tables : Tables) (id : Uuid) (session : MerchantSession) (t : Transaction) :
    Option (Unit × Transaction) :=
  if ((t.apply tables).sessions.lookup id).isSome ∨ (t.apply tables).hasToken session.tokenHash then
    none
  else some ((), { t with opened := some (id, session) })

/-- `INSERT .. ON CONFLICT`: a wallet that has a merchant keeps it. -/
def upsertMerchant (tables : Tables) (id : Uuid) (name walletAddress : String) (t : Transaction) :
    Option ((Uuid × Merchant) × Transaction) :=
  match (t.apply tables).merchantOf walletAddress with
  | some merchant => some (merchant, t)
  | none =>
      if ((t.apply tables).merchants.lookup id).isSome then none
      else
        let merchant : Merchant := ⟨name, walletAddress, .active⟩
        some ((id, merchant), { t with registered := some (id, merchant) })

def assignMerchant (tables : Tables) (sessionId merchantId : Uuid) (t : Transaction) :
    Option (Unit × Transaction) :=
  if ((t.apply tables).sessions.lookup sessionId).isSome ∧
      ((t.apply tables).merchants.lookup merchantId).isSome then
    some ((), { t with assigned := some (sessionId, merchantId) })
  else none

end Transaction

def perform (worker : ℕ) (outcome : Outcome) : (e : Effect) → Shared → Answer e × Shared
  | .now, s => (s.clock, s)
  | .createChallenge id challenge, s => s.alone outcome fun t => t.createChallenge id challenge
  | .findChallenge id, s =>
      match outcome with
      | .served => (some (s.tables.challenges.lookup id), s)
      | _ => (none, s)
  | .beginTransaction, s =>
      match outcome with
      | .served => (some (), s.put worker .empty)
      | _ => (none, s)
  | .consumeChallenge id now, s =>
      s.within worker outcome fun t => some (t.consume s.tables id now)
  | .findMerchantByWallet walletAddress, s =>
      s.within worker outcome fun t => some ((t.apply s.tables).merchantOf walletAddress, t)
  | .createSession id session, s => s.within worker outcome fun t => t.createSession s.tables id session
  | .upsertMerchant id name walletAddress, s =>
      s.within worker outcome fun t => t.upsertMerchant s.tables id name walletAddress
  | .assignMerchant sessionId merchantId, s =>
      s.within worker outcome fun t => t.assignMerchant s.tables sessionId merchantId
  | .commit, s => Shared.layer.commit (Shared.commit worker) s worker outcome
  | .rollback, s => ((), s.abort worker)
  | .findSessions tokenPrefix, s =>
      match outcome with
      | .served => (some (s.tables.candidates tokenPrefix), s)
      | _ => (none, s)
  | .touchSession id lastUsedAt, s => s.alone outcome fun t => t.touchSession id lastUsedAt
  | .findMerchant id, s =>
      match outcome with
      | .served => (some (s.tables.merchants.lookup id), s)
      | _ => (none, s)
  | .revokeSession id now, s => s.alone outcome fun t => some (t.revokeSession id now)
  | .enter context, s => ((), { s with entered := s.entered.insert worker context })
  | .enterWithApiKey _, s => ((), s)
  | .reply result, s => ((), { s with replies := s.replies.insert worker result })

/-! ## Runs -/

inductive Action where
  | call (c : Call)
  /-- A call has its next effect performed, if it need not wait. -/
  | work (worker : ℕ) (outcome : Outcome)
  /-- The database aborts a transaction: a timeout, a deadlock, a lost connection. -/
  | abort (worker : ℕ)
  | tick (ms : ℕ)
  /-- An operator disables a merchant, or enables one. -/
  | setStatus (merchantId : Uuid) (status : MerchantStatus)
  /-- A merchant is made in another way. -/
  | createMerchant (id : Uuid) (merchant : Merchant)

abbrev System := Workers Shared (Job Unit)

/-- A merchant's status, unless there is no such merchant. -/
def Tables.setStatus (t : Tables) (merchantId : Uuid) (status : MerchantStatus) : Tables :=
  match t.merchants.lookup merchantId with
  | none => t
  | some merchant =>
      { t with merchants := t.merchants.insert merchantId { merchant with status := status } }

/-- A merchant that violates no unique constraint. -/
def Tables.createMerchant (t : Tables) (id : Uuid) (merchant : Merchant) : Tables :=
  if (t.merchants.lookup id).isSome ∨ (t.merchantOf merchant.walletAddress).isSome then t
  else { t with merchants := t.merchants.insert id merchant }

/-- What an action does to the shared state when it is not a worker's. No row that a transaction holds
is written. -/
def outsideEffect (s : Shared) : Action → Shared
  | .abort worker => s.abort worker
  | .tick ms => { s with clock := s.clock + ms }
  | .setStatus merchantId status => { s with tables := s.tables.setStatus merchantId status }
  | .createMerchant id merchant =>
      if (FinMap.values s.transactions).any fun t =>
          t.rows.any (· ∈ [Row.merchant id, Row.wallet merchant.walletAddress]) then s
      else { s with tables := s.tables.createMerchant id merchant }
  | _ => s

def exec (cfg : Config) (s : System) : Action → System
  | .call c => (s.outside fun shared => { shared with calls := shared.calls ++ [c] }).start (serve cfg c)
  | .work worker outcome =>
      match s.running[worker]? with
      | some (.call e _) =>
          if s.shared.waits worker e then s else s.work (perform worker outcome) worker
      | _ => s
  | action => s.outside fun shared => outsideEffect shared action

/-- Nothing in the tables, and no call yet. -/
def initial : System := ⟨⟨.empty, ∅, 0, [], [], ∅, ∅⟩, []⟩

abbrev run (cfg : Config) (s : System) (actions : List Action) : System :=
  Runs.run (exec cfg) s actions

end Paymap.Api.MerchantSessions
