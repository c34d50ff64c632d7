import Paymap.Lib.Tx
import Paymap.Shared.WebhookSecret
import Paymap.Webhook.Envelopes
import Paymap.Webhook.Http
import Paymap.Webhook.System

set_option autoImplicit false

/-! # Endpoints of merchants

`apps/api/src/routes/webhook-endpoints.ts`, with which a merchant says where its webhooks go and is told,
once, the secret they are signed with. `exec` runs these routes beside the delivery workers, whose requests
are made by `sendWebhook`; a step of a worker comes with the state of the network it is made in.
-/

namespace Paymap.Webhook.Endpoints

open Js (Str)
open Relayer (Uuid Time)
open Paymap.Shared (Crypto Hmac Signed)
open Paymap.Shared.UrlGuard (AssertSafeWebhookUrlOptions Resolving SafeWebhookUrlInfo UnsafeWebhookUrlError
  assertSafeWebhookUrl)
open Tx (rejectIf)

/-- What the API and the workers are configured with alike. -/
structure Config where
  crypto : Crypto
  hmac : Hmac
  /-- `z.string().url()`. -/
  isUrl : Str → Bool
  webhookEncryptionKey : String
  allowInsecureWebhookHttp : Bool
  allowPrivateWebhookAddresses : Bool

namespace Config

variable (cfg : Config)

def options : AssertSafeWebhookUrlOptions where
  allowInsecureHttp := cfg.allowInsecureWebhookHttp
  allowPrivateAddresses := cfg.allowPrivateWebhookAddresses

def deps : WebhookDeliveryDeps where
  webhookEncryptionKey := cfg.webhookEncryptionKey
  decryptWebhookSecret stored key :=
    match Shared.decryptWebhookSecret cfg.crypto stored.toList key.toList with
    | .ok secret => .ok (.ofList secret)
    | .error _ => .error .webhookSecretCryptoError
  allowInsecureWebhookHttp := cfg.allowInsecureWebhookHttp
  allowPrivateWebhookAddresses := cfg.allowPrivateWebhookAddresses

end Config

/-! ## The routes -/

inductive RouteError where
  /-- The body is not what the schema says. -/
  | validation
  | badRequest (e : UnsafeWebhookUrlError)
  | crypto (e : Shared.WebhookSecretCryptoError)
  | merchantNotFound

section

variable (cfg : Config) (net : Resolving)

/-- `WebhookUrlSchema`. -/
def webhookUrlSchema (url : Str) : Bool :=
  cfg.isUrl url && ("http://".toList.isPrefixOf url || "https://".toList.isPrefixOf url)

def guardedWebhookUrl (url : Str) : Except RouteError Unit :=
  match assertSafeWebhookUrl net url cfg.options with
  | .error e => .error (.badRequest e)
  | .ok _ => .ok ()

/-- `POST /webhook-endpoints`: the secret the merchant is told, which is stored encrypted. -/
def registerWebhookEndpoint (random : Vector UInt8 24) (iv : Vector UInt8 Shared.ivLengthBytes)
    (merchantId : Uuid) (url : String) (db : Db) : Except RouteError (Str × Db) := do
  rejectIf (¬ webhookUrlSchema cfg url.toList) .validation
  guardedWebhookUrl cfg net url.toList
  let rawSecret := Shared.generateWebhookSecret random
  match Shared.encryptWebhookSecret cfg.crypto rawSecret cfg.webhookEncryptionKey.toList iv with
  | .error e => .error (.crypto e)
  | .ok encryptedSecret =>
      match db.merchants.lookup merchantId with
      | none => .error .merchantNotFound
      | some _ =>
          let merchant : Merchant := ⟨some url, some (.ofList encryptedSecret)⟩
          return (rawSecret, { db with merchants := db.merchants.insert merchantId merchant })

/-- The data of a test event. -/
def testData (url : String) : JsonValue :=
  .object [(codePoints "url", .string (codePoints url)),
    (codePoints "message", .string (codePoints "This is a test event from Paymap."))]

/-- `POST /webhook-endpoints/test`. -/
def testWebhookEndpoint (random : Vector UInt8 32) (id merchantId : Uuid) (url : String) (now : Time)
    (db : Db) : Except RouteError Db := do
  rejectIf (¬ webhookUrlSchema cfg url.toList) .validation
  guardedWebhookUrl cfg net url.toList
  return createDelivery now db id merchantId (randomHexId32 random) "webhook.test"
    (.ofList (testData url).stringify)

end

/-! ## Requests -/

/-- The arguments of `sendWebhook`, with the text of the body. -/
def wireInput (input : SendWebhookInput) : Http.SendWebhookInput where
  url := input.url.toList
  eventId := input.eventId.toList
  timestampSeconds := .finite (input.timestampSeconds : ℚ)
  rawBody := input.rawBody.rawBody
  secret := input.secret.toList
  allowInsecureHttp := input.allowInsecureHttp
  allowPrivateAddresses := input.allowPrivateAddresses
  timeoutMs := none

/-- What the network does with a request. -/
structure Web where
  net : Resolving
  fetch : Http.FetchRequest → Http.FetchResult

/-- The request that is made, if one is, and the outcome. -/
def sendWebhook (cfg : Config) (web : Web) (input : SendWebhookInput) :
    Option Http.FetchRequest × SendOutcome :=
  Http.sendWebhook ⟨web.net, cfg.hmac, web.fetch⟩ (wireInput input)

/-! ## Runs -/

inductive Fate where
  | answered
  | lost
  /-- The worker's process does not get the answer. -/
  | unanswered
deriving DecidableEq

/-- The queue and the clock go their way, and processes end. -/
def IsBackground : Action → Bool
  | .tick _ => true
  | .schedule => true
  | .take _ => true
  | .crash _ => true
  | .report _ => true
  | .stall _ => true
  | .stallFail _ => true
  | _ => false

inductive Act where
  /-- A merchant signs up, without an endpoint. -/
  | createMerchant (id : Uuid)
  | register (merchantId : Uuid) (url : String) (net : Resolving) (random : Vector UInt8 24)
      (iv : Vector UInt8 Shared.ivLengthBytes)
  | test (id merchantId : Uuid) (url : String) (net : Resolving) (random : Vector UInt8 32)
  /-- An event: `enqueueChargeWebhook`, or `enqueueDeterministicWebhook`. -/
  | enqueue (id merchantId : Uuid) (eventId : EventId) (eventType : String) (payload : JsonValue)
  | work (worker : ℕ) (web : Web) (fate : Fate)
  | background (action : Action) (isBackground : IsBackground action = true)

/-- What a worker is about to send. -/
def sending? (s : System) (worker : ℕ) : Option SendWebhookInput :=
  match s.running[worker]? with
  | some (.call (.send input) _) => some input
  | _ => none

/-- Only a request has an outcome of its own. -/
def reply (cfg : Config) (s : System) (worker : ℕ) (web : Web) : Fate → Reply
  | .answered => .served (((sending? s worker).map fun input => (sendWebhook cfg web input).2).getD .timeout)
  | .lost => .lost
  | .unanswered => .unanswered

def updateDb (s : System) (db : Db) : System := { s with shared := { s.shared with db := db } }

def exec (cfg : Config) (s : System) : Act → System
  | .createMerchant id =>
      if (s.shared.db.merchants.lookup id).isSome then s
      else Webhook.exec cfg.deps s (.setMerchant id ⟨none, none⟩)
  | .register merchantId url net random iv =>
      match registerWebhookEndpoint cfg net random iv merchantId url s.shared.db with
      | .ok (_, db) => updateDb s db
      | .error _ => s
  | .test id merchantId url net random =>
      match testWebhookEndpoint cfg net random id merchantId url s.shared.clock s.shared.db with
      | .ok db => updateDb s db
      | .error _ => s
  | .enqueue id merchantId eventId eventType payload =>
      Webhook.exec cfg.deps s (.create id merchantId eventId eventType (.ofList payload.stringify))
  | .work worker web fate => Webhook.exec cfg.deps s (.work worker (reply cfg s worker web fate))
  | .background action _ => Webhook.exec cfg.deps s action

/-- What merchants are told, and what they are sent. -/
inductive Deed where
  | registered (merchantId : Uuid) (url secret : Str)
  | posted (input : SendWebhookInput) (request : Http.FetchRequest)

def deeds (cfg : Config) (s : System) : Act → List Deed
  | .register merchantId url net random iv =>
      match registerWebhookEndpoint cfg net random iv merchantId url s.shared.db with
      | .ok (rawSecret, _) => [.registered merchantId url.toList rawSecret]
      | .error _ => []
  | .work worker web fate =>
      if fate = .lost then []
      else ((sending? s worker).bind fun input =>
        (sendWebhook cfg web input).1.map (Deed.posted input)).toList
  | _ => []

abbrev run (cfg : Config) (acts : List Act) : System := Runs.run (exec cfg) initial acts

/-- What was done in a run. -/
def history (cfg : Config) (acts : List Act) : List Deed := Runs.notes (exec cfg) (deeds cfg) initial acts

/-- The header that a request is signed in. -/
def signatureOf (request : Http.FetchRequest) : Str :=
  (request.headers.lookup Shared.webhookSignatureHeader).getD []

/-- What has been signed with a secret. -/
def signedWith (secret : Str) (h : List Deed) : Set Signed :=
  {s | ∃ input request, .posted input request ∈ h ∧ (wireInput input).secret = secret ∧
    s = ⟨(wireInput input).timestampSeconds, (wireInput input).eventId, (wireInput input).rawBody⟩}

end Paymap.Webhook.Endpoints
