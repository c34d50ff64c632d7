import Paymap.Lib.Prog
import Paymap.Webhook.Deliveries

set_option autoImplicit false

/-! # The delivery worker

`processWebhookDelivery` of `webhook-delivery.ts`, as a program over the effects it has, in the order
of the source. Exceptions that nobody catches end the job (`Prog.raise`); what is only logged or
counted is left out. The row is claimed before anything is looked up or sent, and each of the later
stages may throw.
-/

namespace Paymap.Webhook

open Relayer (Uuid Time)

/-! ## Effects -/

/-- The envelope of an event, assembled when it is sent. -/
structure WebhookEventEnvelope where
  eventId : String
  eventType : String
  createdAt : Time
  signatureVersion : String
  data : String
deriving DecidableEq

/-- `rawBody` is the serialized envelope. -/
structure SendWebhookInput where
  url : String
  eventId : String
  timestampSeconds : ℕ
  rawBody : WebhookEventEnvelope
  secret : String
  allowInsecureHttp : Bool
  allowPrivateAddresses : Bool
deriving DecidableEq

inductive Effect where
  | now
  | findWebhookDelivery (id : Uuid)
  | findMerchant (id : Uuid)
  | transition (id : Uuid) (source target : WebhookDeliveryStatus) (data : RowData)
  | send (input : SendWebhookInput)
deriving DecidableEq

/-- What an effect is answered with. `send` returns what happened to the request; `none` is an
exception it does not expect. -/
abbrev Answer : Effect → Type
  | .now => Time
  | .findWebhookDelivery _ => Except Thrown (Option WebhookDelivery)
  | .findMerchant _ => Except Thrown (Option Merchant)
  | .transition _ _ _ _ => Except Thrown Unit
  | .send _ => Option SendOutcome

abbrev Worker (α : Type) := Prog Effect Answer Thrown α

def Effect.run (e : Effect) : Worker (Answer e) := .perform e

/-- A transition whose exceptions nobody catches. -/
def transition (id : Uuid) (source target : WebhookDeliveryStatus) (data : RowData) :
    Worker Unit := do
  match ← (Effect.transition id source target data).run with
  | .ok () => return ()
  | .error e => .raise e

/-! ## `processWebhookDelivery` -/

inductive CryptoFailure where
  | webhookSecretCryptoError
  | other
deriving DecidableEq, Repr

structure WebhookDeliveryDeps where
  webhookEncryptionKey : String
  decryptWebhookSecret : (stored key : String) → Except CryptoFailure String
  allowInsecureWebhookHttp : Bool
  allowPrivateWebhookAddresses : Bool

inductive WebhookDeliveryOutcome where
  | skippedNotClaimable
  | delivered
  | retryScheduled (nextAttemptAt : Time) (reason : String)
  | deadLetter (reason : String)
deriving DecidableEq

section

variable (deps : WebhookDeliveryDeps) (webhookDeliveryId : Uuid) (delivery : WebhookDelivery)

def claimFrom : WebhookDeliveryStatus :=
  if delivery.status = .retryScheduled then .retryScheduled else .pending

def deadLetter (reason : String) : Worker WebhookDeliveryOutcome := do
  transition webhookDeliveryId .delivering .deadLetter { nextAttemptAt := some none }
  return .deadLetter reason

/-- The row is tried again as long as the schedule gives a time. -/
def retryOrDeadLetter (reason : String) (now : Time) : Worker WebhookDeliveryOutcome :=
  match nextWebhookRetryAt (delivery.attemptCount + 1) now with
  | none =>
      deadLetter webhookDeliveryId ("RETRY_SCHEDULE_EXHAUSTED (last: " ++ reason ++ ")")
  | some retryAt => do
      transition webhookDeliveryId .delivering .retryScheduled
        { nextAttemptAt := some (some retryAt) }
      return .retryScheduled retryAt reason

/-- What came of the request decides what becomes of the row. -/
def settle (outcome : SendOutcome) : Worker WebhookDeliveryOutcome :=
  match classifyWebhookDeliveryOutcome outcome with
  | .success => do
      transition webhookDeliveryId .delivering .delivered {}
      return .delivered
  | .permanent => deadLetter webhookDeliveryId (describeWebhookDeliveryOutcome outcome)
  | .retryable => do
      let now ← Effect.now.run
      retryOrDeadLetter webhookDeliveryId delivery (describeWebhookDeliveryOutcome outcome) now

/-- The merchant's endpoint; an empty string is as good as none. -/
def Merchant.endpoint? (merchant : Merchant) : Option (String × String) :=
  match merchant.webhookUrl, merchant.webhookSecret with
  | some url, some secret => if url = "" ∨ secret = "" then none else some (url, secret)
  | _, _ => none

def sendInput (url secret : String) (now : Time) : SendWebhookInput where
  url := url
  eventId := delivery.eventId
  timestampSeconds := now / 1000
  rawBody :=
    { eventId := delivery.eventId
      eventType := delivery.eventType
      createdAt := delivery.createdAt
      signatureVersion := "v1"
      data := delivery.payload }
  secret := secret
  allowInsecureHttp := deps.allowInsecureWebhookHttp
  allowPrivateAddresses := deps.allowPrivateWebhookAddresses

/-- The request to the merchant's endpoint, if there is one. -/
def deliver (merchant : Option Merchant) : Worker WebhookDeliveryOutcome :=
  match merchant.bind Merchant.endpoint? with
  | none => deadLetter webhookDeliveryId "WEBHOOK_ENDPOINT_NOT_CONFIGURED"
  | some (url, stored) =>
      match deps.decryptWebhookSecret stored deps.webhookEncryptionKey with
      | .error .webhookSecretCryptoError =>
          deadLetter webhookDeliveryId "WEBHOOK_SECRET_DECRYPT_FAILED"
      | .error .other => .raise .decryptError
      | .ok secret => do
          let now ← Effect.now.run
          match ← (Effect.send (sendInput deps delivery url secret now)).run with
          | none => .raise .sendError
          | some outcome => settle webhookDeliveryId delivery outcome

/-- The attempt, once the row is claimed. -/
def attempt : Worker WebhookDeliveryOutcome := do
  match ← (Effect.findMerchant delivery.merchantId).run with
  | .error e => .raise e
  | .ok merchant => deliver deps webhookDeliveryId delivery merchant

end

def processWebhookDelivery (deps : WebhookDeliveryDeps) (webhookDeliveryId : Uuid) :
    Worker WebhookDeliveryOutcome := do
  match ← (Effect.findWebhookDelivery webhookDeliveryId).run with
  | .error e => .raise e
  | .ok none => .raise .webhookDeliveryNotFound
  | .ok (some delivery) =>
      match ← (Effect.transition webhookDeliveryId (claimFrom delivery) .delivering
        { attemptCount := some (delivery.attemptCount + 1) }).run with
      -- somebody else has claimed it: nothing was sent yet
      | .error .invalidStateTransition => return .skippedNotClaimable
      | .error e => .raise e
      | .ok () => attempt deps webhookDeliveryId delivery

end Paymap.Webhook
