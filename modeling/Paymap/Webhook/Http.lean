import Paymap.Shared.WebhookSignature
import Paymap.Shared.WebhookUrlGuard
import Paymap.Webhook.Deliveries

set_option autoImplicit false

/-! # Sending a webhook

`apps/relayer/src/webhook-http.ts`: the URL is checked again right before it is sent to, and the connection
is made to the first of the addresses that were checked, whatever the host resolves to by then.
-/

namespace Paymap.Webhook.Http

open Shared (Hmac signWebhookPayload webhookSignatureHeader)
open Shared.UrlGuard
open Js (Number Str)
open IpText (isIP ipv4Value ipv6Value)

structure SendWebhookInput where
  url : Str
  eventId : Str
  timestampSeconds : Number
  rawBody : Str
  secret : Str
  allowInsecureHttp : Bool
  allowPrivateAddresses : Bool
  timeoutMs : Option ℕ

def defaultTimeoutMs : ℕ := 10000

/-- `pinnedDispatcher`: what it resolves a host to. -/
def pinnedDispatcher (pinned : ResolvedHostAddress) : Str → ResolvedHostAddress := fun _ => pinned

/-- What is passed to `fetch`, for a `POST` that follows no redirect. -/
structure FetchRequest where
  url : Str
  headers : List (String × Str)
  body : Str
  timeoutMs : ℕ
  lookup : Str → ResolvedHostAddress

/-- What becomes of it. -/
inductive FetchResult where
  | response (status : ℕ) (location : Option String)
  | timedOut
  | failed (message : String)

structure Deps where
  net : Resolving
  hmac : Hmac
  fetch : FetchRequest → FetchResult

/-- The outcome of a request. -/
def outcomeOf : FetchResult → SendOutcome
  | .response status location =>
      if 300 ≤ status ∧ status < 400 then .redirect status location else .http status
  | .timedOut => .timeout
  | .failed message => .networkError message

def SendWebhookInput.options (input : SendWebhookInput) : AssertSafeWebhookUrlOptions where
  allowInsecureHttp := input.allowInsecureHttp
  allowPrivateAddresses := input.allowPrivateAddresses

def requestOf (hmac : Hmac) (input : SendWebhookInput) (pinned : ResolvedHostAddress) : FetchRequest where
  url := input.url
  headers := [("content-type", "application/json".toList), (webhookSignatureHeader,
    signWebhookPayload hmac input.secret ⟨input.timestampSeconds, input.eventId, input.rawBody⟩)]
  body := input.rawBody
  timeoutMs := input.timeoutMs.getD defaultTimeoutMs
  lookup := pinnedDispatcher pinned

/-- `sendWebhook`: the request that is made, if one is, and the outcome. -/
def sendWebhook (deps : Deps) (input : SendWebhookInput) : Option FetchRequest × SendOutcome :=
  match assertSafeWebhookUrl deps.net input.url input.options with
  | .error e => (none, .ssrfBlocked e.message)
  | .ok guard =>
      match guard.resolvedAddresses.head? with
      | none =>
          (none, .ssrfBlocked "No resolved address available to pin the delivery connection to.")
      | some pinned =>
          let request := requestOf deps.hmac input pinned
          (some request, outcomeOf (deps.fetch request))

/-- **The connection is pinned** to an address that was checked. -/
theorem sendWebhook_pinned {deps : Deps} {input : SendWebhookInput} {info : SafeWebhookUrlInfo}
    (h : assertSafeWebhookUrl deps.net input.url input.options = .ok info)
    (hprivate : input.allowPrivateAddresses = false) :
    ∃ request, (sendWebhook deps input).1 = some request ∧ ∀ hostname,
      request.lookup hostname ∈ info.resolvedAddresses ∧
        isBlockedAddress (request.lookup hostname).address = false := by
  obtain ⟨hne, hchecked⟩ := assertSafeWebhookUrl_ok h
  obtain ⟨pinned, rest, hlist⟩ := List.exists_cons_of_ne_nil hne
  have hmem : pinned ∈ info.resolvedAddresses := by
    rw [hlist]
    exact List.mem_cons_self
  refine ⟨requestOf deps.hmac input pinned, ?_, fun _ => ⟨hmem, hchecked hprivate pinned hmem⟩⟩
  unfold sendWebhook
  simp only [h, hlist, List.head?_cons]

/-- **The guard decides by the address** for the texts of all IPv4 addresses, and for the texts of IPv6
addresses exactly if they are not misread; and what is sent to is an address that it let through. -/
theorem guard_decides_iff (address : Str) (deps : Deps) (input : SendWebhookInput)
    (info : SafeWebhookUrlInfo) :
    (isIP address = 4 → (isBlockedAddress address = true ↔ Listed (ipv4Value address))) ∧
    (isIP address = 6 →
      ((isBlockedAddress address = true ↔ Documented (ipv6Value address)) ↔ ¬ Misread address)) ∧
    (assertSafeWebhookUrl deps.net input.url input.options = .ok info →
      input.allowPrivateAddresses = false →
      ∃ request, (sendWebhook deps input).1 = some request ∧ ∀ hostname,
        request.lookup hostname ∈ info.resolvedAddresses ∧
          isBlockedAddress (request.lookup hostname).address = false) :=
  ⟨isBlockedAddress_ipv4, isBlockedAddress_ipv6, sendWebhook_pinned⟩

/-! ## Two spellings -/

def spelledLoopback : Str := "0:0:0:0:0:0:0:1".toList

def shortGroup : Str := "fc::1".toList

/-- **The loopback address is let through** when all its groups are written, and `fc::1`, which is in no
documented range, is refused. -/
theorem misread_both_ways :
    (isIP spelledLoopback = 6 ∧ ipv6Value spelledLoopback = 1 ∧ isBlockedAddress spelledLoopback = false) ∧
    (isIP shortGroup = 6 ∧ ipv6Value shortGroup = 0xfc * 2 ^ 112 + 1 ∧
      isBlockedAddress shortGroup = true) ∧
    ¬ (isBlockedAddress spelledLoopback = true ↔ Documented (ipv6Value spelledLoopback)) ∧
    ¬ (isBlockedAddress shortGroup = true ↔ Documented (ipv6Value shortGroup)) := by
  refine ⟨⟨?_, ?_, ?_⟩, ⟨?_, ?_, ?_⟩, ?_, ?_⟩ <;> decide +kernel

end Paymap.Webhook.Http
