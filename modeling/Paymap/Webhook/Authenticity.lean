import Paymap.Webhook.Provenance

set_option autoImplicit false

/-! # Webhooks that can be trusted

What a merchant can rely on who verifies its webhooks with the secret it was told, in every run of the API
and the delivery workers. A request comes with a header that is accepted, and says what the row says
(`posted_is_accepted`); two requests have one body exactly if they are for one event, so that the event id
is what to look for when an attempt was repeated (`same_body_iff`). And nothing is accepted that was not
sent, word for word (`accepted_was_posted`): the messages that are signed here have one cut each.
-/

namespace Paymap.Webhook.Endpoints

open Js (Str Number)
open Paymap.Shared (Accepts Binds IsMac Unforged CutsOneWay Signed VerifyWebhookSignatureInput
  defaultWebhookToleranceSeconds hmacHex mockHmac parseWebhookSignatureHeader verifyWebhook
  verifyWebhookSignature withinTolerance)

/-! ## One request -/

/-- The last millisecond that a `Date` can hold. -/
def maxTime : ℕ := 8640000000000000

section

variable {cfg : Config} {acts : List Act} {before after h : List Deed} {input : SendWebhookInput}
  {request : Http.FetchRequest}

/-- A timestamp is within the tolerance of the receiver, whose clock says `now`. -/
def InTime (toleranceSeconds : Option Number) (now : ℤ) (timestampSeconds : ℕ) : Prop :=
  withinTolerance (VerifyWebhookSignatureInput.nowSeconds ⟨[], [], [], toleranceSeconds, now⟩)
    (toleranceSeconds.getD defaultWebhookToleranceSeconds) (.finite (timestampSeconds : ℚ)) = true

/-- What is so of a request in a run. -/
structure Posted (cfg : Config) (s : Shared) (before : List Deed) (input : SendWebhookInput)
    (request : Http.FetchRequest) (id : Relayer.Uuid) (row : WebhookDelivery) : Prop where
  stored : s.db.webhookDeliveries.lookup id = some row
  isEventId : IsEventId row.eventId
  registered : .registered row.merchantId request.url input.secret.toList ∈ before
  seconds_lt : input.timestampSeconds < 2 ^ 53
  eventId : input.eventId = row.eventId
  rawBody : input.rawBody = envelope row
  request_eq : ∃ pinned, request = Http.requestOf cfg.hmac (wireInput input) pinned

theorem posted_of_run (hcrypto : cfg.crypto.Sound) (hclock : (run cfg acts).shared.clock ≤ maxTime)
    (hposted : history cfg acts = before ++ .posted input request :: after) :
    ∃ id row, Posted cfg (run cfg acts).shared before input request id row := by
  obtain ⟨stages, -, hsound⟩ := tracked_run hcrypto acts
  obtain ⟨id, delivery, url, secret, now, pinned, ⟨row, hrow, hsame⟩, hregistered, hnow, rfl, rfl⟩ :=
    hsound.accounted before _ after hposted
  refine ⟨id, row, hrow, (hsound.rows id row hrow).1, ?_, ?_, hsame.eventId.symm,
    hsame.envelope_eq.symm, pinned, rfl⟩
  · rw [hsame.merchantId]
    show Deed.registered delivery.merchantId url.toList (String.ofList secret).toList ∈ before
    rwa [String.toList_ofList]
  · calc now / 1000 ≤ now := Nat.div_le_self now 1000
      _ ≤ maxTime := hnow.trans hclock
      _ < 2 ^ 53 := by decide

/-- The header that a request was signed in. -/
theorem signatureOf_requestOf (hmac : Paymap.Shared.Hmac) (input : Http.SendWebhookInput)
    (pinned : Paymap.Shared.UrlGuard.ResolvedHostAddress) :
    signatureOf (Http.requestOf hmac input pinned) = Paymap.Shared.signWebhookPayload hmac input.secret
      ⟨input.timestampSeconds, input.eventId, input.rawBody⟩ := by
  have hne : (Paymap.Shared.webhookSignatureHeader == "content-type") = false := by decide
  simp [signatureOf, Http.requestOf, List.lookup_cons, hne]

end

/-! ## Accepted -/

section

variable {cfg : Config} {s : Shared} {before h : List Deed} {input : SendWebhookInput}
  {request : Http.FetchRequest} {id : Relayer.Uuid} {row : WebhookDelivery}

theorem Posted.body_eq (h : Posted cfg s before input request id row) :
    request.body = (envelope row).rawBody := by
  obtain ⟨pinned, rfl⟩ := h.request_eq
  show input.rawBody.rawBody = _
  rw [h.rawBody]

theorem Posted.signature_eq (h : Posted cfg s before input request id row) :
    signatureOf request = Paymap.Shared.signWebhookPayload cfg.hmac input.secret.toList
      ((envelope row).signed input.timestampSeconds) := by
  obtain ⟨pinned, rfl⟩ := h.request_eq
  rw [signatureOf_requestOf, WebhookEventEnvelope.signed, ← h.rawBody,
    show input.rawBody.eventId = input.eventId by rw [h.rawBody, h.eventId]; rfl]
  rfl

/-- Its own secret accepts the header of a request, as long as the timestamp is in time. -/
theorem Posted.verify (hmac_ok : IsMac cfg.hmac) (h : Posted cfg s before input request id row)
    {toleranceSeconds : Option Number} {now : ℤ}
    (hwithin : InTime toleranceSeconds now input.timestampSeconds) :
    verifyWebhook cfg.hmac
        ⟨request.body, signatureOf request, input.secret.toList, toleranceSeconds, now⟩
      = .ok (row.eventId.toList, .finite (input.timestampSeconds : ℚ)) := by
  have hdouble : Js.IsDouble ((input.timestampSeconds : ℤ) : ℚ) := by
    exact_mod_cast Js.isDouble_natCast h.seconds_lt
  have haccepts : Accepts cfg.hmac input.secret.toList toleranceSeconds now :=
    Paymap.Shared.accepts hmac_ok
  have haccepted := haccepts input.timestampSeconds row.eventId.toList request.body
    h.isEventId.isValue hdouble (by rw [Int.cast_natCast]; exact hwithin)
  rw [Int.cast_natCast] at haccepted
  obtain ⟨parsed, hverify, hid, htime⟩ := haccepted
  have hheader : signatureOf request = Paymap.Shared.signWebhookPayload cfg.hmac input.secret.toList
      ⟨.finite (input.timestampSeconds : ℚ), row.eventId.toList, request.body⟩ := by
    rw [h.signature_eq, h.body_eq]
    rfl
  rw [verifyWebhook, hheader, hverify, ← hid, ← htime]
  rfl

/-- The header of a request is no forgery to the one who sends it. -/
theorem Posted.unforged (hmac_ok : IsMac cfg.hmac) (hposted : Posted cfg s before input request id row)
    (hmem : .posted input request ∈ h) :
    Unforged cfg.hmac input.secret.toList (signedWith input.secret.toList h) (signatureOf request) := by
  intro parsed message hparse hdecode
  set signed := (envelope row).signed input.timestampSeconds
  have hdouble : Js.IsDouble ((input.timestampSeconds : ℤ) : ℚ) := by
    exact_mod_cast Js.isDouble_natCast hposted.seconds_lt
  have hnumber := Js.number_text hdouble
  have hinteger : (Js.number (Number.finite ((input.timestampSeconds : ℤ) : ℚ)).text).isInteger = true := by
    rw [hnumber]
    exact decide_eq_true (Rat.den_intCast (input.timestampSeconds : ℤ))
  have hread := Paymap.Shared.parse_headerOf (Paymap.Shared.isValue_text hdouble)
    hposted.isEventId.isValue
    (Paymap.Shared.isValue_hmacHex hmac_ok input.secret.toList signed.canonicalString) hinteger
  rw [Int.cast_natCast] at hread
  rw [hposted.signature_eq] at hparse
  cases hparse.symm.trans hread
  refine ⟨signed, ⟨input, request, hmem, rfl, ?_⟩, ?_⟩
  · show signed = ⟨.finite (input.timestampSeconds : ℚ), input.eventId.toList, input.rawBody.rawBody⟩
    rw [hposted.eventId, hposted.rawBody]
    rfl
  · apply hmac_ok.injective input.secret.toList
    rw [← hdecode]
    exact Hex.decode_encode _

end

/-- What a merchant can rely on: the request goes where it has registered an endpoint, says what the row
says, and is accepted with the secret that it was told at the registration. -/
def Authentic (cfg : Config) (s : Shared) (before : List Deed) (input : SendWebhookInput)
    (request : Http.FetchRequest) : Prop :=
  ∃ id row secret, s.db.webhookDeliveries.lookup id = some row ∧
    .registered row.merchantId request.url secret ∈ before ∧
    (∃ data : JsonValue, row.payload = .ofList data.stringify ∧
      request.body = ((envelope row).json data).stringify) ∧
    ∀ toleranceSeconds now, InTime toleranceSeconds now input.timestampSeconds →
      verifyWebhook cfg.hmac ⟨request.body, signatureOf request, secret, toleranceSeconds, now⟩
        = .ok (row.eventId.toList, .finite (input.timestampSeconds : ℚ))

/-- **A request is accepted.** -/
theorem posted_is_accepted {cfg : Config} (hcrypto : cfg.crypto.Sound) (hmac_ok : IsMac cfg.hmac)
    {acts : List Act} (hclock : (run cfg acts).shared.clock ≤ maxTime) {before after : List Deed}
    {input : SendWebhookInput} {request : Http.FetchRequest}
    (hposted : history cfg acts = before ++ .posted input request :: after) :
    Authentic cfg (run cfg acts).shared before input request := by
  obtain ⟨id, row, h⟩ := posted_of_run hcrypto hclock hposted
  obtain ⟨stages, -, hsound⟩ := tracked_run hcrypto acts
  obtain ⟨-, data, hdata⟩ := hsound.rows id row h.stored
  refine ⟨id, row, input.secret.toList, h.stored, h.registered, ⟨data, hdata, ?_⟩,
    fun toleranceSeconds now hwithin => h.verify hmac_ok hwithin⟩
  rw [h.body_eq]
  exact WebhookEventEnvelope.rawBody_eq_stringify hdata

/-! ## One body for one event -/

/-- The body begins with the event id. -/
theorem rawBody_eventId (e : WebhookEventEnvelope) : ∃ rest, e.rawBody =
    '{' :: (quote (codePoints "eventId") ++ ':' :: (quote (codePoints e.eventId) ++ rest)) := by
  unfold WebhookEventEnvelope.rawBody fieldText
  rw [List.append_assoc, List.cons_append]
  exact ⟨_, rfl⟩

theorem eventId_eq_of_rawBody {e e' : WebhookEventEnvelope} (h : e.rawBody = e'.rawBody) :
    codePoints e.eventId = codePoints e'.eventId := by
  obtain ⟨rest, hrest⟩ := rawBody_eventId e
  obtain ⟨rest', hrest'⟩ := rawBody_eventId e'
  rw [hrest, hrest'] at h
  obtain ⟨-, hvalue⟩ := quote_append_inj (List.cons.inj h).2
  exact (quote_append_inj (List.cons.inj hvalue).2).1

theorem codePoints_injective : Function.Injective codePoints := by
  intro t t' h
  have hscalar : Function.Injective CodePoint.scalar := fun c c' heq => CodePoint.scalar.inj heq
  exact String.toList_injective (List.map_injective_iff.mpr hscalar h)

/-- **Two requests have one body** exactly if they are for one event: an attempt that is repeated says the
same again, whatever became of the row in between. -/
theorem same_body_iff {cfg : Config} (hcrypto : cfg.crypto.Sound) {acts : List Act}
    (hclock : (run cfg acts).shared.clock ≤ maxTime) {input input' : SendWebhookInput}
    {request request' : Http.FetchRequest} (hposted : .posted input request ∈ history cfg acts)
    (hposted' : .posted input' request' ∈ history cfg acts) :
    request.body = request'.body ↔ input.eventId = input'.eventId := by
  obtain ⟨before, after, hsplit⟩ := List.append_of_mem hposted
  obtain ⟨before', after', hsplit'⟩ := List.append_of_mem hposted'
  obtain ⟨id, row, h⟩ := posted_of_run hcrypto hclock hsplit
  obtain ⟨id', row', h'⟩ := posted_of_run hcrypto hclock hsplit'
  obtain ⟨stages, -, hsound⟩ := tracked_run hcrypto acts
  rw [h.body_eq, h'.body_eq, h.eventId, h'.eventId]
  constructor
  · intro hbody
    exact codePoints_injective (eventId_eq_of_rawBody hbody)
  · intro heq
    obtain rfl := hsound.unique id id' row row' h.stored h'.stored heq
    rw [Option.some.inj (h.stored.symm.trans h'.stored)]

/-! ## Nothing else is accepted -/

/-- What is signed in a run has one cut. -/
theorem cutsOneWay_run {cfg : Config} (hcrypto : cfg.crypto.Sound) {acts : List Act}
    (hclock : (run cfg acts).shared.clock ≤ maxTime) (secret : Str) (toleranceSeconds : Option Number)
    (now : ℤ) : CutsOneWay (signedWith secret (history cfg acts)) toleranceSeconds now := by
  rintro s ⟨input, request, hmem, hsecret, rfl⟩ s' hreadable hsame
  obtain ⟨before, after, hsplit⟩ := List.append_of_mem hmem
  obtain ⟨id, row, h⟩ := posted_of_run hcrypto hclock hsplit
  have hsigned : (⟨(wireInput input).timestampSeconds, (wireInput input).eventId,
      (wireInput input).rawBody⟩ : Signed) = (envelope row).signed input.timestampSeconds := by
    show (⟨.finite (input.timestampSeconds : ℚ), input.eventId.toList, input.rawBody.rawBody⟩ : Signed) = _
    rw [h.eventId, h.rawBody]
    rfl
  rw [hsigned] at hsame
  refine ⟨input, request, hmem, hsecret, ?_⟩
  rw [hsigned]
  exact eq_of_canonicalString h.isEventId h.seconds_lt hreadable hsame

/-- **What is accepted was sent**: a body that is accepted with a secret, under a header that nobody has
forged, is the body of a request that was signed with the secret, and the event id is that of its row. -/
theorem accepted_was_posted {cfg : Config} (hcrypto : cfg.crypto.Sound) {acts : List Act}
    (hclock : (run cfg acts).shared.clock ≤ maxTime) {secret header body eventId : Str} {time : Number}
    {toleranceSeconds : Option Number} {now : ℤ}
    (hunforged : Unforged cfg.hmac secret (signedWith secret (history cfg acts)) header)
    (hverify : verifyWebhook cfg.hmac ⟨body, header, secret, toleranceSeconds, now⟩ = .ok (eventId, time)) :
    ∃ input request id row, .posted input request ∈ history cfg acts ∧ input.secret.toList = secret ∧
      request.body = body ∧ time = .finite (input.timestampSeconds : ℚ) ∧
      (run cfg acts).shared.db.webhookDeliveries.lookup id = some row ∧ row.eventId.toList = eventId ∧
      body = (envelope row).rawBody := by
  have hbinds : Binds cfg.hmac secret (signedWith secret (history cfg acts)) toleranceSeconds now :=
    Paymap.Shared.binds_of_cutsOneWay (cutsOneWay_run hcrypto hclock secret toleranceSeconds now)
  cases hparsed : verifyWebhookSignature cfg.hmac ⟨body, header, secret, toleranceSeconds, now⟩ with
  | error e =>
      rw [verifyWebhook, hparsed] at hverify
      cases hverify
  | ok parsed =>
      rw [verifyWebhook, hparsed] at hverify
      obtain ⟨rfl, rfl⟩ := Prod.mk.inj (Except.ok.inj hverify)
      obtain ⟨input, request, hmem, hsecret, heq⟩ := hbinds header body parsed hunforged hparsed
      obtain ⟨htime, hid, hbody⟩ := Signed.mk.inj heq
      obtain ⟨before, after, hsplit⟩ := List.append_of_mem hmem
      obtain ⟨id, row, h⟩ := posted_of_run hcrypto hclock hsplit
      have hrow : body = (envelope row).rawBody := by
        rw [hbody, ← h.rawBody]
        rfl
      refine ⟨input, request, id, row, hmem, hsecret, h.body_eq.trans hrow.symm, htime, h.stored, ?_, hrow⟩
      rw [hid, ← h.eventId]
      rfl

/-! ## A run

A merchant registers, and one test event is sent. In another run the first attempt fails, and the event is
sent again. -/

section

def mockCrypto : Paymap.Shared.Crypto where
  sha256 _ := List.replicate 32 0
  encrypt _ _ plaintext := (plaintext, List.replicate 16 0)
  decrypt _ _ tag ciphertext := if tag = List.replicate 16 0 then some ciphertext else none
  replaced _ := []

theorem mockCrypto_sound : mockCrypto.Sound where
  length_sha256 _ := rfl
  decrypt_encrypt _ _ _ _ _ := rfl

def mockConfig : Config where
  crypto := mockCrypto
  hmac := mockHmac
  isUrl _ := true
  webhookEncryptionKey := "k"
  allowInsecureWebhookHttp := false
  allowPrivateWebhookAddresses := false

def mockWeb : Web where
  net := ⟨fun _ => some ⟨"https:".toList, "93.184.216.34".toList⟩, fun _ => none⟩
  fetch _ := .response 200 none

def mockActs : List Act :=
  [.createMerchant 1, .register 1 "https://m" mockWeb.net (.replicate 24 0) (.replicate 12 0),
    .test 7 1 "https://m" mockWeb.net (.replicate 32 0), .background .schedule rfl,
    .background (.take 7) rfl, .work 0 mockWeb .answered, .work 0 mockWeb .answered,
    .work 0 mockWeb .answered, .work 0 mockWeb .answered, .work 0 mockWeb .answered]

def Deed.isPosted : Deed → Bool
  | .registered _ _ _ => false
  | .posted _ _ => true

theorem exists_posted {h : List Deed} (hany : h.any Deed.isPosted = true) :
    ∃ before input request after, h = before ++ .posted input request :: after := by
  obtain ⟨d, hmem, hd⟩ := List.any_eq_true.mp hany
  obtain ⟨before, after, hsplit⟩ := List.append_of_mem hmem
  cases d with
  | registered merchantId url secret => cases hd
  | posted input request => exact ⟨before, input, request, after, hsplit⟩

theorem mock_posts : (history mockConfig mockActs).any Deed.isPosted = true := by decide +kernel

theorem mock_clock : (run mockConfig mockActs).shared.clock ≤ maxTime := by decide +kernel

/-- What arrives in the second in which it was signed is in time. -/
theorem inTime_self (n : ℕ) : InTime none (n * 1000 : ℕ) n := by
  have hseconds : (((n * 1000 : ℕ) : ℤ) / 1000 : ℤ) = n := by omega
  have hzero : (Number.finite ((n : ℤ) : ℚ)).sub (.finite (n : ℚ)) = .finite 0 := by
    show Number.round (((n : ℤ) : ℚ) - n) = .finite 0
    rw [Int.cast_natCast, sub_self]
    exact Number.round_zero
  unfold InTime VerifyWebhookSignatureInput.nowSeconds withinTolerance
  dsimp only
  rw [hseconds, hzero]
  decide

theorem posted_is_accepted_mock : ∃ before input request after,
    history mockConfig mockActs = before ++ .posted input request :: after ∧
    Authentic mockConfig (run mockConfig mockActs).shared before input request := by
  obtain ⟨before, input, request, after, hposted⟩ := exists_posted mock_posts
  exact ⟨before, input, request, after, hposted,
    posted_is_accepted mockCrypto_sound Paymap.Shared.mockHmac_isMac mock_clock hposted⟩

/-- The merchant's server fails at the first attempt. The job stalls before it is reported, and a minute
later another worker takes it. -/
def mockRepeated : List Act :=
  mockActs.take 5 ++
    List.replicate 7 (.work 0 ⟨mockWeb.net, fun _ => .response 500 none⟩ .answered) ++
    [.background (.stall 7) rfl, .background (.tick 61000) rfl, .background (.take 7) rfl] ++
    List.replicate 5 (.work 1 mockWeb .answered)

/-- The event of a request, and the second in which it was signed. -/
def Deed.sent? : Deed → Option (String × ℕ)
  | .registered _ _ _ => none
  | .posted input _ => some (input.eventId, input.timestampSeconds)

theorem Deed.posted_of_sent {d : Deed} {eventId : String} {seconds : ℕ}
    (h : d.sent? = some (eventId, seconds)) : ∃ input request, d = .posted input request ∧
      input.eventId = eventId ∧ input.timestampSeconds = seconds := by
  cases d with
  | registered merchantId url secret => cases h
  | posted input request =>
      obtain ⟨hid, hseconds⟩ := Prod.mk.inj (Option.some.inj h)
      exact ⟨input, request, rfl, hid, hseconds⟩

theorem mock_repeats : (history mockConfig mockRepeated).map Deed.sent?
    = [none, some (String.ofList (.replicate 64 '0'), 0),
        some (String.ofList (.replicate 64 '0'), 61)] := by decide +kernel

theorem mockRepeated_clock : (run mockConfig mockRepeated).shared.clock ≤ maxTime := by decide +kernel

/-- Two attempts, a minute apart, with one body. -/
theorem same_body_iff_mock : ∃ told input request input' request',
    history mockConfig mockRepeated = [told, .posted input request, .posted input' request'] ∧
    input.timestampSeconds = 0 ∧ input'.timestampSeconds = 61 ∧ request.body = request'.body := by
  obtain ⟨told, rest, hhistory, -, hrest⟩ := List.map_eq_cons_iff.mp mock_repeats
  obtain ⟨d, rest', rfl, hsent, hrest'⟩ := List.map_eq_cons_iff.mp hrest
  obtain ⟨d', rest'', rfl, hsent', hnil⟩ := List.map_eq_cons_iff.mp hrest'
  obtain rfl := List.map_eq_nil_iff.mp hnil
  obtain ⟨input, request, rfl, hid, hseconds⟩ := Deed.posted_of_sent hsent
  obtain ⟨input', request', rfl, hid', hseconds'⟩ := Deed.posted_of_sent hsent'
  have hmem : .posted input request ∈ history mockConfig mockRepeated := by simp [hhistory]
  have hmem' : .posted input' request' ∈ history mockConfig mockRepeated := by simp [hhistory]
  exact ⟨told, input, request, input', request', hhistory, hseconds, hseconds',
    (same_body_iff mockCrypto_sound mockRepeated_clock hmem hmem').mpr (hid.trans hid'.symm)⟩

theorem accepted_was_posted_mock : ∃ input request id row,
    .posted input request ∈ history mockConfig mockActs ∧
    (run mockConfig mockActs).shared.db.webhookDeliveries.lookup id = some row ∧
    request.body = (envelope row).rawBody := by
  obtain ⟨before, input, request, after, hposted⟩ := exists_posted mock_posts
  have hmem : .posted input request ∈ history mockConfig mockActs := by simp [hposted]
  obtain ⟨id, row, h⟩ := posted_of_run mockCrypto_sound mock_clock hposted
  obtain ⟨input', request', id', row', hmem', -, hbody, -, hrow', -, heq⟩ := accepted_was_posted
    mockCrypto_sound mock_clock (h.unforged Paymap.Shared.mockHmac_isMac hmem)
    (h.verify Paymap.Shared.mockHmac_isMac (inTime_self input.timestampSeconds))
  exact ⟨input', request', id', row', hmem', hrow', hbody.trans heq⟩

end

end Paymap.Webhook.Endpoints
