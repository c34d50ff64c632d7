import Paymap.Lib.Tx
import Paymap.Lib.Js

set_option autoImplicit false

/-! # Webhook signatures

`packages/shared/src/webhook-signature.ts`: the sender signs `timestamp.eventId.body`, puts timestamp,
event id and signature into a header, and the receiver takes the three apart again. The message has no
lengths in it, so it can be cut at another dot: what was signed for one event and body is also signed
for every other pair that spells the same message. A signature binds event and body exactly when no
signed message can be cut in another way that was not signed as well (`binds_iff`).

`createHmac("sha256", secret)` is a parameter. Texts are lists of characters, so that a body or a header with
a lone surrogate in it is left out: the text decoded from a request has none (`Json` has those that a value
may be written with).
-/

namespace Paymap.Shared

open Js (Number Str cutAt isSpace number trim)

/-! ## Signing -/

inductive WebhookSignatureErrorCode where
  | malformedHeader
  | timestampOutOfTolerance
  | signatureMismatch
deriving DecidableEq, Repr

structure WebhookSignatureError where
  code : WebhookSignatureErrorCode
  message : String
deriving DecidableEq

def webhookSignatureHeader : String := "Paymap-Signature"

def defaultWebhookToleranceSeconds : Number := .finite 300

/-- What is signed: the arguments of `canonicalString`. -/
structure Signed where
  timestampSeconds : Number
  eventId : Str
  rawBody : Str
deriving DecidableEq

def Signed.canonicalString (s : Signed) : Str :=
  s.timestampSeconds.text ++ '.' :: (s.eventId ++ '.' :: s.rawBody)

/-- HMAC-SHA256 of a secret and a message. -/
abbrev Hmac := Str → Str → List UInt8

def hmacHex (hmac : Hmac) (secret message : Str) : Str := Hex.encode (hmac secret message)

/-- The header with these fields. -/
def headerOf (t eventId v1 : Str) : Str :=
  ('t' :: '=' :: t) ++ ',' :: (('i' :: 'd' :: '=' :: eventId) ++ ',' :: ('v' :: '1' :: '=' :: v1))

def signWebhookPayload (hmac : Hmac) (secret : Str) (s : Signed) : Str :=
  headerOf s.timestampSeconds.text s.eventId (hmacHex hmac secret s.canonicalString)

/-! ## Verifying -/

structure ParsedWebhookSignatureHeader where
  timestampSeconds : Number
  eventId : Str
  signature : Str
deriving DecidableEq

def malformed (message : String) : WebhookSignatureError := ⟨.malformedHeader, message⟩

/-- `key=value`, both trimmed. -/
def parseSegment (segment : Str) : Except WebhookSignatureError (Str × Str) :=
  match cutAt '=' segment with
  | some (key, value) => .ok (trim key, trim value)
  | none => .error (malformed ("Malformed \"" ++ webhookSignatureHeader ++
      "\" segment (expected \"key=value\"): \"" ++ String.ofList segment ++ "\""))

/-- The value that was set last. -/
def getField (fields : List (Str × Str)) (key : Str) : Str :=
  (fields.reverse.lookup key).getD []

def parseWebhookSignatureHeader (header : Str) :
    Except WebhookSignatureError ParsedWebhookSignatureHeader := do
  let fields ← (header.splitOn ',').mapM parseSegment
  let t := getField fields ['t']
  let id := getField fields ['i', 'd']
  let v1 := getField fields ['v', '1']
  if t = [] ∨ id = [] ∨ v1 = [] then
    .error (malformed ("\"" ++ webhookSignatureHeader ++
      "\" header is missing required \"t\"/\"id\"/\"v1\" fields."))
  else if (number t).isInteger then .ok ⟨number t, id, v1⟩
  else
    .error (malformed ("\"" ++ webhookSignatureHeader ++
      "\" header's \"t\" field is not a valid integer: \"" ++ String.ofList t ++ "\"."))

structure VerifyWebhookSignatureInput where
  rawBody : Str
  header : Str
  secret : Str
  toleranceSeconds : Option Number
  /-- In milliseconds. -/
  now : ℤ

namespace VerifyWebhookSignatureInput

def tolerance (input : VerifyWebhookSignatureInput) : Number :=
  input.toleranceSeconds.getD defaultWebhookToleranceSeconds

def nowSeconds (input : VerifyWebhookSignatureInput) : Number := .finite ((input.now / 1000 : ℤ) : ℚ)

end VerifyWebhookSignatureInput

/-- `Math.abs(nowSeconds - timestampSeconds) > tolerance` does not hold. -/
def withinTolerance (nowSeconds tolerance timestampSeconds : Number) : Bool :=
  !((nowSeconds.sub timestampSeconds).abs).gt tolerance

def verifyWebhookSignature (hmac : Hmac) (input : VerifyWebhookSignatureInput) :
    Except WebhookSignatureError ParsedWebhookSignatureHeader := do
  let parsed ← parseWebhookSignatureHeader input.header
  if withinTolerance input.nowSeconds input.tolerance parsed.timestampSeconds then
    let expectedHex := hmacHex hmac input.secret
      (Signed.canonicalString ⟨parsed.timestampSeconds, parsed.eventId, input.rawBody⟩)
    -- of the same length, and then of the same bytes
    if Hex.decode expectedHex = Hex.decode parsed.signature then .ok parsed
    else
      .error ⟨.signatureMismatch,
        "Webhook signature does not match the expected value for this secret."⟩
  else
    .error ⟨.timestampOutOfTolerance, "Webhook timestamp " ++
      String.ofList parsed.timestampSeconds.text ++ " is outside the " ++
      String.ofList input.tolerance.text ++ "s tolerance window (server time " ++
      String.ofList input.nowSeconds.text ++ ")."⟩

/-- `verifyWebhook` of the SDK: event id and timestamp. -/
def verifyWebhook (hmac : Hmac) (input : VerifyWebhookSignatureInput) :
    Except WebhookSignatureError (Str × Number) :=
  (verifyWebhookSignature hmac input).map fun parsed => (parsed.eventId, parsed.timestampSeconds)

/-! ## What a header can say -/

/-- A value that a field of a header can have. -/
structure IsValue (v : Str) : Prop where
  ne_nil : v ≠ []
  trimmed : trim v = v
  no_comma : ',' ∉ v

section

variable {hmac : Hmac} {header t eventId v1 : Str} {parsed : ParsedWebhookSignatureHeader}

theorem parseSegment_field {key value : Str} (hkey : '=' ∉ key) (htrim : trim key = key)
    (hvalue : trim value = value) : parseSegment (key ++ '=' :: value) = .ok (key, value) := by
  rw [parseSegment, Js.cutAt_append hkey]
  show Except.ok (trim key, trim value) = _
  rw [htrim, hvalue]

/-- **A header is read as its fields.** -/
theorem parse_headerOf (ht : IsValue t) (hid : IsValue eventId) (hv1 : IsValue v1)
    (hinteger : (number t).isInteger = true) :
    parseWebhookSignatureHeader (headerOf t eventId v1) = .ok ⟨number t, eventId, v1⟩ := by
  have hcomma : ∀ {key v : Str}, ',' ∉ key → IsValue v → ',' ∉ key ++ '=' :: v := by
    intro key v hkey hv hmem
    rcases List.mem_append.mp hmem with hmem | hmem
    · exact hkey hmem
    · rcases List.mem_cons.mp hmem with heq | hmem
      · exact absurd heq (by decide)
      · exact hv.no_comma hmem
  have hsplit : (headerOf t eventId v1).splitOn ','
      = [['t'] ++ '=' :: t, ['i', 'd'] ++ '=' :: eventId, ['v', '1'] ++ '=' :: v1] := by
    show ((['t'] ++ '=' :: t) ++ ',' :: ((['i', 'd'] ++ '=' :: eventId) ++
      ',' :: (['v', '1'] ++ '=' :: v1))).splitOn ',' = _
    rw [List.splitOn_append_cons_self_of_not_mem (hcomma (by decide) ht),
      List.splitOn_append_cons_self_of_not_mem (hcomma (by decide) hid),
      List.splitOn_eq_singleton (hcomma (by decide) hv1)]
  have hfields : ((headerOf t eventId v1).splitOn ',').mapM parseSegment
      = .ok [(['t'], t), (['i', 'd'], eventId), (['v', '1'], v1)] := by
    have h₁ := @parseSegment_field ['t'] t (by decide) rfl ht.trimmed
    have h₂ := @parseSegment_field ['i', 'd'] eventId (by decide) rfl hid.trimmed
    have h₃ := @parseSegment_field ['v', '1'] v1 (by decide) rfl hv1.trimmed
    rw [hsplit]
    simp only [List.mapM_cons, List.mapM_nil, h₁, h₂, h₃]
    rfl
  unfold parseWebhookSignatureHeader
  rw [hfields]
  show (if t = [] ∨ eventId = [] ∨ v1 = [] then _ else if (number t).isInteger = true then
    Except.ok (⟨number t, eventId, v1⟩ : ParsedWebhookSignatureHeader) else _) = _
  rw [if_neg, if_pos hinteger]
  rintro (h | h | h)
  · exact ht.ne_nil h
  · exact hid.ne_nil h
  · exact hv1.ne_nil h

/-- No separator is left in what a text is split into. -/
theorem notMem_of_mem_splitOn {segment : Str} {c : Char} (h : segment ∈ header.splitOn c) :
    c ∉ segment := by
  induction header generalizing segment with
  | nil =>
      rw [List.splitOn_nil, List.mem_singleton] at h
      rw [h]
      exact List.not_mem_nil
  | cons d header ih =>
      rw [List.splitOn_cons_eq_if_modifyHead] at h
      split at h
      · rcases List.mem_cons.mp h with rfl | h
        · exact List.not_mem_nil
        · exact ih h
      · rename_i hne
        cases hsplit : header.splitOn c with
        | nil => exact absurd hsplit (List.splitOn_ne_nil c header)
        | cons first rest =>
            rw [hsplit] at h
            rcases List.mem_cons.mp h with rfl | h
            · intro hmem
              rcases List.mem_cons.mp hmem with rfl | hmem
              · exact hne (beq_self_eq_true _)
              · exact ih (hsplit ▸ List.mem_cons_self) hmem
            · exact ih (hsplit ▸ List.mem_cons_of_mem first h)

theorem notMem_trim {value : Str} {c : Char} (h : c ∉ value) : c ∉ trim value := fun hmem =>
  h ((List.dropWhile_suffix _).mem ((List.rdropWhile_prefix isSpace _).mem hmem))

/-- The values of a segment are trimmed, and as free of commas as the segment. -/
theorem parseSegment_ok {segment : Str} {field : Str × Str} (hcomma : ',' ∉ segment)
    (h : parseSegment segment = .ok field) : trim field.2 = field.2 ∧ ',' ∉ field.2 := by
  unfold parseSegment at h
  split at h
  · rename_i key value hcut
    cases h
    unfold cutAt at hcut
    split at hcut
    · cases hcut
      refine ⟨Js.trim_trim _, notMem_trim fun hmem => hcomma ?_⟩
      exact (List.dropWhile_suffix _).mem (List.mem_of_mem_tail hmem)
    · cases hcut
  · cases h

/-- A field that was read is that of a segment. -/
theorem exists_segment {segments : List Str} {fields : List (Str × Str)}
    (h : segments.mapM parseSegment = .ok fields) {field : Str × Str} (hfield : field ∈ fields) :
    ∃ segment ∈ segments, parseSegment segment = .ok field := by
  obtain ⟨i, hi, rfl⟩ := List.getElem_of_mem hfield
  obtain ⟨hlength, hparsed⟩ := List.forall₂_iff_get.mp (Tx.mapM_ok.mp h)
  exact ⟨segments[i], List.getElem_mem _, hparsed i (hlength ▸ hi) hi⟩

/-- What a header that is read says, and how it can have said it. -/
structure ParsedWebhookSignatureHeader.Read (parsed : ParsedWebhookSignatureHeader) : Prop where
  timestamp : ∃ t, IsValue t ∧ number t = parsed.timestampSeconds
  isInteger : parsed.timestampSeconds.isInteger = true
  eventId : IsValue parsed.eventId

/-- **What is read of a header.** -/
theorem parse_ok (h : parseWebhookSignatureHeader header = .ok parsed) : parsed.Read := by
  unfold parseWebhookSignatureHeader at h
  cases hfields : (header.splitOn ',').mapM parseSegment with
  | error e =>
      rw [hfields] at h
      cases h
  | ok fields =>
      rw [hfields] at h
      -- a field that is there is a value of the header
      have hvalue : ∀ key, getField fields key ≠ [] → IsValue (getField fields key) := by
        intro key hne
        cases hlookup : fields.reverse.lookup key with
        | none =>
            rw [getField, hlookup] at hne
            exact absurd rfl hne
        | some value =>
            obtain ⟨later, earlier, hreverse, -⟩ := List.lookup_eq_some_iff.mp hlookup
            have hmem : (key, value) ∈ fields := by
              rw [← List.mem_reverse, hreverse]
              exact List.mem_append_right later List.mem_cons_self
            obtain ⟨segment, hsegment, hparse⟩ := exists_segment hfields hmem
            obtain ⟨htrim, hcomma⟩ := parseSegment_ok (notMem_of_mem_splitOn hsegment) hparse
            have hget : getField fields key = value := by rw [getField, hlookup]; rfl
            exact ⟨hne, hget ▸ htrim, hget ▸ hcomma⟩
      change (if _ then _ else if _ then _ else _ : Except WebhookSignatureError _) = .ok parsed at h
      split_ifs at h with hmissing hinteger
      cases h
      simp only [not_or] at hmissing
      obtain ⟨ht, hid, hv1⟩ := hmissing
      exact ⟨⟨_, hvalue _ ht, rfl⟩, hinteger, hvalue _ hid⟩

/-- **What is accepted.** -/
theorem verifyWebhookSignature_ok {input : VerifyWebhookSignatureInput} :
    verifyWebhookSignature hmac input = .ok parsed ↔
      parseWebhookSignatureHeader input.header = .ok parsed ∧
      withinTolerance input.nowSeconds input.tolerance parsed.timestampSeconds = true ∧
      Hex.decode parsed.signature = hmac input.secret
        (Signed.canonicalString ⟨parsed.timestampSeconds, parsed.eventId, input.rawBody⟩) := by
  have hdecode : ∀ message, Hex.decode (hmacHex hmac input.secret message)
      = hmac input.secret message := fun _ => Hex.decode_encode _
  unfold verifyWebhookSignature
  cases hparse : parseWebhookSignatureHeader input.header with
  | error e => exact iff_of_false (fun h => by cases h) fun h => by cases h.1
  | ok p =>
      change (if _ then if _ then _ else _ else _ : Except WebhookSignatureError _) = _ ↔ _
      constructor
      · intro h
        split_ifs at h with hwithin hsame
        cases h
        exact ⟨rfl, hwithin, hsame.symm.trans (hdecode _)⟩
      · rintro ⟨hp, hwithin, hsame⟩
        obtain rfl := Except.ok.inj hp
        rw [if_pos hwithin, if_pos ((hdecode _).trans hsame.symm)]

end

/-! ## What a signature binds -/

/-- What is assumed of HMAC-SHA256. -/
structure IsMac (hmac : Hmac) : Prop where
  /-- No two messages have one digest. -/
  injective : ∀ secret, Function.Injective (hmac secret)
  /-- A digest has bytes. -/
  ne_nil : ∀ secret message, hmac secret message ≠ []

/-- Nobody but the sender makes signatures: if the one in the header is that of a message, the message
has been signed. -/
def Unforged (hmac : Hmac) (secret : Str) (signed : Set Signed) (header : Str) : Prop :=
  ∀ parsed message, parseWebhookSignatureHeader header = .ok parsed →
    Hex.decode parsed.signature = hmac secret message → ∃ s ∈ signed, message = s.canonicalString

/-- Accepted is only what was signed. -/
def Binds (hmac : Hmac) (secret : Str) (signed : Set Signed) (toleranceSeconds : Option Number)
    (now : ℤ) : Prop :=
  ∀ header body parsed, Unforged hmac secret signed header →
    verifyWebhookSignature hmac ⟨body, header, secret, toleranceSeconds, now⟩ = .ok parsed →
    ⟨parsed.timestampSeconds, parsed.eventId, body⟩ ∈ signed

/-- The header of a signature with an integer timestamp in time is accepted for its body. -/
def Accepts (hmac : Hmac) (secret : Str) (toleranceSeconds : Option Number) (now : ℤ) : Prop :=
  ∀ (n : ℤ) (eventId body : Str), IsValue eventId → Js.IsDouble (n : ℚ) →
    withinTolerance (VerifyWebhookSignatureInput.nowSeconds ⟨[], [], [], toleranceSeconds, now⟩)
      (toleranceSeconds.getD defaultWebhookToleranceSeconds) (.finite n) = true →
    ∃ parsed, verifyWebhookSignature hmac
        ⟨body, signWebhookPayload hmac secret ⟨.finite n, eventId, body⟩, secret, toleranceSeconds,
          now⟩ = .ok parsed ∧
      parsed.eventId = eventId ∧ parsed.timestampSeconds = .finite n

/-- A header can say this, in time. -/
structure Signed.Readable (toleranceSeconds : Option Number) (now : ℤ) (s : Signed) : Prop where
  timestamp : ∃ t, IsValue t ∧ number t = s.timestampSeconds
  isInteger : s.timestampSeconds.isInteger = true
  within : withinTolerance
    (VerifyWebhookSignatureInput.nowSeconds ⟨[], [], [], toleranceSeconds, now⟩)
    (toleranceSeconds.getD defaultWebhookToleranceSeconds) s.timestampSeconds = true
  eventId : IsValue s.eventId

/-- However a signed message is cut, in a way that a header can say, it is signed that way too. -/
def CutsOneWay (signed : Set Signed) (toleranceSeconds : Option Number) (now : ℤ) : Prop :=
  ∀ s ∈ signed, ∀ s' : Signed, s'.Readable toleranceSeconds now →
    s'.canonicalString = s.canonicalString → s' ∈ signed

section

variable {hmac : Hmac} {secret : Str} {signed : Set Signed} {toleranceSeconds : Option Number}
  {now : ℤ}

theorem isValue_hmacHex (hmac_ok : IsMac hmac) (secret message : Str) :
    IsValue (hmacHex hmac secret message) where
  ne_nil h := by
    have hlength := Hex.length_encode (hmac secret message)
    have hbytes := List.length_pos_of_ne_nil (hmac_ok.ne_nil secret message)
    have hnone : (Hex.encode (hmac secret message)).length = 0 :=
      congrArg List.length (show Hex.encode (hmac secret message) = [] from h)
    omega
  trimmed := by
    refine Js.trim_of_no_space fun c hc => ?_
    obtain ⟨n, hn, rfl⟩ := Hex.mem_encode hc
    have hdigit : ∀ n < 16, isSpace (Hex.digit n) = false := by decide
    exact hdigit n hn
  no_comma h := by
    have hdigit := Hex.isDigit_encode h
    exact absurd hdigit (by decide)

/-- **The signature of a message serves every cut of it.** -/
theorem verify_of_cut (hmac_ok : IsMac hmac) (secret : Str) {s : Signed} (hs : s.Readable toleranceSeconds now)
    {message : Str} (hmessage : s.canonicalString = message) : ∃ header parsed,
      parseWebhookSignatureHeader header = .ok parsed ∧
      Hex.decode parsed.signature = hmac secret message ∧
      verifyWebhookSignature hmac ⟨s.rawBody, header, secret, toleranceSeconds, now⟩ = .ok parsed ∧
      parsed.eventId = s.eventId ∧ parsed.timestampSeconds = s.timestampSeconds := by
  obtain ⟨t, ht, hnumber⟩ := hs.timestamp
  have hinteger : (number t).isInteger = true := hnumber ▸ hs.isInteger
  have hparse := parse_headerOf ht hs.eventId (isValue_hmacHex hmac_ok secret message)
    hinteger
  have hdecode : Hex.decode (hmacHex hmac secret message) = hmac secret message :=
    Hex.decode_encode _
  refine ⟨_, _, hparse, hdecode, verifyWebhookSignature_ok.mpr ⟨hparse, ?_, ?_⟩, rfl, hnumber⟩
  · rw [hnumber]
    exact hs.within
  · show Hex.decode (hmacHex hmac secret message)
      = hmac secret (Signed.canonicalString ⟨number t, s.eventId, s.rawBody⟩)
    rw [hdecode, hnumber, ← hmessage]

/-- The text of an integer is a value that is read as the integer. -/
theorem isValue_text {n : ℤ} (h : Js.IsDouble (n : ℚ)) : IsValue (Number.finite n).text := by
  obtain ⟨hne, hplain⟩ := Js.isPlain_text h
  refine ⟨hne, Js.trim_of_no_space fun c hc => Js.isSpace_of_isPlain (hplain c hc), fun hcomma => ?_⟩
  rcases hplain ',' hcomma with hdigit | hmem
  · exact absurd hdigit (by decide)
  · exact absurd hmem (by decide)

theorem accepts (hmac_ok : IsMac hmac) : Accepts hmac secret toleranceSeconds now := by
  intro n eventId body hid hdouble hwithin
  have ht := isValue_text hdouble
  have hnumber := Js.number_text hdouble
  have hinteger : (number (Number.finite n).text).isInteger = true := by
    rw [hnumber]
    exact decide_eq_true (Rat.den_intCast n)
  have hparse := parse_headerOf ht hid
    (isValue_hmacHex hmac_ok secret
      (Signed.canonicalString ⟨.finite n, eventId, body⟩)) hinteger
  refine ⟨_, verifyWebhookSignature_ok.mpr ⟨hparse, ?_, ?_⟩, rfl, hnumber⟩
  · rw [hnumber]
    exact hwithin
  · rw [hnumber]
    exact Hex.decode_encode _

theorem binds_of_cutsOneWay (h : CutsOneWay signed toleranceSeconds now) :
    Binds hmac secret signed toleranceSeconds now := by
  intro header body parsed hunforged hverify
  obtain ⟨hparse, hwithin, hmac_eq⟩ := verifyWebhookSignature_ok.mp hverify
  have hread := parse_ok hparse
  obtain ⟨s, hs, hmessage⟩ := hunforged parsed _ hparse hmac_eq
  exact h s hs _ ⟨hread.timestamp, hread.isInteger, hwithin, hread.eventId⟩ hmessage

theorem cutsOneWay_of_binds (hmac_ok : IsMac hmac)
    (h : Binds hmac secret signed toleranceSeconds now) :
    CutsOneWay signed toleranceSeconds now := by
  intro s hs s' hreadable hmessage
  obtain ⟨header, parsed, hparse, hdecode, hverify, hid, ht⟩ :=
    verify_of_cut hmac_ok secret hreadable hmessage
  have hunforged : Unforged hmac secret signed header := by
    intro parsed' message hparse' hdecode'
    obtain rfl := Except.ok.inj (hparse.symm.trans hparse')
    exact ⟨s, hs, (hmac_ok.injective secret (hdecode.symm.trans hdecode')).symm⟩
  have hmem := h header s'.rawBody parsed hunforged hverify
  rwa [hid, ht] at hmem

/-- **What signatures bind.** The receiver accepts the headers of the sender, and nothing but what the
sender has signed, exactly when no signed message can be cut in a way in which it is not signed. -/
theorem binds_iff (hmac_ok : IsMac hmac) (secret : Str) (signed : Set Signed)
    (toleranceSeconds : Option Number) (now : ℤ) :
    (Binds hmac secret signed toleranceSeconds now ∧ Accepts hmac secret toleranceSeconds now) ↔
      CutsOneWay signed toleranceSeconds now :=
  ⟨fun h => cutsOneWay_of_binds hmac_ok h.1, fun h => ⟨binds_of_cutsOneWay h, accepts hmac_ok⟩⟩

end

/-! ## A message with two cuts

The event `evt1` with the body `1.5` is signed, at second `1`. The same message is the event `evt1.1` with
the body `5`. -/

section

/-- An injective digest: the bytes of secret and message. -/
def mockHmac : Hmac := fun secret message =>
  0 :: (String.ofList (secret ++ message)).toByteArray.data.toList

theorem mockHmac_isMac : IsMac mockHmac where
  injective secret m m' h := by
    have hbytes : (String.ofList (secret ++ m)).toByteArray = (String.ofList (secret ++ m')).toByteArray :=
      ByteArray.ext (Array.toList_inj.mp (List.cons.inj h).2)
    exact List.append_cancel_left (String.ofList_injective (String.toByteArray_inj.mp hbytes))
  ne_nil _ _ := List.cons_ne_nil _ _

def mockSigned : Signed := ⟨.finite 1, ['e', 'v', 't', '1'], ['1', '.', '5']⟩

def mockCut : Signed := ⟨.finite 1, ['e', 'v', 't', '1', '.', '1'], ['5']⟩

theorem mockCut_readable : mockCut.Readable none 1000 := by
  have hone : Js.IsDouble ((1 : ℤ) : ℚ) := Js.isDouble_natCast (n := 1) (by omega)
  have hwithin : withinTolerance (.finite 1) (.finite 300) (.finite 1) = true := by
    simp only [withinTolerance, Number.sub, sub_self, Number.round_zero, Number.abs, Number.gt,
      abs_zero]
    decide
  exact ⟨⟨_, isValue_text hone, Js.number_text hone⟩, rfl, hwithin,
    ⟨List.cons_ne_nil _ _, by decide, by decide⟩⟩

theorem mockCut_same : mockCut.canonicalString = mockSigned.canonicalString := rfl

/-- Once every cut of the message is signed, its signature binds. -/
theorem binds_iff_mock :
    (Binds mockHmac ['k'] {s | s.canonicalString = mockSigned.canonicalString} none 1000 ∧
      Accepts mockHmac ['k'] none 1000) ∧
    ¬ (Binds mockHmac ['k'] {mockSigned} none 1000 ∧ Accepts mockHmac ['k'] none 1000) := by
  refine ⟨(binds_iff mockHmac_isMac ['k'] _ none 1000).mpr fun s hs s' _ hsame => hsame.trans hs,
    fun hboth => ?_⟩
  have hcuts := (binds_iff mockHmac_isMac ['k'] {mockSigned} none 1000).mp hboth
  have hmem := hcuts mockSigned rfl mockCut mockCut_readable mockCut_same
  exact absurd (Set.mem_singleton_iff.mp hmem) (by decide)

/-- **A signature that does not bind**: `5` is accepted, and `1.5` was signed. -/
theorem signature_does_not_bind : ¬ Binds mockHmac ['k'] {mockSigned} none 1000 := by
  intro h
  have hmem := cutsOneWay_of_binds mockHmac_isMac h mockSigned rfl mockCut mockCut_readable
    mockCut_same
  exact absurd (Set.mem_singleton_iff.mp hmem) (by decide)

end

end Paymap.Shared
