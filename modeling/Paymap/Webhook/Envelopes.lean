import Paymap.Lib.JsDate
import Paymap.Lib.JsNumber
import Paymap.Lib.Json
import Paymap.Shared.WebhookSignature
import Paymap.Webhook.Worker

set_option autoImplicit false

/-! # What a webhook says

`rawBody` is `JSON.stringify` of the envelope of an event (`rawBody_eq_stringify`). The signed message is
`timestamp.eventId.body`, and other messages of this shape can be cut in several ways. Those that the
worker signs cannot: the timestamp is written in digits, an event id has no dot, and the body has a comma
before its first dot, so that an event id that took in a part of the body would have a comma
(`eq_of_canonicalString`).
-/

namespace Paymap.Webhook

open Js (Str Number)
open Shared (IsValue Signed)

/-! ## Event ids -/

def isEventIdChar (c : Char) : Bool := c.isAlphanum || c = '-' || c = ':'

/-- What the three sources of event ids have in common: 32 random bytes in hexadecimal, a UUID, or
`chain:` and the id of a contract event. -/
def IsEventId (eventId : String) : Prop :=
  eventId.toList ≠ [] ∧ ∀ c ∈ eventId.toList, isEventIdChar c = true

instance (eventId : String) : Decidable (IsEventId eventId) :=
  inferInstanceAs (Decidable (_ ∧ _))

abbrev EventId := { eventId : String // IsEventId eventId }

theorem isEventIdChar_digit {n : ℕ} (h : n < 16) : isEventIdChar (Hex.digit n) = true := by
  have hall : ∀ n < 16, isEventIdChar (Hex.digit n) = true := by decide
  exact hall n h

/-- `randomHexId32`. -/
def randomHexId32 (random : Vector UInt8 32) : EventId where
  val := .ofList (Hex.encode random.toList)
  property := by
    refine ⟨?_, fun c hc => ?_⟩
    · intro hnil
      have hlength := Hex.length_encode random.toList
      rw [String.toList_ofList] at hnil
      rw [hnil, Vector.length_toList] at hlength
      cases hlength
    · rw [String.toList_ofList] at hc
      obtain ⟨n, hn, rfl⟩ := Hex.mem_encode hc
      exact isEventIdChar_digit hn

section

variable {eventId : String}

theorem IsEventId.notMem (h : IsEventId eventId) {c : Char} (hc : isEventIdChar c = false) :
    c ∉ eventId.toList := by
  intro hmem
  have htrue := h.2 c hmem
  rw [hc] at htrue
  cases htrue

theorem isSpace_of_isEventIdChar {c : Char} (h : isEventIdChar c = true) : Js.isSpace c = false := by
  by_contra hspace
  rw [Bool.not_eq_false] at hspace
  have hmem : c.toNat ∈ Js.spaces := List.contains_iff_mem.mp hspace
  have hnone : ∀ n ∈ Js.spaces, isEventIdChar (Char.ofNat n) = false := by decide
  have hfalse := hnone _ hmem
  rw [Char.ofNat_toNat, h] at hfalse
  cases hfalse

/-- An event id can be a field of a header. -/
theorem IsEventId.isValue (h : IsEventId eventId) : IsValue eventId.toList where
  ne_nil := h.1
  trimmed := Js.trim_of_no_space fun c hc => isSpace_of_isEventIdChar (h.2 c hc)
  no_comma := h.notMem (by decide)

end

/-! ## The body -/

def codePoints (text : String) : Text := text.toList.map CodePoint.scalar

def fieldText (key : String) (value : Str) : Str := quote (codePoints key) ++ ':' :: value

namespace WebhookEventEnvelope

/-- `JSON.stringify(envelope)`; the data is held as its text. -/
def rawBody (envelope : WebhookEventEnvelope) : Str :=
  '{' :: (fieldText "eventId" (quote (codePoints envelope.eventId)) ++
    ',' :: (fieldText "eventType" (quote (codePoints envelope.eventType)) ++
    ',' :: (fieldText "createdAt" (quote ((Js.isoText envelope.createdAt).map CodePoint.scalar)) ++
    ',' :: (fieldText "signatureVersion" (quote (codePoints envelope.signatureVersion)) ++
    ',' :: (fieldText "data" envelope.data.toList ++ ['}'])))))

/-- The envelope of data. -/
def json (envelope : WebhookEventEnvelope) (data : JsonValue) : JsonValue :=
  .object [(codePoints "eventId", .string (codePoints envelope.eventId)),
    (codePoints "eventType", .string (codePoints envelope.eventType)),
    (codePoints "createdAt", .string ((Js.isoText envelope.createdAt).map CodePoint.scalar)),
    (codePoints "signatureVersion", .string (codePoints envelope.signatureVersion)),
    (codePoints "data", data)]

theorem rawBody_eq_stringify {envelope : WebhookEventEnvelope} {data : JsonValue}
    (h : envelope.data = .ofList data.stringify) : envelope.rawBody = (envelope.json data).stringify := by
  rw [rawBody, h, String.toList_ofList]
  simp [json, fieldText, JsonValue.stringify, JsonValue.stringifyFields]

end WebhookEventEnvelope

/-! ### Up to the first comma -/

/-- A code point of an event id is written as it is. -/
theorem quote_eventIdChar {c : Char} (h : isEventIdChar c = true) : (CodePoint.scalar c).quote = [c] := by
  have hescape : escapes.lookup c = none := by
    rw [List.lookup_eq_none_iff]
    have hnone : ∀ p ∈ escapes, isEventIdChar p.1 = false := by decide
    intro p hp
    rw [bne_iff_ne]
    rintro rfl
    rw [hnone p hp] at h
    cases h
  have hvisible : ¬ c.toNat < 0x20 := by
    intro hlt
    have hnone : ∀ n < 0x20, isEventIdChar (Char.ofNat n) = false := by decide
    have hfalse := hnone _ hlt
    rw [Char.ofNat_toNat, h] at hfalse
    cases hfalse
  rw [CodePoint.quote, hescape]
  exact if_neg hvisible

theorem quote_eventId {eventId : String} (h : IsEventId eventId) :
    quote (codePoints eventId) = '\x22' :: (eventId.toList ++ ['\x22']) := by
  have hflat : (codePoints eventId).flatMap CodePoint.quote = eventId.toList := by
    rw [codePoints, List.flatMap_map]
    calc eventId.toList.flatMap (fun c => (CodePoint.scalar c).quote)
        = eventId.toList.flatMap fun c => [c] :=
          List.flatMap_congr fun c hc => quote_eventIdChar (h.2 c hc)
      _ = eventId.toList := by simp
  rw [quote, hflat]

/-- The body begins with a brace, and has a comma before any dot. -/
theorem rawBody_first {envelope : WebhookEventEnvelope} (h : IsEventId envelope.eventId) :
    ∃ first rest, envelope.rawBody = '{' :: first ++ ',' :: rest ∧ '.' ∉ '{' :: first := by
  refine ⟨fieldText "eventId" (quote (codePoints envelope.eventId)), _, rfl, ?_⟩
  have hkey : quote (codePoints "eventId") = "\"eventId\"".toList := by decide
  have hdot : '.' ∉ envelope.eventId.toList := h.notMem (by decide)
  rw [fieldText, hkey, quote_eventId h]
  simp [hdot]

/-! ## One cut -/

section

variable {t : Str} {eventId : Str} {body : Str}

/-- The first dot of a text is in one place. -/
theorem eq_of_first_dot {a b c d : Str} (ha : '.' ∉ a) (hc : '.' ∉ c) (h : a ++ '.' :: b = c ++ '.' :: d) :
    a = c ∧ b = d := by
  have hcut := congrArg (Js.cutAt '.') h
  rw [Js.cutAt_append ha, Js.cutAt_append hc] at hcut
  exact Prod.mk.inj (Option.some.inj hcut)

/-- The timestamp ends at the first dot. -/
theorem timestamp_unique {t₀ eventId₀ body₀ : Str} (hdigits : Js.AllDigits t₀)
    (hid : '.' ∉ eventId₀ ∧ '+' ∉ eventId₀) (hbody : body₀.head? = some '{')
    (hplain : ∀ c ∈ t, Js.IsPlain c) (hplus : '.' ∈ t → '+' ∈ t)
    (h : t ++ '.' :: (eventId ++ '.' :: body) = t₀ ++ '.' :: (eventId₀ ++ '.' :: body₀)) : t = t₀ := by
  have hnodot : '.' ∉ t₀ := fun hmem => absurd (hdigits _ hmem) (by decide)
  have hnoplus : '+' ∉ t₀ := fun hmem => absurd (hdigits _ hmem) (by decide)
  by_cases hdot : '.' ∈ t
  · -- the event id has no plus, and the body does not begin like a number
    exfalso
    have hmem := hplus hdot
    obtain ⟨u, v, rfl, hu⟩ := List.eq_append_cons_of_mem hdot
    rw [List.append_assoc, List.cons_append] at h
    obtain ⟨rfl, hrest⟩ := eq_of_first_dot hu hnodot h
    have hv : '+' ∈ v := by simpa [hnoplus] using hmem
    by_cases hdot' : '.' ∈ v
    · obtain ⟨u', v', rfl, hu'⟩ := List.eq_append_cons_of_mem hdot'
      rw [List.append_assoc, List.cons_append] at hrest
      obtain ⟨-, hbody'⟩ := eq_of_first_dot hu' hid.1 hrest
      rw [← hbody'] at hbody
      cases v' with
      | nil => exact absurd (Option.some.inj hbody) (by decide)
      | cons c v' =>
          obtain rfl : c = '{' := Option.some.inj hbody
          rcases hplain '{' (by simp) with hdigit | hmem
          · exact absurd hdigit (by decide)
          · exact absurd hmem (by decide)
    · obtain ⟨rfl, -⟩ := eq_of_first_dot hdot' hid.1 hrest
      exact hid.2 hv
  · exact (eq_of_first_dot hdot hnodot h).1

/-- The event id ends at the next one. -/
theorem eventId_unique {eventId₀ first rest : Str} (hid₀ : '.' ∉ eventId₀) (hfirst : '.' ∉ first)
    (hid : ',' ∉ eventId) (h : eventId ++ '.' :: body = eventId₀ ++ '.' :: (first ++ ',' :: rest)) :
    eventId = eventId₀ ∧ body = first ++ ',' :: rest := by
  by_cases hdot : '.' ∈ eventId
  · -- it would go on to a dot of the body, past the comma
    exfalso
    obtain ⟨u, v, rfl, hu⟩ := List.eq_append_cons_of_mem hdot
    rw [List.append_assoc, List.cons_append] at h
    obtain ⟨-, hrest⟩ := eq_of_first_dot hu hid₀ h
    have hv : ',' ∉ v := fun hmem => hid (by simp [hmem])
    rcases List.append_eq_append_iff.mp hrest with ⟨w, hw, htail⟩ | ⟨w, hw, htail⟩
    · cases w with
      | nil => exact absurd (List.cons.inj htail).1 (by decide)
      | cons c w =>
          obtain rfl : '.' = c := (List.cons.inj htail).1
          exact hfirst (by simp [hw])
    · cases w with
      | nil => exact absurd (List.cons.inj htail).1 (by decide)
      | cons c w =>
          obtain rfl : ',' = c := (List.cons.inj htail).1
          exact hv (by simp [hw])
  · exact eq_of_first_dot hdot hid₀ h

end

/-- What is signed for an envelope. -/
def WebhookEventEnvelope.signed (envelope : WebhookEventEnvelope) (timestampSeconds : ℕ) : Signed where
  timestampSeconds := .finite (timestampSeconds : ℚ)
  eventId := envelope.eventId.toList
  rawBody := envelope.rawBody

/-- **A signed envelope can be cut in one way only.** -/
theorem eq_of_canonicalString {envelope : WebhookEventEnvelope} (hid : IsEventId envelope.eventId)
    {timestampSeconds : ℕ} (hseconds : timestampSeconds < 2 ^ 53) {s : Signed}
    {toleranceSeconds : Option Number} {now : ℤ} (hs : s.Readable toleranceSeconds now)
    (h : s.canonicalString = (envelope.signed timestampSeconds).canonicalString) :
    s = envelope.signed timestampSeconds := by
  obtain ⟨time, eventId, body⟩ := s
  obtain ⟨⟨t, -, hread⟩, hinteger, -, hvalue⟩ := hs
  -- the timestamp is an integer that there is
  obtain ⟨n, rfl⟩ : ∃ n : ℤ, time = .finite (n : ℚ) := by
    cases time with
    | nan => cases hinteger
    | infinity negative => cases hinteger
    | finite q => exact ⟨q.num, congrArg Number.finite (Rat.coe_int_num_of_den_eq_one
        (of_decide_eq_true hinteger)).symm⟩
  have hdouble : Js.IsDouble (n : ℚ) := Js.isDouble_of_number hread
  obtain ⟨first, rest, hbody, hfirst⟩ := rawBody_first hid
  have hdot : '.' ∉ envelope.eventId.toList := hid.notMem (by decide)
  have hplus : '+' ∉ envelope.eventId.toList := hid.notMem (by decide)
  have hhead : envelope.rawBody.head? = some '{' := by rw [hbody]; rfl
  have htext : (Number.finite (n : ℚ)).text = (Number.finite (timestampSeconds : ℚ)).text :=
    timestamp_unique (Js.allDigits_text hseconds) ⟨hdot, hplus⟩ hhead (Js.isPlain_text hdouble).2
      (Js.plus_of_dot hdouble) h
  have htime : Number.finite (n : ℚ) = .finite (timestampSeconds : ℚ) := by
    have hsame : Js.IsDouble ((timestampSeconds : ℤ) : ℚ) := by
      exact_mod_cast Js.isDouble_natCast hseconds
    calc Number.finite (n : ℚ) = Js.number (Number.finite (n : ℚ)).text := (Js.number_text hdouble).symm
      _ = Js.number (Number.finite ((timestampSeconds : ℤ) : ℚ)).text := by
          rw [htext, Int.cast_natCast]
      _ = .finite ((timestampSeconds : ℤ) : ℚ) := Js.number_text hsame
      _ = .finite (timestampSeconds : ℚ) := by rw [Int.cast_natCast]
  have hrest : eventId ++ '.' :: body = envelope.eventId.toList ++ '.' :: envelope.rawBody := by
    have hlist : (Number.finite (n : ℚ)).text ++ '.' :: (eventId ++ '.' :: body)
        = (Number.finite (timestampSeconds : ℚ)).text ++
          '.' :: (envelope.eventId.toList ++ '.' :: envelope.rawBody) := h
    rw [htext] at hlist
    exact (List.cons.inj (List.append_cancel_left hlist)).2
  rw [hbody] at hrest
  obtain ⟨rfl, rfl⟩ := eventId_unique hdot hfirst hvalue.no_comma hrest
  rw [htime, ← hbody]
  rfl

end Paymap.Webhook
