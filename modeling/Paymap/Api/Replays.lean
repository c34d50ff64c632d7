import Paymap.Api.ExactlyOnce
import Paymap.Lib.Json

set_option autoImplicit false

/-! # What a replay is a replay of

The three idempotent endpoints share one key table, and what tells requests apart there is
`computeRequestHash` of the body alone. So a response is replayed to any request whose body has the same
text, wherever it was sent to, and one with the same JSON value but another text is rejected. `Right`
says what a replay and a rejection should mean; the runs in which they do are those whose requests have
equal texts under one key exactly if they are the same request (`replays_right_iff`).
-/

namespace Paymap.Api

open Idempotency
open Relayer (Uuid)

/-! ## Requests -/

/-- `sha256` is the digest, in hexadecimal digits. -/
def computeRequestHash (sha256 : List Char → String) (body : Option JsonValue) : String :=
  sha256 (body.getD .null).stringify

/-- What is created in the transaction is a row; it is also what the response tells. -/
abbrev routes (Creation : Type) (Row : Creation → Type) : Handling where
  Statement := Creation
  Answer := Row
  Error := Unit
  Body := List (Text × JsonValue)
  Json := JsonValue
  toJson fields := some (.object fields)

/-- The endpoint with its path parameter. -/
inductive Target where
  | checkoutSessions
  | chargeAuthorizations (mandateId : String)
  | refunds (paymentId : String)
  deriving DecidableEq

variable {Creation : Type} {Row : Creation → Type}

/-- The handlers of `checkout-sessions.ts`, `charges.ts` and `payments.ts`. -/
def create (creation : Creation) (respond : Row creation → List (Text × JsonValue)) :
    Handler (routes Creation Row) :=
  .call creation fun row? =>
    match row? with
    | none => .raise ()
    | some row => .ret ⟨201, respond row⟩

/-- A request that has been authenticated and has passed its checks. -/
structure Request (Creation : Type) (Row : Creation → Type) where
  merchantId : Uuid
  idempotencyKey : String
  target : Target
  body : Option JsonValue
  creation : Creation
  respond : Row creation → List (Text × JsonValue)

namespace Request

def key (r : Request Creation Row) : Key := (r.merchantId, r.idempotencyKey)

def json (r : Request Creation Row) : JsonValue := r.body.getD .null

/-- The call of `runIdempotent` it makes. -/
def call (sha256 : List Char → String) (r : Request Creation Row) : Call (routes Creation Row) :=
  ⟨r.key, computeRequestHash sha256 r.body, create r.creation r.respond⟩

/-- The same endpoint, the same path parameter, and a body that is equal as JSON. -/
def Identical (r r' : Request Creation Row) : Prop := r.target = r'.target ∧ r.json.Same r'.json

end Request

inductive Event (Creation : Type) (Row : Creation → Type) where
  | request (r : Request Creation Row)
  | work (worker : ℕ) (reply : Reply (routes Creation Row))
  | abort (worker : ℕ)

def Event.action (sha256 : List Char → String) :
    Event Creation Row → Action (routes Creation Row)
  | .request r => .call (r.call sha256)
  | .work worker reply => .work worker reply
  | .abort worker => .abort worker

def Event.request? : Event Creation Row → Option (Request Creation Row)
  | .request r => some r
  | _ => none

/-- The state of the key table, its transactions and its calls after these events. -/
def serveEvents (sha256 : List Char → String) (events : List (Event Creation Row)) :
    System (routes Creation Row) :=
  run initial (events.map (Event.action sha256))

theorem serveEvents_append (sha256 : List Char → String) (events later : List (Event Creation Row)) :
    serveEvents sha256 (events ++ later)
      = run (serveEvents sha256 events) (later.map (Event.action sha256)) := by
  unfold serveEvents
  rw [List.map_append]
  exact Runs.run_append _ _ _

/-- Call `j` has produced what is stored under the key. -/
def Idempotency.Shared.Stored {σ : Handling} (s : Shared σ) (key : Key) (j : ℕ) : Prop :=
  ∃ t, (j, t) ∈ s.committed ∧ t.key? = some key

/-- A replay is one of a response to the same request, and no request is rejected when the response to
the same one is stored. -/
def Right (requests : List (Request Creation Row)) (s : Shared (routes Creation Row)) : Prop :=
  ∀ i r, requests[i]? = some r →
    (∀ outcome, s.replies.lookup i = some (.ok outcome) → outcome.replayed = true →
      (∃ j, s.Stored r.key j) ∧
      ∀ j r', s.Stored r.key j → requests[j]? = some r' → r'.Identical r) ∧
    (s.replies.lookup i = some (.error .idempotencyKeyReused) →
      ∀ j r', s.Stored r.key j → requests[j]? = some r' → ¬r'.Identical r)

/-- The calls are those of the requests. -/
theorem calls_serveEvents (sha256 : List Char → String) (events : List (Event Creation Row)) :
    (serveEvents sha256 events).shared.calls
      = (events.filterMap Event.request?).map (Request.call sha256) := by
  unfold serveEvents
  rw [run_calls, List.filterMap_map]
  show [] ++ _ = _
  rw [List.nil_append, List.map_filterMap]
  congr 1
  funext event
  cases event <;> rfl

/-! ## When replays are right -/

section

variable {sha256 : List Char → String} {R : Set (Request Creation Row)}
  {events : List (Event Creation Row)}

/-- No two of these bodies have the same digest. -/
def CollisionFree (sha256 : List Char → String) (R : Set (Request Creation Row)) : Prop :=
  ∀ r ∈ R, ∀ r' ∈ R, sha256 r.json.stringify = sha256 r'.json.stringify →
    r.json.stringify = r'.json.stringify

/-- Under one key, bodies have the same text exactly if the requests are the same. -/
def Telling (R : Set (Request Creation Row)) : Prop :=
  ∀ r ∈ R, ∀ r' ∈ R, r.key = r'.key → (r.json.plain = r'.json.plain ↔ r.Identical r')

theorem mem_requests {i : ℕ} {r : Request Creation Row}
    (hR : ∀ r, .request r ∈ events → r ∈ R) (hr : (events.filterMap Event.request?)[i]? = some r) :
    r ∈ R := by
  obtain ⟨event, hmem, hrequest⟩ := List.mem_filterMap.mp (List.mem_of_getElem? hr)
  cases event with
  | request r' => exact hR r (Option.some.inj hrequest ▸ hmem)
  | _ => cases hrequest

theorem call_of_request {i : ℕ} {r : Request Creation Row}
    (hr : (events.filterMap Event.request?)[i]? = some r) :
    (serveEvents sha256 events).shared.calls[i]? = some (r.call sha256) := by
  rw [calls_serveEvents, List.getElem?_map, hr]
  rfl

/-- What is stored under a key is a row with the hash of the request that has produced it. -/
theorem row_of_stored {phases : List (Phase (routes Creation Row))}
    (h : Settled (serveEvents sha256 events).shared phases) {key : Key} {j : ℕ}
    (hj : (serveEvents sha256 events).shared.Stored key j) {r' : Request Creation Row}
    (hr' : (events.filterMap Event.request?)[j]? = some r') : r'.key = key ∧
      ∃ row, (serveEvents sha256 events).shared.rows.lookup key = some row ∧
        row.requestHash = sha256 r'.json.stringify := by
  obtain ⟨t, hmem, hkey⟩ := hj
  rcases h.consistent.whole (j, t) hmem with rfl | ⟨c, hc, result, hrow, -⟩
  · cases hkey
  · obtain rfl := Option.some.inj ((call_of_request hr').symm.trans hc)
    obtain ⟨row, hrow'⟩ := key?_eq_some.mp hkey
    obtain ⟨hkey', rfl⟩ := Prod.mk.inj (Option.some.inj (hrow.symm.trans hrow'))
    exact ⟨hkey', _, (h.consistent.rows_iff key _).mpr ⟨(j, t), hmem, hrow'⟩, rfl⟩

/-- **When the texts tell the requests apart, every replay is right.** -/
theorem right_of_telling (hfree : CollisionFree sha256 R) (htell : Telling R)
    (hR : ∀ r, .request r ∈ events → r ∈ R) :
    Right (events.filterMap Event.request?) (serveEvents sha256 events).shared := by
  obtain ⟨phases, -, hsettled⟩ := tracked_run (events.map (Event.action sha256))
  intro i r hr
  have hc := @call_of_request _ _ sha256 _ _ _ hr
  -- the row of the key decides, and it has the hash of what is stored
  have hcompare : ∀ j r' row, (serveEvents sha256 events).shared.Stored r.key j →
      (events.filterMap Event.request?)[j]? = some r' →
      (serveEvents sha256 events).shared.rows.lookup r.key = some row →
      (row.requestHash = sha256 r.json.stringify ↔ r'.Identical r) := by
    intro j r' row hj hr' hrow
    obtain ⟨hkey, row', hrow', hhash⟩ := row_of_stored hsettled hj hr'
    obtain rfl := Option.some.inj (hrow.symm.trans hrow')
    have hmem := mem_requests hR hr
    have hmem' := mem_requests hR hr'
    rw [hhash, ← htell r' hmem' r hmem hkey, ← JsonValue.stringify_eq_iff]
    exact ⟨hfree r' hmem' r hmem, fun htext => by rw [htext]⟩
  constructor
  · intro outcome htold _
    obtain ⟨c, hc', row, hrow, hhash, -, -⟩ := hsettled.told_call htold
    obtain rfl := Option.some.inj (hc.symm.trans hc')
    obtain ⟨q, hq, hqrow⟩ := (hsettled.consistent.rows_iff r.key row).mp hrow
    exact ⟨⟨q.1, q.2, hq, key?_eq_some.mpr ⟨row, hqrow⟩⟩,
      fun j r' hj hr' => (hcompare j r' row hj hr' hrow).mp hhash⟩
  · intro htold j r' hj hr' hsame
    obtain ⟨c, hc', -, row, hrow, hother⟩ := hsettled.told_call htold
    obtain rfl := Option.some.inj (hc.symm.trans hc')
    exact hother ((hcompare j r' row hj hr' hrow).mpr hsame)

/-! ### Two requests, one after the other -/

theorem told_create (c : Call (routes Creation Row)) {creation : Creation}
    {respond : Row creation → List (Text × JsonValue)} (hc : c.handler = create creation respond)
    (row : (creation : Creation) → Row creation) :
    c.told row none = .ok ⟨false, 201, .inl (respond (row creation))⟩ ∧
      c.leaves row none = some (c.row ⟨201, respond (row creation)⟩) := by
  constructor
  · simp only [Call.told, hc, create, Handler.result]
  · simp only [Call.leaves, hc, create, Handler.result]
    rfl

/-- A request that is answered is not at work any more. -/
theorem closed_of_told {σ : Handling} {s : Shared σ} {phases : List (Phase σ)} (h : Settled s phases)
    {i : ℕ} {result : Except (Thrown σ) (IdempotentOutcome σ)}
    (hr : s.replies.lookup i = some result) : s.transactions.lookup i = none := by
  obtain ⟨c, hover, -⟩ := h.told i result hr
  exact h.fits i _ hover

theorem serve_request (sha256 : List Char → String) (events : List (Event Creation Row))
    (r : Request Creation Row) (row : (creation : Creation) → Row creation)
    (hfree : ∀ j u, (serveEvents sha256 events).shared.transactions.lookup j = some u →
      u.key? ≠ some r.key) :
    let s := serveEvents sha256 events
    ∃ n,
      let s' := serveEvents sha256
        (events ++ .request r :: List.replicate n (.work s.shared.calls.length (.served row)))
      s'.shared.replies.lookup s.shared.calls.length
        = some ((r.call sha256).told row (s.shared.rows.lookup r.key)) ∧
      s'.shared.rows.lookup r.key = (r.call sha256).leaves row (s.shared.rows.lookup r.key) := by
  intro s
  obtain ⟨n, hn⟩ := run_served_alone (events.map (Event.action sha256)) (r.call sha256) hfree row
  refine ⟨n, ?_⟩
  have hrun : serveEvents sha256
      (events ++ .request r :: List.replicate n (.work s.shared.calls.length (.served row)))
      = run (exec s (.call (r.call sha256)))
          (List.replicate n (.work s.shared.calls.length (.served row))) := by
    rw [serveEvents_append, List.map_cons, List.map_replicate]
    rfl
  rw [hrun]
  exact hn

theorem requests_served (r : Request Creation Row) (n i : ℕ) (reply : Reply (routes Creation Row)) :
    (.request r :: List.replicate n (.work i reply)).filterMap
      (Event.request? : Event Creation Row → _) = [r] := by
  have hnone : (List.replicate n (.work i reply)).filterMap
      (Event.request? : Event Creation Row → _) = [] := by
    induction n with
    | zero => rfl
    | succ n ih => rw [List.replicate_succ, List.filterMap_cons_none rfl, ih]
  show r :: _ = [r]
  rw [hnone]

/-- Two requests under one key: the response to the first one is stored, and the other one is told so or
rejected, as the hashes say. -/
theorem exists_two_requests (sha256 : List Char → String)
    (row : (creation : Creation) → Row creation) {r r' : Request Creation Row}
    (hkey : r.key = r'.key) : ∃ events : List (Event Creation Row),
      events.filterMap Event.request? = [r, r'] ∧
      (serveEvents sha256 events).shared.Stored r'.key 0 ∧
      (serveEvents sha256 events).shared.replies.lookup 1
        = some ((r'.call sha256).told row
          (some ((r.call sha256).row ⟨201, r.respond (row r.creation)⟩))) := by
  obtain ⟨n, htold, hleaves⟩ := serve_request sha256 [] r row fun j u hu => by cases hu
  have hempty : (serveEvents sha256 ([] : List (Event Creation Row))).shared.rows.lookup r.key
      = none := rfl
  rw [hempty, (told_create (r.call sha256) rfl row).1] at htold
  rw [hempty, (told_create (r.call sha256) rfl row).2] at hleaves
  generalize hfirst : ([] : List (Event Creation Row)) ++ .request r :: List.replicate n
    (.work (serveEvents sha256 ([] : List (Event Creation Row))).shared.calls.length (.served row))
    = first at htold hleaves
  have hrequests : first.filterMap Event.request? = [r] := by
    rw [← hfirst, List.nil_append, requests_served]
  have hcalls : (serveEvents sha256 first).shared.calls.length = 1 := by
    rw [calls_serveEvents, hrequests]
    rfl
  obtain ⟨phases, -, hsettled⟩ := tracked_run (first.map (Event.action sha256))
  -- the first request is over, and its row is there
  have hclosed : ∀ j u, (serveEvents sha256 first).shared.transactions.lookup j = some u →
      u.key? ≠ some r'.key := by
    intro j u hu
    have hlt : j < 1 := hcalls ▸ hsettled.consistent.known_open j u hu
    obtain rfl : j = 0 := Nat.lt_one_iff.mp hlt
    cases (closed_of_told hsettled htold).symm.trans hu
  obtain ⟨q, hq, hqrow⟩ := (hsettled.consistent.rows_iff _ _).mp hleaves
  have hq0 : q.1 = 0 := Nat.lt_one_iff.mp (hcalls ▸ hsettled.consistent.known q hq)
  obtain ⟨m, htold', -⟩ := serve_request sha256 first r' row hclosed
  rw [hcalls, ← hkey, hleaves] at htold'
  refine ⟨_, ?_, ⟨q.2, ?_, ?_⟩, htold'⟩
  · rw [List.filterMap_append, hrequests, requests_served]
    rfl
  · have hkept := committed_prefix_run (serveEvents sha256 first) ((.request r' ::
      List.replicate m (.work 1 (.served row))).map (Event.action sha256))
    rw [← hq0, serveEvents_append]
    exact hkept.subset hq
  · exact key?_eq_some.mpr ⟨_, hkey ▸ hqrow⟩

theorem telling_of_right (hfree : CollisionFree sha256 R)
    (row : (creation : Creation) → Row creation)
    (hright : ∀ events : List (Event Creation Row), (∀ r, .request r ∈ events → r ∈ R) →
      Right (events.filterMap Event.request?) (serveEvents sha256 events).shared) : Telling R := by
  intro r hr r' hr' hkey
  obtain ⟨events, hrequests, hstored, htold⟩ := exists_two_requests sha256 row hkey
  have hmem : ∀ x, .request x ∈ events → x ∈ R := by
    intro x hx
    have hx' : x ∈ events.filterMap Event.request? := List.mem_filterMap.mpr ⟨_, hx, rfl⟩
    rw [hrequests] at hx'
    rcases List.mem_cons.mp hx' with rfl | hx'
    · exact hr
    · exact List.mem_singleton.mp hx' ▸ hr'
  have hsecond := hright events hmem
  rw [hrequests] at hsecond
  obtain ⟨hreplayed, hreused⟩ := hsecond 1 r' rfl
  rw [← JsonValue.stringify_eq_iff]
  constructor
  · -- with equal texts the second request gets a replay
    intro htext
    have hhash : (r.call sha256).requestHash = (r'.call sha256).requestHash := congrArg sha256 htext
    simp only [Call.told, Call.row, hhash, ne_eq, not_true_eq_false, if_false] at htold
    exact (hreplayed _ htold rfl).2 0 r hstored rfl
  · intro hsame
    by_contra htext
    have hhash : (r.call sha256).requestHash ≠ (r'.call sha256).requestHash :=
      fun hhash => htext (hfree r hr r' hr' hhash)
    simp only [Call.told, Call.row, ne_eq, hhash, not_false_eq_true, if_true] at htold
    exact hreused htold 0 r hstored rfl hsame

end

/-- **When a replay is a replay of the same request.** Whatever requests a merchant makes, with rows that
a creation may be answered with, all replays and rejections in all runs of these requests are right
exactly if, under one key, the texts of the bodies tell the requests apart. -/
theorem replays_right_iff (sha256 : List Char → String) (row : (creation : Creation) → Row creation)
    (R : Set (Request Creation Row)) (hfree : CollisionFree sha256 R) :
    (∀ events : List (Event Creation Row), (∀ r, .request r ∈ events → r ∈ R) →
      Right (events.filterMap Event.request?) (serveEvents sha256 events).shared) ↔ Telling R :=
  ⟨telling_of_right hfree row, fun htell _ hR => right_of_telling hfree htell hR⟩

/-! ## One key for several refunds -/

def toText (s : String) : Text := s.toList.map .scalar

/-- `POST /payments/:id/refunds` under the key "k". -/
def refundWith (paymentId : String) (fields : List (String × String)) :
    Request String fun _ => Unit where
  merchantId := 1
  idempotencyKey := "k"
  target := .refunds paymentId
  body := some (.object (fields.map fun field => (toText field.1, .string (toText field.2))))
  creation := paymentId
  respond _ := [(toText "paymentId", .string (toText paymentId))]

/-- Refunds of one payment. -/
def onePayment : Set (Request String fun _ => Unit) :=
  {r | ∃ amount, r = refundWith "P1" [("amount", amount)]}

theorem telling_onePayment : Telling onePayment := by
  rintro r ⟨amount, rfl⟩ r' ⟨amount', rfl⟩ -
  have hjson : ∀ amount, (refundWith "P1" [("amount", amount)]).json
      = .object [(toText "amount", .string (toText amount))] := fun _ => rfl
  constructor
  · intro h
    refine ⟨rfl, ?_⟩
    rw [hjson, hjson] at h ⊢
    have htext : toText amount = toText amount' := by
      simpa [JsonValue.plain, JsonValue.plainFields] using h
    rw [htext]
    exact .refl _
  · rintro ⟨-, hsame⟩
    rw [hjson, hjson] at hsame ⊢
    cases hsame with
    | object hperm hfields =>
        obtain rfl := List.perm_singleton.mp hperm.symm
        cases hfields with
        | cons hvalue _ =>
            generalize toText amount = text at hvalue ⊢
            generalize toText amount' = text' at hvalue ⊢
            cases hvalue with
            | string _ => rfl

/-- Refunds of one payment are told apart by their amounts. -/
theorem replays_right_iff_one_payment : Telling onePayment ∧
    ∀ events : List (Event String fun _ => Unit), (∀ r, .request r ∈ events → r ∈ onePayment) →
      Right (events.filterMap Event.request?) (serveEvents String.ofList events).shared :=
  ⟨telling_onePayment, (replays_right_iff String.ofList (fun _ => ()) onePayment
    fun _ _ _ _ h => String.ofList_injective h).mpr telling_onePayment⟩

/-- The first request is served, then the other one. -/
def refundTwice (first second : Request String fun _ => Unit) :
    List (Event String fun _ => Unit) :=
  .request first :: (List.replicate 6 (.work 0 (.served fun _ => ())) ++
    .request second :: List.replicate 5 (.work 1 (.served fun _ => ())))

/-- **The refund of another payment is replayed,** and that payment is never refunded. A refund that is
the same but for the order of two fields is rejected. -/
theorem other_payment_replayed :
    let other := refundTwice (refundWith "P1" [("amount", "1.00")])
      (refundWith "P2" [("amount", "1.00")])
    let reordered := refundTwice (refundWith "P1" [("amount", "1.00"), ("note", "late")])
      (refundWith "P1" [("note", "late"), ("amount", "1.00")])
    ¬Right (other.filterMap Event.request?) (serveEvents String.ofList other).shared ∧
    ¬Right (reordered.filterMap Event.request?) (serveEvents String.ofList reordered).shared := by
  intro other reordered
  constructor
  · intro h
    have htold : (serveEvents String.ofList other).shared.replies.lookup 1
        = some (.ok ⟨true, 201, .inr (.object [(toText "paymentId", .string (toText "P1"))])⟩) := rfl
    have hstored : (serveEvents String.ofList other).shared.Stored (1, "k") 0 :=
      ⟨_, List.mem_cons_self, rfl⟩
    exact absurd (((h 1 _ rfl).1 _ htold rfl).2 0 _ hstored rfl).1 (by decide)
  · intro h
    have htold : (serveEvents String.ofList reordered).shared.replies.lookup 1
        = some (.error .idempotencyKeyReused) := rfl
    have hstored : (serveEvents String.ofList reordered).shared.Stored (1, "k") 0 :=
      ⟨_, List.mem_cons_self, rfl⟩
    refine (h 1 _ rfl).2 htold 0 _ hstored rfl ⟨rfl, .object (List.Perm.swap _ _ _) ?_⟩
    exact .cons (.string _) (.cons (.string _) .nil)

end Paymap.Api
