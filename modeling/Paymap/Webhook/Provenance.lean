import Paymap.Lib.Locks
import Paymap.Webhook.Attempts
import Paymap.Webhook.Endpoints

set_option autoImplicit false

/-! # Where a request comes from

A merchant registers an endpoint and is told a secret; later a worker reads the endpoint, decrypts the
secret and signs with it. Both columns are written and read together, so however registrations and attempts
are interleaved, a request goes to the URL of one registration and is signed with the secret that was told
with it. `Sound` is the invariant, kept beside the history of what was told and sent (`tracked_run`).
-/

namespace Paymap.Webhook.Endpoints

open Js (Str)
open Locks (Kept)
open Relayer (Uuid Time)

/-! ## The event of a row -/

/-- The columns that say what happened, and to whom. No transition writes them. -/
structure SameEvent (row row' : WebhookDelivery) : Prop where
  merchantId : row'.merchantId = row.merchantId
  eventId : row'.eventId = row.eventId
  eventType : row'.eventType = row.eventType
  payload : row'.payload = row.payload
  createdAt : row'.createdAt = row.createdAt

/-- What is sent for a row. -/
def envelope (row : WebhookDelivery) : WebhookEventEnvelope where
  eventId := row.eventId
  eventType := row.eventType
  createdAt := row.createdAt
  signatureVersion := "v1"
  data := row.payload

theorem SameEvent.refl (row : WebhookDelivery) : SameEvent row row := ⟨rfl, rfl, rfl, rfl, rfl⟩

theorem SameEvent.trans (row row' row'' : WebhookDelivery) (h : SameEvent row row')
    (h' : SameEvent row' row'') : SameEvent row row'' :=
  ⟨h'.merchantId.trans h.merchantId, h'.eventId.trans h.eventId, h'.eventType.trans h.eventType,
    h'.payload.trans h.payload, h'.createdAt.trans h.createdAt⟩

theorem sameEvent_transitioned (row : WebhookDelivery) (target : WebhookDeliveryStatus)
    (data : RowData) : SameEvent row (row.transitioned target data) :=
  ⟨rfl, rfl, rfl, rfl, rfl⟩

theorem SameEvent.envelope_eq {row row' : WebhookDelivery} (h : SameEvent row row') :
    envelope row' = envelope row := by
  unfold envelope
  rw [h.eventId, h.eventType, h.createdAt, h.payload]

/-- The row is still the one of this event. -/
def Stores (s : Shared) (id : Uuid) (delivery : WebhookDelivery) : Prop :=
  ∃ row, s.db.webhookDeliveries.lookup id = some row ∧ SameEvent delivery row

/-! ## A worker, move by move -/

inductive Stage where
  | opening (id : Uuid)
  | read (id : Uuid) (delivery : WebhookDelivery)
  /-- The endpoint of the merchant was found, and its secret decrypted. -/
  | endpoint (id : Uuid) (delivery : WebhookDelivery) (url : String) (secret : Str)
  | timed (id : Uuid) (delivery : WebhookDelivery) (url : String) (secret : Str) (now : Time)
  | finished

/-- The secret of what is stored. -/
def Opens (cfg : Config) (stored : String) (secret : Str) : Prop :=
  Paymap.Shared.decryptWebhookSecret cfg.crypto stored.toList cfg.webhookEncryptionKey.toList = .ok secret

inductive Move (cfg : Config) : Stage → (e : Effect) → Answer e → Stage → Prop where
  | find {id : Uuid} {answer : Except Thrown (Option WebhookDelivery)} :
      Move cfg (.opening id) (.findWebhookDelivery id) answer .finished
  | found {id : Uuid} {delivery : WebhookDelivery} :
      Move cfg (.opening id) (.findWebhookDelivery id) (.ok (some delivery)) (.read id delivery)
  | transition {p : Stage} {id : Uuid} {source target : WebhookDeliveryStatus} {data : RowData}
      {answer : Except Thrown Unit} : Move cfg p (.transition id source target data) answer p
  | now {p : Stage} {time : Time} : Move cfg p .now time p
  | findMerchant {id : Uuid} {delivery : WebhookDelivery} {answer : Except Thrown (Option Merchant)} :
      Move cfg (.read id delivery) (.findMerchant delivery.merchantId) answer .finished
  | endpoint {id : Uuid} {delivery : WebhookDelivery} {merchant : Merchant} {url stored : String}
      {secret : Str} (endpoint : merchant.endpoint? = some (url, stored))
      (opens : Opens cfg stored secret) :
      Move cfg (.read id delivery) (.findMerchant delivery.merchantId) (.ok (some merchant))
        (.endpoint id delivery url secret)
  | time {id : Uuid} {delivery : WebhookDelivery} {url : String} {secret : Str} {time : Time} :
      Move cfg (.endpoint id delivery url secret) .now time (.timed id delivery url secret time)
  | send {id : Uuid} {delivery : WebhookDelivery} {url : String} {secret : Str} {time : Time}
      {answer : Option SendOutcome} :
      Move cfg (.timed id delivery url secret time)
        (.send (sendInput cfg.deps delivery url (.ofList secret) time)) answer .finished

section

variable {cfg : Config} {id : Uuid} {delivery : WebhookDelivery}

theorem follows_deadLetter (p : Stage) (reason : String) :
    (deadLetter id reason).Follows (Move cfg) (fun _ _ => True) p := by
  rintro (e | u)
  · exact ⟨p, .transition, trivial⟩
  · exact ⟨p, .transition, trivial⟩

theorem follows_retryOrDeadLetter (p : Stage) (reason : String) (now : Time) :
    (retryOrDeadLetter id delivery reason now).Follows (Move cfg) (fun _ _ => True) p := by
  unfold retryOrDeadLetter
  cases nextWebhookRetryAt (delivery.attemptCount + 1) now with
  | none => exact follows_deadLetter p _
  | some retryAt =>
      rintro (e | u)
      · exact ⟨p, .transition, trivial⟩
      · exact ⟨p, .transition, trivial⟩

/-- Once the request is made, the row is settled. -/
theorem follows_settle (outcome : SendOutcome) :
    (settle id delivery outcome).Follows (Move cfg) (fun _ _ => True) .finished := by
  unfold settle
  cases classifyWebhookDeliveryOutcome outcome with
  | success =>
      rintro (e | u)
      · exact ⟨.finished, .transition, trivial⟩
      · exact ⟨.finished, .transition, trivial⟩
  | permanent => exact follows_deadLetter .finished _
  | retryable => exact fun now => ⟨.finished, .now, follows_retryOrDeadLetter .finished _ now⟩

theorem follows_attempt : (attempt cfg.deps id delivery).Follows (Move cfg) (fun _ _ => True)
    (.read id delivery) := by
  rintro (e | merchant)
  · exact ⟨.finished, .findMerchant, trivial⟩
  cases hendpoint : merchant.bind Merchant.endpoint? with
  | none =>
      refine ⟨.finished, .findMerchant, ?_⟩
      show (deliver cfg.deps id delivery merchant).Follows _ _ _
      simp only [deliver, hendpoint]
      exact follows_deadLetter .finished _
  | some endpoint =>
      obtain ⟨url, stored⟩ := endpoint
      obtain ⟨merchant, rfl, hmerchant⟩ := Option.bind_eq_some_iff.mp hendpoint
      cases hsecret : Paymap.Shared.decryptWebhookSecret cfg.crypto stored.toList
          cfg.webhookEncryptionKey.toList with
      | error e =>
          refine ⟨.finished, .findMerchant, ?_⟩
          show (deliver cfg.deps id delivery _).Follows _ _ _
          simp only [deliver, hendpoint, Config.deps, hsecret]
          exact follows_deadLetter .finished _
      | ok secret =>
          refine ⟨_, .endpoint hmerchant hsecret, ?_⟩
          show (deliver cfg.deps id delivery _).Follows _ _ _
          have hopened : cfg.deps.decryptWebhookSecret stored cfg.deps.webhookEncryptionKey
              = .ok (.ofList secret) := by
            simp only [Config.deps, hsecret]
          simp only [deliver, hendpoint, hopened]
          refine fun now => ⟨_, .time, ?_⟩
          rintro (_ | outcome)
          · exact ⟨.finished, .send, trivial⟩
          · exact ⟨.finished, .send, follows_settle outcome⟩

theorem follows_processWebhookDelivery (id : Uuid) :
    (processWebhookDelivery cfg.deps id).Follows (Move cfg) (fun _ _ => True) (.opening id) := by
  rintro (e | _ | delivery)
  · exact ⟨.finished, .find, trivial⟩
  · exact ⟨.finished, .find, trivial⟩
  · refine ⟨.read id delivery, .found, ?_⟩
    rintro (e | u)
    · refine ⟨.read id delivery, .transition, ?_⟩
      cases e <;> trivial
    · exact ⟨.read id delivery, .transition, follows_attempt⟩

end

/-! ## The invariant -/

section

variable (cfg : Config) (h : List Deed) (s : Shared)

/-- The endpoint was registered by this merchant, who was told the secret. -/
def Told (merchantId : Uuid) (merchant : Merchant) : Prop :=
  ∀ url stored, merchant.endpoint? = some (url, stored) →
    ∃ secret, .registered merchantId url.toList secret ∈ h ∧ Opens cfg stored secret

def Stage.Fits : Stage → Prop
  | .read id delivery => Stores s id delivery
  | .endpoint id delivery url secret =>
      Stores s id delivery ∧ .registered delivery.merchantId url.toList secret ∈ h
  | .timed id delivery url secret now =>
      Stores s id delivery ∧ .registered delivery.merchantId url.toList secret ∈ h ∧ now ≤ s.clock
  | _ => True

/-- A request is signed for a row, with the secret of an endpoint that its merchant had registered. -/
def Deed.Accounted : Deed → Prop
  | .registered _ _ _ => True
  | .posted input request => ∃ id delivery url secret now pinned,
      Stores s id delivery ∧ .registered delivery.merchantId url.toList secret ∈ h ∧ now ≤ s.clock ∧
      input = sendInput cfg.deps delivery url (.ofList secret) now ∧
      request = Http.requestOf cfg.hmac (wireInput input) pinned

structure Sound (stages : List Stage) : Prop where
  rows : ∀ id row, s.db.webhookDeliveries.lookup id = some row →
    IsEventId row.eventId ∧ ∃ data : JsonValue, row.payload = .ofList data.stringify
  unique : ∀ id id' row row', s.db.webhookDeliveries.lookup id = some row →
    s.db.webhookDeliveries.lookup id' = some row' → row.eventId = row'.eventId → id = id'
  told : ∀ id merchant, s.db.merchants.lookup id = some merchant → Told cfg h id merchant
  fits : ∀ p ∈ stages, p.Fits h s
  accounted : ∀ before d after, h = before ++ d :: after → d.Accounted cfg before s

end

/-! ### What changes keep -/

/-- Rows keep their events, and time does not go back. -/
structure Keeps (s s' : Shared) : Prop where
  kept : Kept SameEvent s.db.webhookDeliveries s'.db.webhookDeliveries
  clock_le : s.clock ≤ s'.clock

section

variable {cfg : Config} {h h' : List Deed} {s s' : Shared} {stages : List Stage}

theorem Keeps.stores (hkeeps : Keeps s s') {id : Uuid} {delivery : WebhookDelivery}
    (hstores : Stores s id delivery) : Stores s' id delivery := by
  obtain ⟨row, hrow, hsame⟩ := hstores
  obtain ⟨row', hrow', hsame'⟩ := hkeeps.kept id row hrow
  exact ⟨row', hrow', hsame.trans _ _ _ hsame'⟩

theorem Keeps.fits (hkeeps : Keeps s s') (hsub : h ⊆ h') {p : Stage} (hfits : p.Fits h s) :
    p.Fits h' s' := by
  cases p with
  | opening id => trivial
  | finished => trivial
  | read id delivery => exact hkeeps.stores hfits
  | endpoint id delivery url secret => exact ⟨hkeeps.stores hfits.1, hsub hfits.2⟩
  | timed id delivery url secret now =>
      exact ⟨hkeeps.stores hfits.1, hsub hfits.2.1, hfits.2.2.trans hkeeps.clock_le⟩

theorem Keeps.accounted (hkeeps : Keeps s s') {d : Deed} (hd : d.Accounted cfg h s) :
    d.Accounted cfg h s' := by
  cases d with
  | registered merchantId url secret => trivial
  | posted input request =>
      obtain ⟨id, delivery, url, secret, now, pinned, hstores, hregistered, hnow, hrest⟩ := hd
      exact ⟨id, delivery, url, secret, now, pinned, hkeeps.stores hstores, hregistered,
        hnow.trans hkeeps.clock_le, hrest⟩

/-- A deed is added to the history. -/
theorem accounted_concat {d : Deed}
    (haccounted : ∀ before d after, h = before ++ d :: after → d.Accounted cfg before s)
    (hd : d.Accounted cfg h s) :
    ∀ before d' after, h ++ [d] = before ++ d' :: after → d'.Accounted cfg before s := by
  intro before d' after heq
  rcases List.eq_nil_or_concat after with rfl | ⟨after, last, rfl⟩
  · obtain ⟨rfl, hlast⟩ := List.append_inj' heq rfl
    obtain rfl := List.singleton_inj.mp hlast
    exact hd
  · rw [List.concat_eq_append, ← List.cons_append, ← List.append_assoc] at heq
    obtain ⟨rfl, -⟩ := List.append_inj' heq rfl
    exact haccounted before d' after rfl

/-- The rows and the merchants are as they must be, and so are the stages. -/
theorem Sound.change (hsound : Sound cfg h s stages) (hkeeps : Keeps s s') {stages' : List Stage}
    (hrows : ∀ id row, s'.db.webhookDeliveries.lookup id = some row →
      IsEventId row.eventId ∧ ∃ data : JsonValue, row.payload = .ofList data.stringify)
    (hunique : ∀ id id' row row', s'.db.webhookDeliveries.lookup id = some row →
      s'.db.webhookDeliveries.lookup id' = some row' → row.eventId = row'.eventId → id = id')
    (htold : ∀ id merchant, s'.db.merchants.lookup id = some merchant → Told cfg h id merchant)
    (hfits : ∀ p ∈ stages', p.Fits h s') : Sound cfg h s' stages' where
  rows := hrows
  unique := hunique
  told := htold
  fits := hfits
  accounted before d after heq := hkeeps.accounted (hsound.accounted before d after heq)

/-- Neither table changes. -/
theorem Sound.idle (hsound : Sound cfg h s stages) (hdb : s'.db = s.db) (hclock : s.clock ≤ s'.clock) :
    Sound cfg h s' stages := by
  have hkeeps : Keeps s s' := ⟨by rw [hdb]; exact .refl SameEvent.refl _, hclock⟩
  exact hsound.change hkeeps (hdb ▸ hsound.rows) (hdb ▸ hsound.unique) (hdb ▸ hsound.told)
    fun p hp => hkeeps.fits (List.Subset.refl h) (hsound.fits p hp)

/-- A deed is added of which nothing else need be known. -/
theorem Sound.add (hsound : Sound cfg h s stages) {d : Deed} (hd : d.Accounted cfg h s) :
    Sound cfg (h ++ [d]) s stages where
  rows := hsound.rows
  unique := hsound.unique
  told id merchant hlookup url stored hendpoint := by
    obtain ⟨secret, hmem, hopens⟩ := hsound.told id merchant hlookup url stored hendpoint
    exact ⟨secret, List.mem_append_left _ hmem, hopens⟩
  fits p hp := Keeps.fits ⟨.refl SameEvent.refl _, le_refl _⟩ (List.subset_append_left h _)
    (hsound.fits p hp)
  accounted := accounted_concat hsound.accounted hd

/-- A row is transitioned. -/
theorem Sound.transition (hsound : Sound cfg h s stages) {id : Uuid} {row : WebhookDelivery}
    (hrow : s.db.webhookDeliveries.lookup id = some row) (target : WebhookDeliveryStatus) (data : RowData) :
    Sound cfg h { s with db := s.db.setDelivery id (row.transitioned target data) } stages := by
  have hlookup : ∀ id', (s.db.setDelivery id (row.transitioned target data)).webhookDeliveries.lookup id'
      = if id' = id then some (row.transitioned target data)
        else s.db.webhookDeliveries.lookup id' := fun id' => lookup_setDelivery _ _ _ _
  -- a row has the event it had before
  have hbefore : ∀ {id' row'},
      (s.db.setDelivery id (row.transitioned target data)).webhookDeliveries.lookup id' = some row' →
      ∃ stored, s.db.webhookDeliveries.lookup id' = some stored ∧ SameEvent stored row' := by
    intro id' row' hrow'
    rw [hlookup] at hrow'
    split_ifs at hrow' with hid
    · cases hrow'
      exact ⟨row, hid ▸ hrow, sameEvent_transitioned row target data⟩
    · exact ⟨row', hrow', .refl row'⟩
  have hkeeps : Keeps s { s with db := s.db.setDelivery id (row.transitioned target data) } := by
    refine ⟨.insert SameEvent.refl fun before hlookup' => ?_, le_refl _⟩
    obtain rfl := Option.some.inj (hrow.symm.trans hlookup')
    exact sameEvent_transitioned row target data
  refine hsound.change hkeeps (fun id' row' hrow' => ?_) (fun i j r r' hr hr' heq => ?_) hsound.told
    fun p hp => hkeeps.fits (List.Subset.refl h) (hsound.fits p hp)
  · obtain ⟨stored, hstored, hsame⟩ := hbefore hrow'
    rw [hsame.eventId, hsame.payload]
    exact hsound.rows id' stored hstored
  · obtain ⟨stored, hstored, hsame⟩ := hbefore hr
    obtain ⟨stored', hstored', hsame'⟩ := hbefore hr'
    refine hsound.unique i j stored stored' hstored hstored' ?_
    rw [← hsame.eventId, ← hsame'.eventId, heq]

/-- A row of a new event is created, unless there is one of this id or this event. -/
theorem Sound.create (hsound : Sound cfg h s stages) (id merchantId : Uuid) (eventId : EventId)
    (eventType : String) (data : JsonValue) :
    Sound cfg h { s with
      db := createDelivery s.clock s.db id merchantId eventId eventType (.ofList data.stringify) }
      stages := by
  unfold createDelivery
  split_ifs with hthere
  · exact hsound
  rw [not_or] at hthere
  obtain ⟨hfree, hnew⟩ := hthere
  set row : WebhookDelivery :=
    ⟨merchantId, eventId, eventType, .ofList data.stringify, 0, none, .pending, s.clock⟩
  have hlookup : ∀ id', (s.db.setDelivery id row).webhookDeliveries.lookup id'
      = if id' = id then some row else s.db.webhookDeliveries.lookup id' :=
    fun id' => lookup_setDelivery _ _ _ _
  have hother : ∀ {id' row'}, s.db.webhookDeliveries.lookup id' = some row' →
      row'.eventId ≠ eventId := by
    intro id' row' hrow' heq
    refine hnew (List.any_eq_true.mpr ⟨row', FinMap.mem_values.mpr ⟨id', hrow'⟩, ?_⟩)
    exact decide_eq_true heq
  have hkeeps : Keeps s { s with db := s.db.setDelivery id row } := by
    refine ⟨.insert SameEvent.refl fun before hbefore => ?_, le_refl _⟩
    rw [hbefore] at hfree
    exact absurd rfl hfree
  refine hsound.change hkeeps (fun id' row' hrow' => ?_) (fun i j r r' hr hr' heq => ?_) hsound.told
    fun p hp => hkeeps.fits (List.Subset.refl h) (hsound.fits p hp)
  · change (s.db.setDelivery id row).webhookDeliveries.lookup id' = some row' at hrow'
    rw [hlookup] at hrow'
    split_ifs at hrow' with hid
    · cases hrow'
      exact ⟨eventId.property, data, rfl⟩
    · exact hsound.rows id' row' hrow'
  · change (s.db.setDelivery id row).webhookDeliveries.lookup i = some r at hr
    change (s.db.setDelivery id row).webhookDeliveries.lookup j = some r' at hr'
    rw [hlookup] at hr hr'
    split_ifs at hr hr' with hi hj hj
    · rw [hi, hj]
    · cases hr
      exact absurd heq.symm (hother hr')
    · cases hr'
      exact absurd heq (hother hr)
    · exact hsound.unique i j r r' hr hr' heq

/-- A merchant is written whose endpoint, if it has one, it was told the secret of. -/
theorem Sound.setMerchant (hsound : Sound cfg h s stages) {id : Uuid} {merchant : Merchant}
    (htold : Told cfg h id merchant) :
    Sound cfg h { s with db := { s.db with merchants := s.db.merchants.insert id merchant } } stages := by
  have hkeeps : Keeps s { s with
      db := { s.db with merchants := s.db.merchants.insert id merchant } } :=
    ⟨.refl SameEvent.refl _, le_refl _⟩
  refine hsound.change hkeeps hsound.rows hsound.unique (fun id' merchant' hlookup => ?_)
    fun p hp => hkeeps.fits (List.Subset.refl h) (hsound.fits p hp)
  change (s.db.merchants.insert id merchant).lookup id' = some merchant' at hlookup
  rw [FinMap.lookup_insert] at hlookup
  split_ifs at hlookup with hid
  · cases hlookup
    exact hid ▸ htold
  · exact hsound.told id' merchant' hlookup

end

/-! ## The steps -/

/-- Each worker is at some stage, and the invariant holds. -/
abbrev Tracked (cfg : Config) (h : List Deed) (s : System) : Prop :=
  Workers.Tracked (Move cfg) (Sound cfg h) s

section

variable {cfg : Config} {h : List Deed} {s : System}

/-- The tables and the clock change, no worker doing it. -/
theorem Tracked.update (htracked : Tracked cfg h s) {h' : List Deed} {shared : Shared}
    (hstep : ∀ stages, Sound cfg h s.shared stages → Sound cfg h' shared stages) :
    Tracked cfg h' { s with shared := shared } :=
  htracked.of_running_eq rfl hstep

theorem registerWebhookEndpoint_ok {net : Paymap.Shared.UrlGuard.Resolving} {random : Vector UInt8 24}
    {iv : Vector UInt8 Paymap.Shared.ivLengthBytes} {merchantId : Uuid} {url : String} {db db' : Db}
    {secret : Str} (hok : registerWebhookEndpoint cfg net random iv merchantId url db = .ok (secret, db')) :
    ∃ stored, Paymap.Shared.encryptWebhookSecret cfg.crypto secret cfg.webhookEncryptionKey.toList iv
        = .ok stored ∧
      db' = { db with
        merchants := db.merchants.insert merchantId ⟨some url, some (.ofList stored)⟩ } := by
  unfold registerWebhookEndpoint at hok
  obtain ⟨-, -, hok⟩ := Tx.bind_ok.mp hok
  obtain ⟨-, -, hok⟩ := Tx.bind_ok.mp hok
  dsimp only at hok
  split at hok
  · cases hok
  · rename_i stored hstored
    split at hok
    · cases hok
    · cases hok
      exact ⟨stored, hstored, rfl⟩

/-- The secret that is stored is the one that is told. -/
theorem told_register (hcrypto : cfg.crypto.Sound) {secret stored : Str}
    {iv : Vector UInt8 Paymap.Shared.ivLengthBytes} (hstored : Paymap.Shared.encryptWebhookSecret cfg.crypto
      secret cfg.webhookEncryptionKey.toList iv = .ok stored) (merchantId : Uuid) (url : String) :
    Told cfg (h ++ [.registered merchantId url.toList secret]) merchantId
      ⟨some url, some (.ofList stored)⟩ := by
  intro url' stored' hendpoint
  unfold Merchant.endpoint? at hendpoint
  dsimp only at hendpoint
  split_ifs at hendpoint
  cases hendpoint
  refine ⟨secret, List.mem_append_right _ List.mem_cons_self, ?_⟩
  unfold Opens
  rw [String.toList_ofList]
  exact Paymap.Shared.decryptWebhookSecret_encrypt hcrypto hstored

theorem tracked_register (hcrypto : cfg.crypto.Sound) (htracked : Tracked cfg h s) (merchantId : Uuid)
    (url : String) (net : Paymap.Shared.UrlGuard.Resolving) (random : Vector UInt8 24)
    (iv : Vector UInt8 Paymap.Shared.ivLengthBytes) :
    Tracked cfg (h ++ deeds cfg s (.register merchantId url net random iv))
      (exec cfg s (.register merchantId url net random iv)) := by
  cases hregister : registerWebhookEndpoint cfg net random iv merchantId url s.shared.db with
  | error e =>
      simp only [deeds, exec, hregister, List.append_nil]
      exact htracked
  | ok told =>
      obtain ⟨secret, db⟩ := told
      obtain ⟨stored, hstored, rfl⟩ := registerWebhookEndpoint_ok hregister
      simp only [deeds, exec, hregister]
      exact htracked.update fun stages hsound =>
        (hsound.add (d := .registered merchantId url.toList secret) trivial).setMerchant
          (told_register hcrypto hstored merchantId url)

/-! ### A worker's step -/

theorem sendWebhook_request {web : Web} {input : SendWebhookInput} {request : Http.FetchRequest}
    (hrequest : (sendWebhook cfg web input).1 = some request) :
    ∃ pinned, request = Http.requestOf cfg.hmac (wireInput input) pinned := by
  unfold sendWebhook Http.sendWebhook at hrequest
  split at hrequest
  · cases hrequest
  · split at hrequest
    · cases hrequest
    · cases hrequest
      exact ⟨_, rfl⟩

theorem Sound.set {shared : Shared} {stages : List Stage} (hsound : Sound cfg h shared stages) {i : ℕ}
    {p : Stage} (hp : p.Fits h shared) : Sound cfg h shared (stages.set i p) :=
  { hsound with
    fits := fun q hq => by
      rcases List.mem_or_eq_of_mem_set hq with hq | rfl
      · exact hsound.fits q hq
      · exact hp }

/-- **A worker's step.** -/
theorem Sound.perform {shared : Shared} {stages : List Stage} (hsound : Sound cfg h shared stages) {i : ℕ}
    {p p' : Stage} {e : Effect} {reply : Reply} (hp : stages[i]? = some p)
    (hmove : Move cfg p e (Webhook.perform reply e shared).1 p') :
    Sound cfg h (Webhook.perform reply e shared).2 (stages.set i p') := by
  have hfits : p.Fits h shared := hsound.fits p (List.mem_of_getElem? hp)
  have hother := perform_other reply (e := e) shared
  generalize hanswer : (Webhook.perform reply e shared).1 = answer at hmove
  cases hmove with
  | @transition _ id source target data _ =>
      rcases perform_transition reply id source target data shared with ⟨hsame, -⟩ |
        ⟨row, hrow, -, -, hafter, -⟩
      · rw [hsame]
        exact hsound.set hfits
      · have hnext := hsound.transition hrow target data
        rw [hafter]
        refine hnext.set ?_
        have hmem := List.mem_of_getElem? hp
        exact hnext.fits p hmem
  | find =>
      rw [hother (by simp)]
      exact hsound.set trivial
  | findMerchant =>
      rw [hother (by simp)]
      exact hsound.set trivial
  | now =>
      rw [hother (by simp)]
      exact hsound.set hfits
  | send =>
      rw [hother (by simp)]
      exact hsound.set trivial
  | found =>
      rename_i id delivery
      rw [hother (by simp)]
      refine hsound.set ⟨delivery, ?_, .refl delivery⟩
      cases reply with
      | served outcome => exact Except.ok.inj hanswer
      | lost => cases hanswer
      | unanswered => cases hanswer
  | endpoint hendpoint hopens =>
      rename_i id delivery merchant url stored secret
      rw [hother (by simp)]
      have hmerchant : shared.db.merchants.lookup delivery.merchantId = some merchant := by
        cases reply with
        | served outcome => exact Except.ok.inj hanswer
        | lost => cases hanswer
        | unanswered => cases hanswer
      obtain ⟨told, hregistered, hopens'⟩ := hsound.told _ _ hmerchant url stored hendpoint
      obtain rfl : secret = told := Except.ok.inj (hopens.symm.trans hopens')
      exact hsound.set ⟨hfits, hregistered⟩
  | time =>
      rename_i id delivery url secret
      rw [hother (by simp)]
      exact hsound.set ⟨hfits.1, hfits.2, hanswer.symm.le⟩

theorem sending?_other {worker : ℕ} (hnone : ∀ input k, s.running[worker]? ≠ some (.call (.send input) k)) :
    sending? s worker = none := by
  unfold sending?
  split
  · rename_i input k hw
    exact absurd hw (hnone input k)
  · rfl

/-- What is noted of a step in which nothing is sent. -/
theorem deeds_work_other {worker : ℕ} {web : Web} {fate : Fate}
    (hnone : ∀ input k, s.running[worker]? ≠ some (.call (.send input) k)) :
    deeds cfg s (.work worker web fate) = [] := by
  simp [deeds, sending?_other hnone]

/-- A request is noted when it is made. -/
theorem deeds_work_send {worker : ℕ} {web : Web} {fate : Fate} {input : SendWebhookInput}
    {k : Answer (.send input) → Worker WebhookDeliveryOutcome}
    (hw : s.running[worker]? = some (.call (.send input) k)) :
    deeds cfg s (.work worker web fate) = [] ∨ ∃ pinned, deeds cfg s (.work worker web fate)
      = [.posted input (Http.requestOf cfg.hmac (wireInput input) pinned)] := by
  have hsending : sending? s worker = some input := by
    unfold sending?
    rw [hw]
  by_cases hlost : fate = .lost
  · exact .inl (by simp [deeds, hlost])
  · cases hrequest : (sendWebhook cfg web input).1 with
    | none => exact .inl (by simp [deeds, hlost, hsending, hrequest])
    | some request =>
        obtain ⟨pinned, rfl⟩ := sendWebhook_request hrequest
        exact .inr ⟨pinned, by simp [deeds, hlost, hsending, hrequest]⟩

theorem tracked_work (htracked : Tracked cfg h s) (worker : ℕ) (web : Web) (fate : Fate) :
    Tracked cfg (h ++ deeds cfg s (.work worker web fate)) (exec cfg s (.work worker web fate)) := by
  refine Workers.Tracked.work_to htracked (fun stages p e k p' hsound hp hw hmove => ?_)
    fun hidle stages hsound => ?_
  · have hnext := hsound.perform hp hmove
    by_cases hsend : ∃ input, e = .send input
    · obtain ⟨input, rfl⟩ := hsend
      rcases @deeds_work_send cfg s worker web fate _ _ hw with hnone | ⟨pinned, hposted⟩
      · rw [hnone, List.append_nil]
        exact hnext
      · rw [hposted]
        apply hnext.add
        have hfits := hsound.fits p (List.mem_of_getElem? hp)
        rw [perform_other _ _ (by simp)]
        cases hmove with
        | send => exact ⟨_, _, _, _, _, pinned, hfits.1, hfits.2.1, hfits.2.2, rfl, rfl⟩
    · rw [deeds_work_other, List.append_nil]
      · exact hnext
      · intro input k' hw'
        cases hw.symm.trans hw'
        exact hsend ⟨input, rfl⟩
  · rw [deeds_work_other, List.append_nil]
    · exact hsound
    · exact fun input k => hidle (.send input) k

/-! ### Runs -/

theorem tracked_background (htracked : Tracked cfg h s) {action : Action}
    (hbackground : IsBackground action = true) : Tracked cfg h (Webhook.exec cfg.deps s action) := by
  cases action with
  | create id merchantId eventId eventType payload => cases hbackground
  | setMerchant id merchant => cases hbackground
  | work worker reply => cases hbackground
  | crash worker => exact htracked.stop .crashed worker
  | tick ms => exact htracked.update fun _ hsound => hsound.idle rfl (Nat.le_add_right _ _)
  | schedule => exact htracked.update fun _ hsound => hsound.idle rfl (le_refl _)
  | stall id => exact htracked.update fun _ hsound => hsound.idle rfl (le_refl _)
  | stallFail id => exact htracked.update fun _ hsound => hsound.idle rfl (le_refl _)
  | report worker =>
      refine htracked.update fun _ hsound => ?_
      unfold outsideEffect
      dsimp only
      split
      · exact hsound.idle rfl (le_refl _)
      · exact hsound
  | take id =>
      show Tracked cfg h (if _ then _ else _)
      split_ifs
      · have htaken : Tracked cfg h { s with shared := outsideEffect s (.take id) } :=
          htracked.update fun _ hsound => hsound.idle rfl (le_refl _)
        refine htaken.start (follows_processWebhookDelivery id) fun stages hsound => ?_
        refine { hsound with fits := fun p hp => ?_ }
        rcases List.mem_append.mp hp with hp | hp
        · exact hsound.fits p hp
        · obtain rfl := List.mem_singleton.mp hp
          trivial
      · exact htracked

theorem tracked_exec (hcrypto : cfg.crypto.Sound) (htracked : Tracked cfg h s) (act : Act) :
    Tracked cfg (h ++ deeds cfg s act) (exec cfg s act) := by
  cases act with
  | register merchantId url net random iv => exact tracked_register hcrypto htracked ..
  | work worker web fate => exact tracked_work htracked worker web fate
  | background action hbackground =>
      rw [show deeds cfg s (.background action hbackground) = [] from rfl, List.append_nil]
      exact tracked_background htracked hbackground
  | createMerchant id =>
      rw [show deeds cfg s (.createMerchant id) = [] from rfl, List.append_nil]
      show Tracked cfg h (if _ then _ else _)
      split_ifs
      · exact htracked
      · exact htracked.update fun _ hsound => hsound.setMerchant fun _ _ hendpoint => by cases hendpoint
  | enqueue id merchantId eventId eventType payload =>
      rw [show deeds cfg s (.enqueue id merchantId eventId eventType payload) = [] from rfl,
        List.append_nil]
      exact htracked.update fun _ hsound => hsound.create id merchantId eventId eventType payload
  | test id merchantId url net random =>
      rw [show deeds cfg s (.test id merchantId url net random) = [] from rfl, List.append_nil]
      cases htest : testWebhookEndpoint cfg net random id merchantId url s.shared.clock s.shared.db with
      | error e =>
          simp only [exec, htest]
          exact htracked
      | ok db =>
          simp only [exec, htest]
          obtain ⟨-, -, htest⟩ := Tx.bind_ok.mp htest
          obtain ⟨-, -, htest⟩ := Tx.bind_ok.mp htest
          cases htest
          exact htracked.update fun _ hsound => hsound.create id merchantId _ _ _

theorem tracked_initial (cfg : Config) : Tracked cfg [] initial :=
  ⟨[], ⟨rfl, fun hp => by cases hp⟩,
    { rows := fun _ _ hlookup => by cases hlookup
      unique := fun _ _ _ _ hlookup => by cases hlookup
      told := fun _ _ hlookup => by cases hlookup
      fits := fun _ hp => by cases hp
      accounted := fun before _ _ heq => by cases before <;> cases heq }⟩

/-- **In every run.** -/
theorem tracked_run (hcrypto : cfg.crypto.Sound) (acts : List Act) :
    Tracked cfg (history cfg acts) (run cfg acts) := by
  have hstep : ∀ (q : System × List Deed) (act : Act), Tracked cfg q.2 q.1 →
      Tracked cfg (Runs.noting (exec cfg) (deeds cfg) q act).2
        (Runs.noting (exec cfg) (deeds cfg) q act).1 := fun q act hq => tracked_exec hcrypto hq act
  have hrun := Runs.run_invariant (P := fun q : System × List Deed => Tracked cfg q.2 q.1) hstep
    (s := (initial, [])) (tracked_initial cfg) acts
  rwa [Runs.run_noting, List.nil_append] at hrun

end

end Paymap.Webhook.Endpoints
