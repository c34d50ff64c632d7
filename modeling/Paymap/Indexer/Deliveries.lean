import Paymap.Indexer.Coverage

set_option autoImplicit false

/-! # A webhook for each lifecycle event, once

The id of a delivery is the one of its event, and the insert skips an id that is there, so no event
gets a second delivery however often it is processed. The owner comes from the row of the mandate, or
from the wallet address in the event; both name the merchant the mandate is stored with. And an event
whose merchant is known when it is processed has its delivery from then on. With pages that begin
where the cursor stands, no event between the first row and the current one is left out.
-/

namespace Paymap.Indexer

open Registry (Address BytesN Host)
open Relayer (Uuid)

section

variable {T : Type} {host : Host T} {retention : ℕ}

/-! ## What is delivered -/

/-- The deliveries of an event. -/
def Db.deliveriesOf (db : Db) (rpcEventId : ℕ) : List WebhookDelivery :=
  db.webhookDeliveries.filter fun delivery => delivery.eventId = .chain rpcEventId

/-- The delivery is that of a lifecycle event, and goes to the merchant with the event's wallet. -/
def WebhookDelivery.Addressed (chain : Chain T) (merchants : FinMap Uuid Address)
    (delivery : WebhookDelivery) : Prop :=
  ∀ rpcEventId, delivery.eventId = .chain rpcEventId → ∃ event, chain.OnChain event ∧
    event.rpcEventId = rpcEventId ∧ eventToWebhook event.kind = some delivery.eventType ∧
    merchants.lookup delivery.merchantId = some event.merchant

structure Delivered (h : List Deed) (s : Shared T) : Prop where
  sound : s.chain.Sound
  once : ∀ rpcEventId, (s.db.deliveriesOf rpcEventId).length ≤ 1
  addressed : ∀ delivery ∈ s.db.webhookDeliveries, delivery.Addressed s.chain s.db.merchants
  delivered : ∀ event, Deed.processed event true ∈ h → (eventToWebhook event.kind).isSome →
    s.db.deliveriesOf event.rpcEventId ≠ []
  /-- A row belongs to the merchant its mandate is stored with. -/
  rows : ∀ mandateId row, s.db.mandateIndex.lookup mandateId = some row →
    ∃ merchant, Owns s.chain.ledger.storage mandateId merchant ∧
      s.db.merchants.lookup row.merchantId = some merchant

/-- What a worker knows of the events it holds, and of their merchants. -/
def Phase.Knows (s : Shared T) : Phase → Prop
  | .applying _ todo => ∀ event ∈ todo, s.chain.OnChain event
  | .writing _ event merchantId todo =>
      (∀ held ∈ event :: todo, s.chain.OnChain held) ∧
        s.db.merchants.lookup merchantId = some event.merchant
  | .reading merchantId walletAddress _ => s.db.merchants.lookup merchantId = some walletAddress
  | .refreshing merchantId mandateId mandate =>
      s.db.merchants.lookup merchantId = some mandate.merchant ∧
        Owns s.chain.ledger.storage mandateId mandate.merchant
  | _ => True

section

variable {h ds : List Deed} {s s' : Shared T}

/-- The chain goes on, and no merchant changes or disappears. -/
structure Later (s s' : Shared T) : Prop where
  chain : s.chain.Extends s'.chain
  merchants : ∀ {id : Uuid} {walletAddress : Address},
    s.db.merchants.lookup id = some walletAddress →
    s'.db.merchants.lookup id = some walletAddress

theorem later_of_eq (hchain : s'.chain = s.chain) (hmerchants : s'.db.merchants = s.db.merchants) :
    Later s s' := ⟨hchain ▸ .refl _, fun hid => hmerchants ▸ hid⟩

theorem Phase.Knows.later {p : Phase} (hp : p.Knows s) (hlater : Later s s') : p.Knows s' := by
  cases p with
  | applying task todo => exact fun event hmem => hlater.chain.onChain (hp event hmem)
  | writing task event merchantId todo =>
      exact ⟨fun event hmem => hlater.chain.onChain (hp.1 event hmem), hlater.merchants hp.2⟩
  | reading merchantId walletAddress mandateId => exact hlater.merchants hp
  | refreshing merchantId mandateId mandate =>
      exact ⟨hlater.merchants hp.1, hlater.chain.owns hp.2⟩
  | _ => trivial

theorem WebhookDelivery.Addressed.later {delivery : WebhookDelivery}
    (haddressed : delivery.Addressed s.chain s.db.merchants) (hlater : Later s s') :
    delivery.Addressed s'.chain s'.db.merchants := by
  intro rpcEventId hid
  obtain ⟨event, hon, heventId, htype, hmerchant⟩ := haddressed rpcEventId hid
  exact ⟨event, hlater.chain.onChain hon, heventId, htype, hlater.merchants hmerchant⟩

/-- Neither the index nor the deliveries change, and nothing was processed for a known merchant. -/
theorem Delivered.later (hd : Delivered h s) (hlater : Later s s') (hsound : s'.chain.Sound)
    (hdeeds : ∀ event, Deed.processed event true ∉ ds)
    (hindex : s'.db.mandateIndex = s.db.mandateIndex)
    (hdeliveries : s'.db.webhookDeliveries = s.db.webhookDeliveries) : Delivered (h ++ ds) s' where
  sound := hsound
  once rpcEventId := by
    rw [Db.deliveriesOf, hdeliveries]
    exact hd.once rpcEventId
  addressed delivery hmem := by
    rw [hdeliveries] at hmem
    exact (hd.addressed delivery hmem).later hlater
  delivered event hmem hsome := by
    rw [Db.deliveriesOf, hdeliveries]
    rcases List.mem_append.mp hmem with hmem | hmem
    · exact hd.delivered event hmem hsome
    · exact absurd hmem (hdeeds event)
  rows mandateId row hrow := by
    rw [hindex] at hrow
    obtain ⟨merchant, howns, hmerchant⟩ := hd.rows mandateId row hrow
    exact ⟨merchant, hlater.chain.owns howns, hlater.merchants hmerchant⟩

theorem Db.merchantOf_some {db : Db} {walletAddress : Address} {id : Uuid}
    (h : db.merchantOf walletAddress = some id) : db.merchants.lookup id = some walletAddress := by
  obtain ⟨wallet, hlookup, hwallet⟩ := FinMap.mem_keysWhere.mp (List.mem_of_head? h)
  rw [hlookup, of_decide_eq_true hwallet]

theorem mem_getEvents {chain : Chain T} {scanned : ℕ} {request : GetEventsRequest}
    {response : GetEventsResponse}
    (hanswer : chain.getEvents retention scanned request = .ok response) :
    ∀ raw ∈ response.events, raw ∈ chain.stream := by
  have hrespond : ∃ start size, response = chain.respond retention start size := by
    cases request with
    | cursor cursor limit => exact ⟨_, _, getEvents_cursor hanswer⟩
    | startLedger startLedger limit => exact ⟨_, _, (getEvents_startLedger hanswer).1⟩
  obtain ⟨start, size, rfl⟩ := hrespond
  exact fun raw hmem => List.mem_of_mem_drop (List.mem_of_mem_take hmem)

theorem owns_of_getMandate {l : Registry.Ledger T} {mandateId : BytesN} {mandate : Registry.Mandate}
    (h : Registry.getMandate l mandateId = .ok mandate) :
    Owns l.storage mandateId mandate.merchant := by
  unfold Registry.getMandate at h
  obtain ⟨stored, hstored, hret⟩ := Tx.bind_ok.mp h
  cases hret
  exact ⟨stored, Registry.okOr_ok.mp hstored, rfl⟩

/-! ## Writing an event -/

theorem lookup_upsert (now : Relayer.Time) (db : Db) (event : MandateLifecycleEvent)
    (merchantId : Uuid) (assetAddress : Address) {mandateId : BytesN} {row : MandateIndex}
    (hrow : (upsertMandateIndexFromEvent now db event merchantId
      assetAddress).mandateIndex.lookup mandateId = some row) :
    db.mandateIndex.lookup mandateId = some row ∨
      (mandateId = event.mandateId ∧ row.merchantId = merchantId) := by
  unfold upsertMandateIndexFromEvent at hrow
  split at hrow
  · rw [FinMap.lookup_insert] at hrow
    split at hrow
    · rename_i heq
      cases hrow
      exact .inr ⟨heq, rfl⟩
    · exact .inl hrow
  · split at hrow
    · rw [FinMap.lookup_insert] at hrow
      split at hrow
      · rename_i heq
        cases hrow
        exact .inr ⟨heq, rfl⟩
      · exact .inl hrow
    · exact .inl hrow

/-- The insert skips an id that is there. -/
theorem deliveriesOf_enqueue (db : Db) (delivery : WebhookDelivery) (rpcEventId : ℕ) :
    (enqueueDeterministicWebhook db delivery).deliveriesOf rpcEventId
      = if delivery.eventId = .chain rpcEventId ∧ db.deliveriesOf rpcEventId = [] then [delivery]
        else db.deliveriesOf rpcEventId := by
  unfold enqueueDeterministicWebhook
  split
  · rename_i hany
    obtain ⟨d, hmem, hd⟩ := List.any_eq_true.mp hany
    rw [if_neg]
    rintro ⟨hid, hnone⟩
    have hthere : d ∈ db.deliveriesOf rpcEventId :=
      List.mem_filter.mpr ⟨hmem, by rw [← hid]; exact hd⟩
    rw [hnone] at hthere
    cases hthere
  · rename_i hany
    show List.filter _ (db.webhookDeliveries ++ [delivery]) = _
    rw [List.filter_append]
    by_cases hid : delivery.eventId = .chain rpcEventId
    · have hnone : db.deliveriesOf rpcEventId = [] := by
        refine List.filter_eq_nil_iff.mpr fun d hmem hd => hany (List.any_eq_true.mpr ⟨d, hmem, ?_⟩)
        rw [hid]
        exact hd
      rw [if_pos ⟨hid, hnone⟩]
      show db.deliveriesOf rpcEventId ++ _ = _
      rw [hnone]
      simp [hid]
    · rw [if_neg fun hboth => hid hboth.1]
      simp [hid, Db.deliveriesOf]

theorem mem_enqueue {db : Db} {delivery d : WebhookDelivery}
    (hmem : d ∈ (enqueueDeterministicWebhook db delivery).webhookDeliveries) :
    d ∈ db.webhookDeliveries ∨ d = delivery := by
  unfold enqueueDeterministicWebhook at hmem
  split at hmem
  · exact .inl hmem
  · rcases List.mem_append.mp hmem with hmem | hmem
    · exact .inl hmem
    · exact .inr (List.mem_singleton.mp hmem)

/-- **An event is written** for the merchant with its wallet address. -/
theorem Delivered.write (hd : Delivered h s) {event : MandateLifecycleEvent} {merchantId : Uuid}
    (assetAddress : Address) (registered : Bool) (hon : s.chain.OnChain event)
    (hmerchant : s.db.merchants.lookup merchantId = some event.merchant) :
    Delivered (h ++ [.processed event registered])
      { s with db := transact s.clock s.db (eventStatements event merchantId assetAddress) } := by
  rw [transact_eventStatements]
  refine ⟨hd.sound, fun rpcEventId => ?_, fun delivery hmem => ?_, fun event' hmem hsome => ?_,
    fun mandateId row hrow => ?_⟩
  · cases htype : eventToWebhook event.kind with
    | none =>
        show (s.db.deliveriesOf rpcEventId).length ≤ 1
        exact hd.once rpcEventId
    | some eventType =>
        show ((enqueueDeterministicWebhook s.db _).deliveriesOf rpcEventId).length ≤ 1
        rw [deliveriesOf_enqueue]
        split
        · exact le_rfl
        · exact hd.once rpcEventId
  · cases htype : eventToWebhook event.kind with
    | none =>
        rw [htype] at hmem
        exact hd.addressed delivery hmem
    | some eventType =>
        rw [htype] at hmem
        rcases mem_enqueue hmem with hmem | rfl
        · exact hd.addressed delivery hmem
        · intro rpcEventId hid
          obtain rfl := EventId.chain.inj hid
          exact ⟨event, hon, rfl, htype, hmerchant⟩
  · have hold : Deed.processed event' true ∈ h → s.db.deliveriesOf event'.rpcEventId ≠ [] :=
      fun hbefore => hd.delivered event' hbefore hsome
    cases htype : eventToWebhook event.kind with
    | none =>
        show s.db.deliveriesOf event'.rpcEventId ≠ []
        rcases List.mem_append.mp hmem with hmem | hmem
        · exact hold hmem
        · obtain ⟨rfl, -⟩ := Deed.processed.inj (List.mem_singleton.mp hmem)
          rw [htype] at hsome
          cases hsome
    | some eventType =>
        show (enqueueDeterministicWebhook s.db _).deliveriesOf event'.rpcEventId ≠ []
        rw [deliveriesOf_enqueue]
        split
        · simp
        · rename_i hnot
          rcases List.mem_append.mp hmem with hmem | hmem
          · exact hold hmem
          · obtain ⟨rfl, -⟩ := Deed.processed.inj (List.mem_singleton.mp hmem)
            exact fun hnone => hnot ⟨rfl, hnone⟩
  · rcases lookup_upsert _ _ _ _ _ hrow with hbefore | ⟨rfl, hnew⟩
    · exact hd.rows mandateId row hbefore
    · exact ⟨event.merchant, hon.owns hd.sound, hnew ▸ hmerchant⟩

/-- A refresh keeps the owner of a row, or makes a row for the merchant that has asked. -/
theorem lookup_refresh (now : Relayer.Time) (db : Db) (mandateId : BytesN) (merchantId : Uuid)
    (mandate : Registry.Mandate) (writesPayer : Bool) {mandateId' : BytesN} {row : MandateIndex}
    (hrow : (refreshMandateIndex now db mandateId merchantId mandate
      writesPayer).mandateIndex.lookup mandateId' = some row) :
    (∃ row₀, db.mandateIndex.lookup mandateId' = some row₀ ∧ row.merchantId = row₀.merchantId) ∨
      (mandateId' = mandateId ∧ row.merchantId = merchantId) := by
  unfold refreshMandateIndex at hrow
  split at hrow
  · rw [FinMap.lookup_insert] at hrow
    split at hrow
    · rename_i heq
      cases hrow
      exact .inr ⟨heq, rfl⟩
    · exact .inl ⟨row, hrow, rfl⟩
  · rename_i row₀ hrow₀
    rw [FinMap.lookup_insert] at hrow
    split at hrow
    · rename_i heq
      cases hrow
      exact .inl ⟨row₀, heq ▸ hrow₀, rfl⟩
    · exact .inl ⟨row, hrow, rfl⟩

theorem Delivered.refresh (hd : Delivered h s) {mandateId : BytesN} {merchantId : Uuid}
    {mandate : Registry.Mandate} (writesPayer : Bool)
    (hmerchant : s.db.merchants.lookup merchantId = some mandate.merchant)
    (howns : Owns s.chain.ledger.storage mandateId mandate.merchant) :
    Delivered h { s with
      db := refreshMandateIndex s.clock s.db mandateId merchantId mandate writesPayer } := by
  have hrows : ∀ mandateId' row, (refreshMandateIndex s.clock s.db mandateId merchantId mandate
      writesPayer).mandateIndex.lookup mandateId' = some row →
      ∃ merchant, Owns s.chain.ledger.storage mandateId' merchant ∧
        s.db.merchants.lookup row.merchantId = some merchant := by
    intro mandateId' row hrow
    rcases lookup_refresh _ _ _ _ _ _ hrow with ⟨row₀, hrow₀, hsame⟩ | ⟨rfl, hnew⟩
    · exact hsame ▸ hd.rows mandateId' row₀ hrow₀
    · exact ⟨mandate.merchant, howns, hnew ▸ hmerchant⟩
  rw [refreshMandateIndex_frame]
  exact ⟨hd.sound, hd.once, hd.addressed, hd.delivered, hrows⟩

/-! ## One action -/

/-- **A worker's step.** -/
theorem Delivered.worked {reply : Reply} {p p' : Phase} {e : Effect} (hd : Delivered h s)
    (hp : p.Knows s) (hw : Worked retention reply s p e s' p' ds) :
    Delivered (h ++ ds) s' ∧ p'.Knows s' ∧ Later s s' := by
  have hstays : Later s s := later_of_eq rfl rfl
  have hkept : ∀ ds, (∀ event, Deed.processed event true ∉ ds) → Delivered (h ++ ds) s :=
    fun ds hdeeds => hd.later hstays hd.sound hdeeds rfl rfl
  have hsilent : Delivered (h ++ []) s := hkept [] fun event hmem => by cases hmem
  cases hw with
  | idle => exact ⟨hsilent, hp, hstays⟩
  | page stored startLedger scanned request response _ hanswer _ =>
      refine ⟨hsilent, fun event hmem => ?_, hstays⟩
      obtain ⟨raw, hraw, hevent⟩ := List.mem_filterMap.mp hmem
      exact ⟨raw, mem_getEvents hanswer raw hraw, hevent⟩
  | owned task event todo row hrow =>
      refine ⟨hsilent, ⟨hp, ?_⟩, hstays⟩
      -- the row and the event name the same merchant
      obtain ⟨merchant, howns, hmerchant⟩ := hd.rows event.mandateId row hrow
      rwa [howns.unique ((hp event List.mem_cons_self).owns hd.sound)] at hmerchant
  | skip task event todo =>
      refine ⟨hkept _ fun event' hmem => ?_, fun event' hmem => ?_, hstays⟩
      · cases List.mem_singleton.mp hmem
      · exact hp event' (List.mem_cons_of_mem _ hmem)
  | found task event todo merchantId hregistered =>
      exact ⟨hsilent, ⟨hp, Db.merchantOf_some hregistered⟩, hstays⟩
  | write task event merchantId todo assetAddress =>
      refine ⟨hd.write assetAddress _ (hp.1 event List.mem_cons_self) hp.2, ?_, ?_⟩
      · exact fun event' hmem => hp.1 event' (List.mem_cons_of_mem _ hmem)
      · exact later_of_eq rfl (transact_eventStatements_merchants _ _ _ _ _)
  | create startLedger next _ =>
      have hlater : Later s { s with db := { s.db with indexerCursor := some next } } :=
        later_of_eq rfl rfl
      exact ⟨hd.later hlater hd.sound (fun event hmem => by cases List.mem_singleton.mp hmem) rfl rfl,
        trivial, hlater⟩
  | update previous startLedger next _ =>
      have hlater : Later s { s with db := { s.db with indexerCursor := some next } } :=
        later_of_eq rfl rfl
      exact ⟨hd.later hlater hd.sound (fun event hmem => by cases List.mem_singleton.mp hmem) rfl rfl,
        trivial, hlater⟩
  | merchantRead merchantId mandateId walletAddress hregistered =>
      exact ⟨hsilent, hregistered, hstays⟩
  | mandateRead merchantId mandateId mandate hanswer =>
      exact ⟨hsilent, ⟨hp, owns_of_getMandate hanswer⟩, hstays⟩
  | refresh merchantId mandateId mandate writesPayer =>
      refine ⟨?_, trivial, ?_⟩
      · rw [List.append_nil]
        exact hd.refresh writesPayer hp.1 hp.2
      · exact later_of_eq rfl (refreshMandateIndex_merchants _ _ _ _ _ _)
  | _ => exact ⟨hsilent, trivial, hstays⟩

theorem Delivered.happens (hd : Delivered h s) (hh : Happens host s s') :
    Delivered h s' ∧ Later s s' := by
  have hnothing : ∀ event, Deed.processed event true ∉ [] := fun event hmem => by cases hmem
  have hkept : Later s s' → s'.chain.Sound → s'.db.mandateIndex = s.db.mandateIndex →
      s'.db.webhookDeliveries = s.db.webhookDeliveries → Delivered h s' := by
    intro hlater hsound hindex hdeliveries
    have hafter : Delivered (h ++ []) s' := hd.later hlater hsound hnothing hindex hdeliveries
    rwa [List.append_nil] at hafter
  cases hh with
  | passes ms =>
      have hlater : Later s { s with clock := s.clock + ms } := later_of_eq rfl rfl
      exact ⟨hkept hlater hd.sound rfl rfl, hlater⟩
  | closes included =>
      obtain ⟨hsound, hext⟩ : (s.chain.close host included).Sound ∧
        s.chain.Extends (s.chain.close host included) := Chain.close_sound hd.sound included
      exact ⟨hkept ⟨hext, fun hid => hid⟩ hsound rfl rfl, hext, fun hid => hid⟩
  | registers id walletAddress hfresh =>
      have hmerchants : ∀ {id' wallet}, s.db.merchants.lookup id' = some wallet →
          (s.db.merchants.insert id walletAddress).lookup id' = some wallet := by
        intro id' wallet hlookup
        rw [FinMap.lookup_insert, if_neg, hlookup]
        rintro rfl
        cases hfresh.symm.trans hlookup
      exact ⟨hkept ⟨.refl _, hmerchants⟩ hd.sound rfl rfl, .refl _, hmerchants⟩
  | enqueues merchantId uuid eventType =>
      -- another producer's delivery has no event's id
      have hlater : Later s { s with db := { s.db with
          webhookDeliveries := s.db.webhookDeliveries ++
            [⟨merchantId, .random uuid, eventType, none⟩] } } := later_of_eq rfl rfl
      have hsame : ∀ rpcEventId, Db.deliveriesOf { s.db with
          webhookDeliveries := s.db.webhookDeliveries ++
            [⟨merchantId, .random uuid, eventType, none⟩] } rpcEventId
          = s.db.deliveriesOf rpcEventId := by
        intro rpcEventId
        simp [Db.deliveriesOf]
      refine ⟨⟨hd.sound, fun rpcEventId => ?_, fun delivery hmem => ?_, fun event hmem hsome => ?_,
        hd.rows⟩, hlater⟩
      · rw [hsame]
        exact hd.once rpcEventId
      · rcases List.mem_append.mp hmem with hmem | hmem
        · exact hd.addressed delivery hmem
        · obtain rfl := List.mem_singleton.mp hmem
          intro rpcEventId hid
          cases hid
      · rw [hsame]
        exact hd.delivered event hmem hsome

end

/-- The invariant of a run: each event has its delivery, and workers know whom theirs belong to. -/
abbrev Delivers (q : System T × List Deed) : Prop :=
  Workers.Tracked Move (fun s phases => Delivered q.2 s ∧ ∀ p ∈ phases, Phase.Knows s p) q.1

theorem delivers_exec (q : System T × List Deed) (action : Action T) (h : Delivers q) :
    Delivers (execNoting host retention q action) := by
  refine @tracked_execNoting T host retention Delivered (fun _ s p => Phase.Knows s p) q action h
    ?_ ?_ ?_
  · intro i reply p e k s' p' ds _ _ hd hp hw
    obtain ⟨hd', hp', hlater⟩ := hd.worked hp hw
    exact ⟨hd', hp', fun p₀ hp₀ => hp₀.later hlater⟩
  · rintro p (_ | _)
    · trivial
    · trivial
  · intro s' hh hd
    obtain ⟨hd', hlater⟩ := hd.happens hh
    exact ⟨hd', fun p₀ hp₀ => hp₀.later hlater⟩

theorem delivered_initial (t₀ : U64) (tok₀ : T) (sequence : ℕ) :
    Delivered [] (initial t₀ tok₀ sequence).shared where
  sound := Chain.genesis_sound t₀ tok₀ sequence
  once rpcEventId := Nat.zero_le _
  addressed delivery hmem := by cases hmem
  delivered event hmem := by cases hmem
  rows mandateId row hrow := by cases hrow

theorem delivered_run (host : Host T) (retention : ℕ) (t₀ : U64) (tok₀ : T) (sequence : ℕ)
    (actions : List (Action T)) :
    Delivered (deeds host retention (initial t₀ tok₀ sequence) actions)
      (run host retention (initial t₀ tok₀ sequence) actions).shared := by
  have hrun := @Runs.run_invariant _ _ (execNoting host retention) Delivers
    (fun q action => delivers_exec q action) (initial t₀ tok₀ sequence, [])
    ⟨[], ⟨rfl, fun hi => by cases hi⟩, delivered_initial t₀ tok₀ sequence, fun p hp => by cases hp⟩
    actions
  rw [Runs.run_noting] at hrun
  obtain ⟨phases, -, hd, -⟩ := hrun
  exact hd

/-! ## Exactly once -/

/-- The page that is asked for begins where the cursor stands. -/
def Consistent (retention : ℕ) (s : System T) (action : Action T) : Prop :=
  ∀ cursor ∈ polled s action, Feed.firstFrom EventResponse.ledger
    (s.shared.chain.oldestLedger retention) s.shared.chain.stream ≤ cursor.consumed

instance (retention : ℕ) (s : System T) (action : Action T) :
    Decidable (Consistent retention s action) := by
  unfold Consistent
  infer_instance

theorem lossless_of_consistent {P : MandateLifecycleEvent → Prop} {q : System T × List Deed}
    {action : Action T} (hrows : Rows q.2 q.1.shared) (h : Consistent retention q.1 action) :
    Lossless P retention q action := by
  intro stored _ hpolled _ event hon _ hunread
  obtain ⟨raw, hi, -, hledger⟩ := hon.entry hrows.sound
  rw [← hledger]
  refine Feed.le_stamp_of_firstFrom_le hrows.sound.ordered hi ?_
  exact (h stored.cursor hpolled).trans hunread

/-- No event has two deliveries, and each goes to the merchant whose wallet is the event's merchant. -/
def AtMostOnce (s : Shared T) : Prop :=
  (∀ rpcEventId, (s.db.deliveriesOf rpcEventId).length ≤ 1) ∧
    ∀ delivery ∈ s.db.webhookDeliveries, delivery.Addressed s.chain s.db.merchants

/-- Every event with a webhook between the first row and the current one was processed, and has one
delivery if its merchant was registered when it was. -/
def ExactlyOnce (h : List Deed) (s : Shared T) : Prop :=
  ∀ first current, firstStored h = some first → s.db.indexerCursor = some current →
    ∀ event, s.chain.OnChain event → (eventToWebhook event.kind).isSome →
      first.cursor.consumed ≤ event.rpcEventId → event.rpcEventId < current.cursor.consumed →
      Processed h event ∧
        (Deed.processed event true ∈ h → (s.db.deliveriesOf event.rpcEventId).length = 1)

/-- **Exactly-once lifecycle webhooks**: at most once in every run, and exactly once where each page
begins at the cursor it is asked for with. -/
theorem exactly_once_lifecycle_webhooks (host : Host T) (retention : ℕ) (t₀ : U64) (tok₀ : T)
    (sequence : ℕ) (actions : List (Action T)) :
    AtMostOnce (run host retention (initial t₀ tok₀ sequence) actions).shared ∧
    ((∀ q ∈ Runs.trace (execNoting host retention) (initial t₀ tok₀ sequence, []) actions,
        Consistent retention q.1.1 q.2) →
      ExactlyOnce (deeds host retention (initial t₀ tok₀ sequence) actions)
        (run host retention (initial t₀ tok₀ sequence) actions).shared) := by
  have hd := delivered_run host retention t₀ tok₀ sequence actions
  refine ⟨⟨hd.once, hd.addressed⟩,
    fun hconsistent first current hfirst hcurrent event hon hsome hle hlt => ?_⟩
  have htracks := @Runs.run_invariant_along _ _ (execNoting host retention)
    (fun q => Tracks (fun _ => True) q) (fun q action => Consistent retention q.1 action)
    (fun q action hpage hq =>
      tracks_exec q action (lossless_of_consistent (tracks_rows hq).1 hpage) hq)
    (initial t₀ tok₀ sequence, []) (tracks_initial _ t₀ tok₀ sequence) actions hconsistent
  rw [Runs.run_noting] at htracks
  obtain ⟨-, hcovered⟩ := tracks_rows htracks
  refine ⟨hcovered first current hfirst hcurrent event hon trivial hle hlt, fun hmem => ?_⟩
  have hthere := hd.delivered event hmem hsome
  have honce := hd.once event.rpcEventId
  have hpos := List.length_pos_iff.mpr hthere
  omega

section

open Registry (MockToken mockHost mockId)

/-- Two instances run for the first time side by side, and one of them goes on to the next page. -/
def sideBySide : List (Action MockToken) :=
  [.registerMerchant 1 ⟨2⟩, .closeLedger [mockCreate, mockPause], .startTick ⟨100, 1⟩,
    .startTick ⟨100, 1⟩] ++ mockWork 0 3 ++ mockWork 1 3 ++ mockWork 0 5 ++ mockWork 1 4 ++
    [.startTick ⟨100, 1⟩] ++ mockWork 2 6

set_option maxRecDepth 4000 in
theorem exactly_once_lifecycle_webhooks_mock :
    ((run mockHost 9 mockIndexer sideBySide).shared.db.deliveriesOf 1).length = 1 := by
  have hconsistent : ∀ q ∈ Runs.trace (execNoting mockHost 9) (mockIndexer, []) sideBySide,
      Consistent 9 q.1.1 q.2 := by decide
  have hon : (run mockHost 9 mockIndexer sideBySide).shared.chain.OnChain
      ⟨.mandatePaused, mockId, ⟨1⟩, ⟨2⟩, 1, 1⟩ :=
    List.mem_filterMap.mp (show _ ∈
      (run mockHost 9 mockIndexer sideBySide).shared.chain.stream.filterMap
        EventResponse.lifecycleEvent? by decide)
  have honce := (exactly_once_lifecycle_webhooks mockHost 9 0 Registry.mockFunds 0 sideBySide).2
    hconsistent ⟨1, ⟨1, 1⟩⟩ ⟨1, ⟨2, 1⟩⟩ (by decide) (by decide) _ hon (by decide) (by decide)
    (by decide)
  exact honce.2 (by decide)

end

end

end Paymap.Indexer
