import Paymap.Indexer.Protocol
import Paymap.Indexer.Stream

set_option autoImplicit false

/-! # What a step does to the tables and the chain

`Worked` lists all that the step of a worker can be, with what it writes and what there is to note of
it, and `Happens` what can happen outside the workers. An invariant of the indexer is checked against
these two lists and kept by whole runs (`tracked_execNoting`).
-/

namespace Paymap.Indexer

open Registry (Address BytesN Host Mandate)
open Relayer (Uuid)

section

variable {T : Type} {host : Host T} {retention : ℕ}

/-! ## A worker's step -/

inductive Worked (retention : ℕ) (reply : Reply) (s : Shared T) :
    Phase → Effect → Shared T → Phase → List Deed → Prop where
  | idle (p : Phase) (e : Effect) : Worked retention reply s p e s p []
  /-- It ends, with an error or at a write that has lost. -/
  | ended (p : Phase) (e : Effect) : Worked retention reply s p e s .over []
  | cursorRead (stored : IndexerCursorState) (limit : ℕ)
      (current : s.db.indexerCursor = some stored) :
      Worked retention reply s .starting .getIndexerCursor s
        (.asking (some stored) 0 (.cursor stored.cursor limit)) []
  | ledgerRead (startLedger limit : ℕ) :
      Worked retention reply s .starting .getCurrentLedger s
        (.asking none startLedger (.startLedger startLedger limit)) []
  | page (stored : Option IndexerCursorState) (startLedger scanned : ℕ)
      (request : GetEventsRequest) (response : GetEventsResponse)
      (served : reply = .served scanned)
      (answer : s.chain.getEvents retention scanned request = .ok response)
      (noGap : retentionGap stored (fetchMandateLifecycleEvents response) = false) :
      Worked retention reply s (.asking stored startLedger request) (.getEvents request) s
        (.applying (pageTask stored startLedger response)
          (fetchMandateLifecycleEvents response).events) []
  | owned (task : Task) (event : MandateLifecycleEvent) (todo : List MandateLifecycleEvent)
      (row : MandateIndex) (indexed : s.db.mandateIndex.lookup event.mandateId = some row) :
      Worked retention reply s (.applying task (event :: todo)) (.findMandateIndex event.mandateId) s
        (.writing task event row.merchantId todo) []
  | skip (task : Task) (event : MandateLifecycleEvent) (todo : List MandateLifecycleEvent)
      (unregistered : s.db.merchantOf event.merchant = none) :
      Worked retention reply s (.applying task (event :: todo)) (.findEventMerchant event) s
        (.applying task todo) [.processed event false]
  | found (task : Task) (event : MandateLifecycleEvent) (todo : List MandateLifecycleEvent)
      (merchantId : Uuid) (registered : s.db.merchantOf event.merchant = some merchantId) :
      Worked retention reply s (.applying task (event :: todo)) (.findEventMerchant event) s
        (.writing task event merchantId todo) []
  | write (task : Task) (event : MandateLifecycleEvent) (merchantId : Uuid)
      (todo : List MandateLifecycleEvent) (assetAddress : Address) (scanned : ℕ)
      (served : reply = .served scanned) :
      Worked retention reply s (.writing task event merchantId todo)
        (.transact (eventStatements event merchantId assetAddress))
        { s with db := transact s.clock s.db (eventStatements event merchantId assetAddress) }
        (.applying task todo) [.processed event (s.db.merchantOf event.merchant).isSome]
  | create (startLedger : ℕ) (next : IndexerCursorState) (free : s.db.indexerCursor = none) :
      Worked retention reply s (.applying ⟨none, startLedger, next⟩ []) (.createIndexerCursor next)
        { s with db := { s.db with indexerCursor := some next } } .over [.stored next]
  | update (previous : IndexerCursorState) (startLedger : ℕ) (next : IndexerCursorState)
      (current : s.db.indexerCursor = some previous) :
      Worked retention reply s (.applying ⟨some previous, startLedger, next⟩ [])
        (.updateIndexerCursor previous next)
        { s with db := { s.db with indexerCursor := some next } } .over [.stored next]
  | merchantRead (merchantId : Uuid) (mandateId : BytesN) (walletAddress : Address)
      (registered : s.db.merchants.lookup merchantId = some walletAddress) :
      Worked retention reply s (.requesting merchantId mandateId) (.findMerchant merchantId) s
        (.reading merchantId walletAddress mandateId) []
  | mandateRead (merchantId : Uuid) (mandateId : BytesN) (mandate : Mandate)
      (answer : Registry.getMandate s.chain.ledger mandateId = .ok mandate) :
      Worked retention reply s (.reading merchantId mandate.merchant mandateId)
        (.getMandate mandateId) s (.refreshing merchantId mandateId mandate) []
  | refresh (merchantId : Uuid) (mandateId : BytesN) (mandate : Mandate) (writesPayer : Bool)
      (scanned : ℕ) (served : reply = .served scanned) :
      Worked retention reply s (.refreshing merchantId mandateId mandate)
        (.refreshMandateIndex mandateId merchantId mandate writesPayer)
        { s with
          db := refreshMandateIndex s.clock s.db mandateId merchantId mandate writesPayer }
        .over []

/-- **Everything a worker's step can do.** -/
theorem worked_of_move {reply : Reply} {s : Shared T} {p p' : Phase} {e : Effect}
    (hmove : Move p e (perform retention reply e s).1 p') :
    Worked retention reply s p e (perform retention reply e s).2 p'
      (deedsOf s e (perform retention reply e s).1) := by
  generalize hperf : perform retention reply e s = r at hmove ⊢
  obtain ⟨a, s'⟩ := r
  dsimp only at hmove ⊢
  cases hmove with
  | cursorRead stored limit =>
      obtain ⟨hstored, rfl⟩ := Prod.mk.inj hperf
      exact .cursorRead stored limit hstored
  | cursorMissing =>
      obtain ⟨-, rfl⟩ := Prod.mk.inj hperf
      exact .idle _ _
  | ledgerUnread message =>
      cases reply <;> obtain ⟨-, rfl⟩ := Prod.mk.inj hperf <;> exact .ended _ _
  | ledgerRead latest startLedger limit =>
      cases reply <;> obtain ⟨-, rfl⟩ := Prod.mk.inj hperf <;> exact .ledgerRead startLedger limit
  | pageRefused stored startLedger request message =>
      cases reply <;> obtain ⟨-, rfl⟩ := Prod.mk.inj hperf <;> exact .ended _ _
  | gap stored startLedger request response =>
      cases reply <;> obtain ⟨-, rfl⟩ := Prod.mk.inj hperf <;> exact .ended _ _
  | page stored startLedger request response hgap =>
      cases reply with
      | served scanned =>
          obtain ⟨hanswer, rfl⟩ := Prod.mk.inj hperf
          exact .page stored startLedger scanned request response rfl hanswer hgap
      | failed message => cases (Prod.mk.inj hperf).1
  | unowned task event todo =>
      obtain ⟨-, rfl⟩ := Prod.mk.inj hperf
      exact .idle _ _
  | owned task event todo row =>
      obtain ⟨hrow, rfl⟩ := Prod.mk.inj hperf
      exact .owned task event todo row hrow
  | skip task event todo =>
      obtain ⟨hnone, rfl⟩ := Prod.mk.inj hperf
      have hdeeds : deedsOf s (.findEventMerchant event) none = [.processed event false] := by
        simp only [deedsOf, hnone, Option.isSome_none]
      rw [hdeeds]
      exact .skip task event todo hnone
  | found task event todo merchantId =>
      obtain ⟨hsome, rfl⟩ := Prod.mk.inj hperf
      exact .found task event todo merchantId hsome
  | readAsset task event merchantId todo e a hreads =>
      cases e with
      | findMandateIndex mandateId =>
          obtain ⟨-, rfl⟩ := Prod.mk.inj hperf
          exact .idle _ _
      | getMandate mandateId =>
          cases reply <;> obtain ⟨-, rfl⟩ := Prod.mk.inj hperf <;> exact .idle _ _
      | _ => cases hreads
  -- a write is answered, or it leaves the state as it was
  | writeFailed task event merchantId todo assetAddress e =>
      cases reply with
      | served scanned => cases (Prod.mk.inj hperf).1
      | failed message =>
          obtain ⟨-, rfl⟩ := Prod.mk.inj hperf
          exact .ended _ _
  | write task event merchantId todo assetAddress =>
      cases reply with
      | served scanned =>
          obtain ⟨-, rfl⟩ := Prod.mk.inj hperf
          exact .write task event merchantId todo assetAddress scanned rfl
      | failed message => cases (Prod.mk.inj hperf).1
  | create startLedger next a =>
      cases reply with
      | served scanned =>
          cases hcursor : s.db.indexerCursor with
          | none =>
              simp only [perform, createIndexerCursor, hcursor, Option.isSome_none,
                Bool.false_eq_true, if_false] at hperf
              obtain ⟨rfl, rfl⟩ := Prod.mk.inj hperf
              exact .create startLedger next hcursor
          | some stored =>
              simp only [perform, createIndexerCursor, hcursor, Option.isSome_some, if_true] at hperf
              obtain ⟨rfl, rfl⟩ := Prod.mk.inj hperf
              exact .ended _ _
      | failed message =>
          obtain ⟨rfl, rfl⟩ := Prod.mk.inj hperf
          exact .ended _ _
  | update previous startLedger next a =>
      cases reply with
      | served scanned =>
          obtain ⟨rfl, rfl⟩ := Prod.mk.inj hperf
          simp only [updateIndexerCursor, deedsOf]
          split
          · rename_i hcurrent
            exact .update previous startLedger next hcurrent
          · exact .ended _ _
      | failed message =>
          obtain ⟨rfl, rfl⟩ := Prod.mk.inj hperf
          exact .ended _ _
  | merchantUnread merchantId mandateId =>
      obtain ⟨-, rfl⟩ := Prod.mk.inj hperf
      exact .ended _ _
  | merchantRead merchantId mandateId walletAddress =>
      obtain ⟨hsome, rfl⟩ := Prod.mk.inj hperf
      exact .merchantRead merchantId mandateId walletAddress hsome
  | mandateUnread merchantId walletAddress mandateId a =>
      cases reply <;> obtain ⟨-, rfl⟩ := Prod.mk.inj hperf <;> exact .ended _ _
  | mandateRead merchantId walletAddress mandateId mandate hown =>
      subst hown
      cases reply with
      | served scanned =>
          obtain ⟨hanswer, rfl⟩ := Prod.mk.inj hperf
          cases hread : Registry.getMandate s.chain.ledger mandateId with
          | error e =>
              rw [hread] at hanswer
              cases hanswer
          | ok found =>
              rw [hread] at hanswer
              obtain rfl := Option.some.inj hanswer
              exact .mandateRead merchantId mandateId found hread
      | failed message => cases (Prod.mk.inj hperf).1
  | refresh merchantId mandateId mandate writesPayer a =>
      cases reply with
      | served scanned =>
          obtain ⟨rfl, rfl⟩ := Prod.mk.inj hperf
          exact .refresh merchantId mandateId mandate writesPayer scanned rfl
      | failed message =>
          obtain ⟨rfl, rfl⟩ := Prod.mk.inj hperf
          exact .ended _ _

/-! ## What happens outside the workers -/

inductive Happens (host : Host T) (s : Shared T) : Shared T → Prop where
  | passes (ms : ℕ) : Happens host s { s with clock := s.clock + ms }
  | closes (included : List (Included T)) :
      Happens host s { s with chain := s.chain.close host included }
  | registers (id : Uuid) (walletAddress : Address) (fresh : s.db.merchants.lookup id = none) :
      Happens host s
        { s with db := { s.db with merchants := s.db.merchants.insert id walletAddress } }
  | enqueues (merchantId uuid : Uuid) (eventType : WebhookEventType) :
      Happens host s { s with db := { s.db with
        webhookDeliveries := s.db.webhookDeliveries ++
          [⟨merchantId, .random uuid, eventType, none⟩] } }

theorem happens_outside (host : Host T) (action : Action T) (s : Shared T) :
    outsideEffect host action s = s ∨ Happens host s (outsideEffect host action s) := by
  cases action with
  | closeLedger included => exact .inr (.closes included)
  | tick ms => exact .inr (.passes ms)
  | enqueueWebhook merchantId uuid eventType => exact .inr (.enqueues merchantId uuid eventType)
  | registerMerchant id walletAddress =>
      simp only [outsideEffect, registerMerchant]
      split
      · exact .inl rfl
      · rename_i hfresh
        rw [not_or, Option.not_isSome_iff_eq_none] at hfresh
        exact .inr (.registers id walletAddress hfresh.1)
  | _ => exact .inl rfl

/-- No worker touches the chain. -/
theorem perform_chain (retention : ℕ) (reply : Reply) (e : Effect) (s : Shared T) :
    (perform retention reply e s).2.chain = s.chain := by
  cases e with
  | createIndexerCursor next =>
      simp only [perform]
      split <;> rfl
  | _ => cases reply <;> rfl

theorem extends_exec {s : System T} (hsound : s.shared.chain.Sound) (action : Action T) :
    s.shared.chain.Extends (exec host retention s action).shared.chain := by
  cases action with
  | closeLedger included => exact (Chain.close_sound hsound included).2
  | work i reply =>
      show Chain.Extends _ (s.work (perform retention reply) i).shared.chain
      rcases Workers.work_cases (perform retention reply) i s with hidle | ⟨e, k, -, hwork⟩
      · rw [hidle]
        exact .refl _
      · rw [hwork, perform_chain]
        exact .refl _
  | registerMerchant id walletAddress =>
      show Chain.Extends _ (outsideEffect host (.registerMerchant id walletAddress) s.shared).chain
      exact .refl _
  | _ => exact .refl _

/-! ## One action -/

/-- The phases in which a worker starts. -/
inductive Phase.Starts : Phase → Prop where
  | starting : Starts .starting
  | requesting (merchantId : Uuid) (mandateId : BytesN) : Starts (.requesting merchantId mandateId)

/-- **What one action preserves.** `Good` speaks of the shared state and of what has been done, and
`Fits` of the phase a worker is in; a step of another worker or something outside leaves it alone. -/
theorem tracked_execNoting {Good : List Deed → Shared T → Prop}
    {Fits : List Deed → Shared T → Phase → Prop} {q : System T × List Deed} {action : Action T}
    (h : Workers.Tracked Move (fun s phases => Good q.2 s ∧ ∀ p ∈ phases, Fits q.2 s p) q.1)
    (hwork : ∀ i reply p e k s' p' ds, action = .work i reply →
      q.1.running[i]? = some (.call e k) → Good q.2 q.1.shared → Fits q.2 q.1.shared p →
      Worked retention reply q.1.shared p e s' p' ds →
      Good (q.2 ++ ds) s' ∧ Fits (q.2 ++ ds) s' p' ∧
        ∀ p₀, Fits q.2 q.1.shared p₀ → Fits (q.2 ++ ds) s' p₀)
    (hstart : ∀ p, p.Starts → Fits q.2 q.1.shared p)
    (houtside : ∀ s', Happens host q.1.shared s' → Good q.2 q.1.shared →
      Good q.2 s' ∧ ∀ p₀, Fits q.2 q.1.shared p₀ → Fits q.2 s' p₀) :
    Workers.Tracked Move
      (fun s phases => Good (execNoting host retention q action).2 s ∧
        ∀ p ∈ phases, Fits (execNoting host retention q action).2 s p)
      (execNoting host retention q action).1 := by
  have hstarts : ∀ {w : Job Outcome} {p : Phase}, Obeys w p → p.Starts →
      Workers.Tracked Move (fun s phases => Good q.2 s ∧ ∀ p ∈ phases, Fits q.2 s p)
        (q.1.start w) := by
    intro w p hobeys hp
    refine h.start hobeys fun phases hold => ⟨hold.1, fun p₀ hp₀ => ?_⟩
    rcases List.mem_append.mp hp₀ with hp₀ | hp₀
    · exact hold.2 p₀ hp₀
    · obtain rfl := List.mem_singleton.mp hp₀
      exact hstart p₀ hp
  have houtsides : ∀ a : Action T, Workers.Tracked Move
      (fun s phases => Good q.2 s ∧ ∀ p ∈ phases, Fits q.2 s p)
      (q.1.outside (outsideEffect host a)) := by
    intro a
    refine h.outside fun phases _ hold => ?_
    rcases happens_outside host a q.1.shared with hsame | hhappens
    · rw [hsame]
      exact hold
    · obtain ⟨hgood, hfits⟩ := houtside _ hhappens hold.1
      exact ⟨hgood, fun p hp => hfits p (hold.2 p hp)⟩
  simp only [Runs.noting]
  cases action with
  | work i reply =>
      refine h.work_to (fun phases p e k p' hold hp hk hmove => ?_) fun hnone phases hold => ?_
      · have hdeeds : note retention q.1 (.work i reply)
            = deedsOf q.1.shared e (perform retention reply e q.1.shared).1 := by
          rw [note, hk]
        rw [hdeeds]
        obtain ⟨hgood, hself, hothers⟩ := hwork i reply p e k _ p' _ rfl hk hold.1
          (hold.2 p (List.mem_of_getElem? hp)) (worked_of_move hmove)
        refine ⟨hgood, fun p₀ hp₀ => ?_⟩
        rcases List.mem_or_eq_of_mem_set hp₀ with hp₀ | rfl
        · exact hothers p₀ (hold.2 p₀ hp₀)
        · exact hself
      · have hdeeds : note retention q.1 (.work i reply) = [] := by
          rw [note]
          split
          · rename_i e k hk
            exact absurd hk (hnone e k)
          · rfl
        rw [hdeeds, List.append_nil]
        exact hold
  | startTick deps =>
      simp only [note, List.append_nil]
      exact hstarts (runIndexerTick_obeys deps) .starting
  | requestMandate merchantId mandateId =>
      simp only [note, List.append_nil]
      exact hstarts getMandateRoute_obeys (.requesting merchantId mandateId)
  | requestLink merchantId assetAddress payerAddress mandateId =>
      simp only [note, List.append_nil]
      exact hstarts (linkMandateRoute_obeys assetAddress payerAddress)
        (.requesting merchantId mandateId)
  | _ =>
      simp only [note, List.append_nil]
      exact houtsides _

end

end Paymap.Indexer
