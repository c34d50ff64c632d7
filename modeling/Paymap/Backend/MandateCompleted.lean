import Paymap.Indexer.Deliveries
import Paymap.Relayer.Agreement
import Paymap.Relayer.Announcing

set_option autoImplicit false

/-! # `mandate.completed`, from the relayer and the indexer together

The relayer and the indexer run beside each other, on one chain and with one table of deliveries.
The relayer announces that a mandate is complete with the payment that completes it; the indexer sees
the same on the chain and leaves it to the relayer. So what was shown of the relayer holds of the
whole: an open mandate is not announced, no mandate is announced twice, and a complete one is
announced once its requests have ended, if the relayer was attentive.
-/

namespace Paymap.Backend

open Indexer (Chain Included IndexerDeps WebhookEventType)
open Registry (Address BytesN Host)
open Relayer (MandateRead Network PipelineDeps Uuid legalTransitions)

/-! ## The two together -/

structure System (T : Type) where
  relayer : Relayer.System T
  indexer : Indexer.System T
  /-- What was executed since a ledger was closed last, for the next one to hold. -/
  included : List (Included T)

inductive Action (T : Type) where
  /-- A step of the relayer, or of what surrounds it: the network, and the API's charge routes. -/
  | relayer (action : Relayer.Action T)
  | startTick (deps : IndexerDeps)
  | requestMandate (merchantId : Uuid) (mandateId : BytesN)
  | requestLink (merchantId : Uuid) (assetAddress payerAddress : Address) (mandateId : BytesN)
  | indexer (worker : ℕ) (reply : Indexer.Reply)
  /-- A refund, or a test of a webhook endpoint. -/
  | enqueueWebhook (merchantId uuid : Uuid) (eventType : WebhookEventType)
      (other : eventType ≠ .mandateCompleted)

section

variable {T : Type}

/-- What the network executes in a step of the relayer's side. -/
def executed (net : Network T) : Relayer.Action T → List (Included T)
  | .execute hash authorized =>
      match net.transactions[hash]? with
      | some ⟨args, none⟩ => ((args.call authorized).map fun c => .step (.call c)).toList
      | _ => []
  | .chain step => [.step step]
  | _ => []

/-- What an action is to the indexer. Of ledgers that close at once the first holds everything. -/
def Action.toIndexer (included : List (Included T)) : Action T → List (Indexer.Action T)
  | .relayer (.tick ms) => [.tick ms]
  | .relayer (.setMerchant id walletAddress) => [.registerMerchant id walletAddress]
  | .relayer (.closeLedgers (count + 1)) =>
      .closeLedger included :: List.replicate count (.closeLedger [])
  | .relayer _ => []
  | .startTick deps => [.startTick deps]
  | .requestMandate merchantId mandateId => [.requestMandate merchantId mandateId]
  | .requestLink merchantId assetAddress payerAddress mandateId =>
      [.requestLink merchantId assetAddress payerAddress mandateId]
  | .indexer worker reply => [.work worker reply]
  | .enqueueWebhook merchantId uuid eventType _ => [.enqueueWebhook merchantId uuid eventType]

def exec (host : Host T) (deps : PipelineDeps) (retention : ℕ) (s : System T) (action : Action T) :
    System T where
  relayer :=
    match action with
    | .relayer action => Relayer.exec host deps s.relayer action
    | _ => s.relayer
  indexer := Indexer.run host retention s.indexer (action.toIndexer s.included)
  included :=
    match action with
    | .relayer (.closeLedgers (_ + 1)) => []
    | .relayer action => s.included ++ executed s.relayer.shared.network action
    | _ => s.included

def initial (t₀ : U64) (tok₀ : T) : System T :=
  ⟨Relayer.initial t₀ tok₀, Indexer.initial t₀ tok₀ 0, []⟩

abbrev run (host : Host T) (deps : PipelineDeps) (retention : ℕ) (s : System T)
    (actions : List (Action T)) : System T := Runs.run (exec host deps retention) s actions

/-- What the relayer's workers read of mandates. -/
def note (host : Host T) (s : System T) : Action T → List MandateRead
  | .relayer action => Relayer.mandateReads host s.relayer action
  | _ => []

abbrev execNoting (host : Host T) (deps : PipelineDeps) (retention : ℕ) :
    System T × List MandateRead → Action T → System T × List MandateRead :=
  Runs.noting (exec host deps retention) (note host)

end

/-! ## One chain -/

section

variable {T : Type} {host : Host T} {deps : PipelineDeps} {retention : ℕ}

/-- What has been executed is what the next ledger makes of the closed ones. -/
def OneLedger (host : Host T) (s : System T) : Prop :=
  (s.included.foldl (Chain.add host) s.indexer.shared.chain).ledger
    = s.relayer.shared.network.ledger

/-- No worker of the relayer touches the ledger. -/
theorem perform_ledger (reply : Relayer.Reply) (e : Relayer.Effect) (s : Relayer.Shared T) :
    (Relayer.perform host reply e s).2.network.ledger = s.network.ledger := by
  cases e with
  | transact statements =>
      simp only [Relayer.perform]
      split <;> rfl
  | sendTransaction args => cases reply <;> rfl
  | getMandate mandateId => cases reply <;> rfl
  | getLatestLedgerSequence => cases reply <;> rfl
  | simulateCharge args => cases reply <;> rfl
  | pollTransaction hash => cases reply <;> rfl
  | _ => rfl

/-- What a step of the relayer's side executes is what it does to the ledger. -/
theorem executed_ledger (s : Relayer.System T) (action : Relayer.Action T) (chain : Chain T)
    (h : chain.ledger = s.shared.network.ledger) :
    ((executed s.shared.network action).foldl (Chain.add host) chain).ledger
      = (Relayer.exec host deps s action).shared.network.ledger := by
  cases action with
  | work i reply =>
      show chain.ledger = (s.work (Relayer.perform host reply) i).shared.network.ledger
      rcases Workers.work_cases (Relayer.perform host reply) i s with hidle | ⟨e, k, -, hwork⟩
      · rw [hidle, h]
      · rw [hwork, perform_ledger, h]
  | execute hash authorized =>
      show _ = (s.shared.network.execute host hash authorized).ledger
      cases htx : s.shared.network.transactions[hash]? with
      | none => simpa [executed, Network.execute, htx] using h
      | some transaction =>
          obtain ⟨args, result⟩ := transaction
          cases result with
          | some result => simpa [executed, Network.execute, htx] using h
          | none =>
              cases hcall : args.call authorized with
              | none => simpa [executed, Network.execute, htx, hcall] using h
              | some c =>
                  simp only [executed, Network.execute, htx, hcall]
                  show Registry.exec host chain.ledger (.call c) = _
                  rw [h]
                  rfl
  | chain step =>
      show Registry.exec host chain.ledger step = Registry.exec host s.shared.network.ledger step
      rw [h]
  | createAuthorization authorization =>
      refine h.trans ?_
      simp only [Relayer.exec, Workers.outside, Relayer.outsideEffect, Relayer.Shared.write]
      split <;> rfl
  | completeAuthorization authorizationId chargeRequestId ciphertext =>
      refine h.trans ?_
      simp only [Relayer.exec, Workers.outside, Relayer.outsideEffect, Relayer.Shared.write]
      split <;> rfl
  | _ => exact h

/-- The ledgers that close after the first hold nothing. -/
theorem replicate_closes (s : Indexer.System T) (count : ℕ) :
    (Indexer.run host retention s (List.replicate count (.closeLedger []))).shared.chain.ledger
      = s.shared.chain.ledger := by
  induction count generalizing s with
  | zero => rfl
  | succ count ih =>
      rw [List.replicate_succ, Indexer.run, Runs.run_cons]
      exact (ih _).trans rfl

theorem work_chain (s : Indexer.System T) (i : ℕ) (reply : Indexer.Reply) :
    (Indexer.exec host retention s (.work i reply)).shared.chain = s.shared.chain := by
  show (s.work (Indexer.perform retention reply) i).shared.chain = _
  rcases Workers.work_cases (Indexer.perform retention reply) i s with hidle | ⟨e, k, -, hwork⟩
  · rw [hidle]
  · rw [hwork, Indexer.perform_chain]

theorem oneLedger_exec (s : System T) (action : Action T) (h : OneLedger host s) :
    OneLedger host (exec host deps retention s action) := by
  unfold OneLedger at h ⊢
  cases action with
  | relayer action =>
      have happended : ((s.included ++ executed s.relayer.shared.network action).foldl
          (Chain.add host) s.indexer.shared.chain).ledger
          = (Relayer.exec host deps s.relayer action).shared.network.ledger := by
        rw [List.foldl_append]
        exact executed_ledger s.relayer action _ h
      cases action with
      | closeLedgers count =>
          cases count with
          | zero => exact happended
          | succ count => exact (replicate_closes _ count).trans h
      | _ => exact happended
  | indexer worker reply =>
      show (s.included.foldl (Chain.add host) (Indexer.exec host retention s.indexer
        (.work worker reply)).shared.chain).ledger = _
      rw [work_chain]
      exact h
  | _ => exact h

/-- **One chain.** What the relayer meets is the chain the indexer reads, and what the next ledger
will hold. -/
theorem one_ledger (host : Host T) (deps : PipelineDeps) (retention : ℕ) (t₀ : U64) (tok₀ : T)
    (actions : List (Action T)) :
    OneLedger host (run host deps retention (initial t₀ tok₀) actions) := by
  have hinitial : OneLedger host (initial t₀ tok₀) := rfl
  exact Runs.run_invariant oneLedger_exec hinitial actions

/-! ## The indexer says nothing -/

/-- Nobody beside the relayer has announced a completion. -/
def Silent (s : Indexer.Shared T) : Prop :=
  ∀ delivery ∈ s.db.webhookDeliveries, delivery.eventType ≠ .mandateCompleted

theorem Silent.worked {reply : Indexer.Reply} {s s' : Indexer.Shared T} {p p' : Indexer.Phase}
    {e : Indexer.Effect} {ds : List Indexer.Deed} (h : Silent s)
    (hw : Indexer.Worked retention reply s p e s' p' ds) : Silent s' := by
  cases hw with
  | write task event merchantId todo assetAddress =>
      intro delivery hmem
      rw [Indexer.transact_eventStatements] at hmem
      cases htype : Indexer.eventToWebhook event.kind with
      | none =>
          rw [htype] at hmem
          exact h delivery hmem
      | some eventType =>
          rw [htype] at hmem
          rcases Indexer.mem_enqueue hmem with hold | rfl
          · exact h delivery hold
          · -- no event is told as a completion
            rintro rfl
            cases hkind : event.kind <;> rw [hkind] at htype <;> cases htype
  | refresh merchantId mandateId mandate writesPayer =>
      intro delivery hmem
      rw [Indexer.refreshMandateIndex_frame] at hmem
      exact h delivery hmem
  | _ => exact h

abbrev StaysSilent (s : Indexer.System T) : Prop :=
  Workers.Tracked Indexer.Move (fun s _ => Silent s) s

theorem staysSilent_exec (s : Indexer.System T) (action : Indexer.Action T)
    (hother : ∀ merchantId uuid eventType,
      action = .enqueueWebhook merchantId uuid eventType → eventType ≠ .mandateCompleted)
    (h : StaysSilent s) : StaysSilent (Indexer.exec host retention s action) := by
  cases action with
  | startTick deps => exact h.start (Indexer.runIndexerTick_obeys deps) fun _ hold => hold
  | requestMandate merchantId mandateId =>
      exact h.start Indexer.getMandateRoute_obeys fun _ hold => hold
  | requestLink merchantId assetAddress payerAddress mandateId =>
      exact h.start (Indexer.linkMandateRoute_obeys assetAddress payerAddress) fun _ hold => hold
  | work i reply =>
      exact h.work fun phases p e k p' hold hp hk hmove =>
        hold.worked (Indexer.worked_of_move hmove)
  | closeLedger included => exact h.outside fun _ _ hold => hold
  | tick ms => exact h.outside fun _ _ hold => hold
  | registerMerchant id walletAddress =>
      refine h.outside fun _ _ hold delivery hmem => hold delivery ?_
      simp only [Indexer.outsideEffect, Indexer.registerMerchant] at hmem
      split at hmem <;> exact hmem
  | enqueueWebhook merchantId uuid eventType =>
      refine h.outside fun _ _ hold delivery hmem => ?_
      rcases List.mem_append.mp hmem with hmem | hmem
      · exact hold delivery hmem
      · obtain rfl := List.mem_singleton.mp hmem
        exact hother merchantId uuid eventType rfl

/-- What an action is to the indexer never announces a completion. -/
theorem toIndexer_other (included : List (Included T)) (action : Action T) :
    ∀ a ∈ action.toIndexer included, ∀ merchantId uuid eventType,
      a = .enqueueWebhook merchantId uuid eventType → eventType ≠ .mandateCompleted := by
  intro a hmem merchantId uuid eventType ha
  subst ha
  cases action with
  | relayer action =>
      cases action with
      | closeLedgers count =>
          cases count with
          | zero => cases hmem
          | succ count =>
              rcases List.mem_cons.mp hmem with heq | hmem
              · cases heq
              · cases List.eq_of_mem_replicate hmem
      | tick ms => cases List.mem_singleton.mp hmem
      | setMerchant id walletAddress => cases List.mem_singleton.mp hmem
      | _ => cases hmem
  | enqueueWebhook merchantId' uuid' eventType' other =>
      cases List.mem_singleton.mp hmem
      exact other
  | _ => cases List.mem_singleton.mp hmem

/-! ## Runs -/

/-- The mandate is charged through the relayer only. -/
def OnlyRelayer (host : Host T) (mandateId : BytesN) (s : System T) : Action T → Prop
  | .relayer action => Relayer.OnlyRelayer host mandateId s.relayer action
  | _ => True

instance (host : Host T) (mandateId : BytesN) (s : System T) :
    (action : Action T) → Decidable (OnlyRelayer host mandateId s action)
  | .relayer action => inferInstanceAs (Decidable
      (Relayer.OnlyRelayer host mandateId s.relayer action))
  | .startTick _ | .requestMandate .. | .requestLink .. | .indexer .. | .enqueueWebhook .. =>
      .isTrue trivial

/-- The relayer's step is attentive. -/
def Attentive (host : Host T) (mandateId : BytesN) (q : System T × List MandateRead) :
    Action T → Prop
  | .relayer action => Relayer.Attentive host mandateId (q.1.relayer, q.2) action
  | _ => True

instance (host : Host T) (mandateId : BytesN) (q : System T × List MandateRead) :
    (action : Action T) → Decidable (Attentive host mandateId q action)
  | .relayer action => inferInstanceAs (Decidable
      (Relayer.Attentive host mandateId (q.1.relayer, q.2) action))
  | .startTick _ | .requestMandate .. | .requestLink .. | .indexer .. | .enqueueWebhook .. =>
      .isTrue trivial

theorem staysSilent_step (s : System T) (action : Action T) (h : StaysSilent s.indexer) :
    StaysSilent (exec host deps retention s action).indexer :=
  Runs.run_invariant_of (fun indexer a hother hsilent => staysSilent_exec indexer a hother hsilent)
    h (toIndexer_other s.included action)

/-- The invariant of every run. -/
def Counts (host : Host T) (mandateId : BytesN) (s : System T) : Prop :=
  Workers.Tracked Relayer.Move (fun s phases => Relayer.Known host s phases ∧
    Relayer.Counted mandateId s phases) s.relayer ∧ StaysSilent s.indexer

theorem counts_exec (hinj : Function.Injective host.sha256) {mandateId : BytesN} (s : System T)
    (action : Action T) (h : Counts host mandateId s) :
    Counts host mandateId (exec host deps retention s action) := by
  refine ⟨?_, staysSilent_step s action h.2⟩
  cases action with
  | relayer action => exact Relayer.counted_exec hinj deps action h.1
  | _ => exact h.1

/-- The invariant of a run with its readings, when its steps are attentive. -/
def Announces (host : Host T) (mandateId : BytesN) (q : System T × List MandateRead) : Prop :=
  Workers.Tracked Relayer.Move (fun s phases => Relayer.Known host s phases ∧
    Relayer.Announced mandateId q.2 s phases) q.1.relayer

theorem announces_exec (hinj : Function.Injective host.sha256) {mandateId : BytesN}
    (q : System T × List MandateRead) (action : Action T)
    (hstep : OnlyRelayer host mandateId q.1 action ∧ Attentive host mandateId q action)
    (h : Announces host mandateId q) :
    Announces host mandateId (execNoting host deps retention q action) := by
  cases action with
  | relayer action =>
      exact Relayer.announced_exec hinj deps (q.1.relayer, q.2) action hstep.1 hstep.2 h
  | _ =>
      simp only [Announces, Runs.noting, note, List.append_nil]
      exact h

/-- How often the mandate was announced to be complete, whoever has enqueued it. -/
def System.completions (s : System T) (mandateId : BytesN) : ℕ :=
  s.relayer.shared.db.completions mandateId +
    s.indexer.shared.db.webhookDeliveries.countP fun delivery =>
      delivery.eventType = .mandateCompleted ∧
        delivery.payload.any fun payload => payload.mandateId = mandateId

/-- The stored status is `completed`. -/
def System.Completed (s : System T) (mandateId : BytesN) : Prop :=
  s.relayer.shared.network.Completed mandateId

/-- Every request of the mandate is in a status that no transition leaves. -/
def System.Ended (s : System T) (mandateId : BytesN) : Prop :=
  ∀ id row, s.relayer.shared.db.chargeRequests.lookup id = some row → row.mandateId = mandateId →
    legalTransitions row.status = []

/-- Once a complete mandate has no open request, it was announced once; one that is not complete was
not. -/
def AnnouncedOnce (mandateId : BytesN) (s : System T) : Prop :=
  (s.Completed mandateId → s.Ended mandateId → s.completions mandateId = 1) ∧
    (¬ s.Completed mandateId → s.completions mandateId = 0)

theorem completions_eq {s : System T} {mandateId : BytesN} (h : StaysSilent s.indexer) :
    s.completions mandateId = s.relayer.shared.db.completions mandateId := by
  obtain ⟨phases, -, hsilent⟩ := h
  rw [System.completions, Nat.add_eq_left, List.countP_eq_zero]
  intro delivery hmem hannounces
  exact hsilent delivery hmem (of_decide_eq_true hannounces).1

/-- **A mandate is announced once.** In every run no mandate is announced twice, and none that is not
complete; and when the mandate is charged through the relayer only, which is attentive in every step, a
complete mandate is announced as soon as its requests have ended. -/
theorem mandate_completed_once {host : Host T} (hinj : Function.Injective host.sha256)
    (deps : PipelineDeps) (retention : ℕ) (t₀ : U64) (tok₀ : T) (actions : List (Action T))
    (mandateId : BytesN) :
    ((run host deps retention (initial t₀ tok₀) actions).completions mandateId ≤ 1 ∧
      ((run host deps retention (initial t₀ tok₀) actions).completions mandateId ≠ 0 →
        (run host deps retention (initial t₀ tok₀) actions).Completed mandateId)) ∧
    ((∀ q ∈ Runs.trace (execNoting host deps retention) (initial t₀ tok₀, []) actions,
        OnlyRelayer host mandateId q.1.1 q.2 ∧ Attentive host mandateId q.1 q.2) →
      AnnouncedOnce mandateId (run host deps retention (initial t₀ tok₀) actions)) := by
  have hcounts : Counts host mandateId (run host deps retention (initial t₀ tok₀) actions) := by
    refine Runs.run_invariant (fun s action => counts_exec hinj s action) ⟨?_, ?_⟩ actions
    · exact ⟨[], ⟨rfl, fun hi => by cases hi⟩, Relayer.known_initial host t₀ tok₀,
        Relayer.counted_initial mandateId t₀ tok₀⟩
    · exact ⟨[], ⟨rfl, fun hi => by cases hi⟩, fun delivery hmem => by cases hmem⟩
  obtain ⟨⟨phases, -, -, hcounted⟩, hsilent⟩ := hcounts
  have hcompletions : (run host deps retention (initial t₀ tok₀) actions).completions mandateId
      = (run host deps retention (initial t₀ tok₀) actions).relayer.shared.db.completions mandateId :=
    completions_eq hsilent
  refine ⟨⟨hcompletions ▸ hcounted.once, fun hne => hcounted.completed (hcompletions ▸ hne)⟩,
    fun hsteps => ⟨fun hdone hended => ?_, fun hopen => ?_⟩⟩
  · have hrun := @Runs.run_invariant_along _ _ (execNoting host deps retention)
      (Announces host mandateId)
      (fun q action => OnlyRelayer host mandateId q.1 action ∧ Attentive host mandateId q action)
      (fun q action hstep hq => announces_exec hinj q action hstep hq) (initial t₀ tok₀, [])
      ⟨[], ⟨rfl, fun hi => by cases hi⟩, Relayer.known_initial host t₀ tok₀,
        Relayer.announced_initial mandateId t₀ tok₀⟩ actions hsteps
    rw [Runs.run_noting] at hrun
    obtain ⟨phases', -, -, hannounced⟩ := hrun
    have honce := hcounted.once
    rw [hcompletions]
    rcases hannounced.announced hdone with hsome | ⟨id, row, hrow, hof, hst, -⟩
    · exact Nat.le_antisymm honce (Nat.one_le_iff_ne_zero.mpr hsome)
    · -- a request that is still `submitted` has not ended
      obtain ⟨stored, hstored, hmandate, -⟩ := Relayer.exists_of_created hrow
      have hterminal := hended id stored hstored (hmandate.trans hof)
      have hstatus : stored.status = .submitted := by
        have hst' : (run host deps retention (initial t₀ tok₀) actions).relayer.shared.db.statusOf id
            = some .submitted := hst
        rw [Relayer.Db.statusOf, hstored] at hst'
        exact Option.some.inj hst'
      rw [hstatus] at hterminal
      cases hterminal
  · by_contra hne
    exact hopen (hcounted.completed (hcompletions ▸ hne))

/-! ## Two charges at once -/

section

open Registry (MockToken mockHost mockFunds mockInput)
open Relayer (mockDeps)

/-- Two charges complete this mandate. -/
def pairInput : Registry.MandateInput :=
  { mockInput with maxSuccessfulCharges := .lit 2 (by decide) }

def pairId : BytesN := mockHost.inputId pairInput

def relayed (actions : List (Relayer.Action MockToken)) : List (Action MockToken) :=
  actions.map .relayer

/-- Two requests, one for each of the charges. -/
def pairRequests : List (Relayer.Action MockToken) :=
  [.chain (.call ⟨.createMandate pairInput, [⟨1⟩]⟩), .setMerchant 1 ⟨2⟩,
    .setCheckoutSession 1 pairId ⟨3⟩,
    .createAuthorization ⟨1, 1, pairId, ⟨1⟩, 5, ⟨0⟩, 0, none, 720, .pending, none⟩,
    .completeAuthorization 1 1 42,
    .createAuthorization ⟨2, 1, pairId, ⟨2⟩, 3, ⟨0⟩, 0, none, 720, .pending, none⟩,
    .completeAuthorization 2 2 43]

/-- A ledger closes, late enough for the next charge. -/
def pairPause : List (Relayer.Action MockToken) :=
  [.closeLedgers 1, .chain (.close mockInput.minIntervalSeconds)]

/-- One request after the other, and the indexer reads the chain. -/
def inTurn : List (Action MockToken) :=
  relayed (pairRequests ++ .start 1 :: (Relayer.mockWork 0 11 ++ [.execute 0 [⟨2⟩]] ++
    Relayer.mockWork 0 3) ++ pairPause ++ .start 2 :: (Relayer.mockWork 1 11 ++
    [.execute 1 [⟨2⟩]] ++ Relayer.mockWork 1 3 ++ [.closeLedgers 1])) ++
  .startTick .default :: List.replicate 12 (.indexer 0 (.served 10))

/-- Both workers read the mandate before one of them charges. -/
def atOnce : List (Action MockToken) :=
  relayed (pairRequests ++ [.start 1, .start 2] ++ Relayer.mockWork 0 11 ++
    Relayer.mockWork 1 11 ++ [.execute 0 [⟨2⟩]] ++ pairPause ++ [.execute 1 [⟨2⟩]] ++
    Relayer.mockWork 0 3 ++ Relayer.mockWork 1 3)

set_option maxRecDepth 8000 in
/-- **Nobody announces it.** Both charges go through the relayer and both requests succeed, but each
of the workers has read that two charges were missing. -/
theorem complete_and_unannounced :
    (∀ q ∈ Runs.trace (execNoting mockHost mockDeps 9) (initial 0 mockFunds, []) atOnce,
      OnlyRelayer mockHost pairId q.1.1 q.2) ∧
    ¬ AnnouncedOnce pairId (run mockHost mockDeps 9 (initial 0 mockFunds) atOnce) := by
  refine ⟨by decide, fun honce => ?_⟩
  have hstatus : ((run mockHost mockDeps 9 (initial 0 mockFunds)
      atOnce).relayer.shared.network.ledger.storage.getMandate pairId).map Registry.Mandate.status
      = some .completed := by decide
  have hended : ∀ row ∈ FinMap.values (run mockHost mockDeps 9 (initial 0 mockFunds)
      atOnce).relayer.shared.db.chargeRequests,
      row.mandateId = pairId → legalTransitions row.status = [] := by decide
  have hnone : (run mockHost mockDeps 9 (initial 0 mockFunds) atOnce).completions pairId = 0 := by
    decide
  obtain ⟨stored, hstored, hdone⟩ := Option.map_eq_some_iff.mp hstatus
  have hone := honce.1 ⟨stored, hstored, hdone⟩ fun id row hrow =>
    hended row (FinMap.mem_values.mpr ⟨id, hrow⟩)
  rw [hnone] at hone
  cases hone

set_option maxRecDepth 8000 in
theorem mandate_completed_once_mock :
    AnnouncedOnce pairId (run mockHost mockDeps 9 (initial 0 mockFunds) inTurn) ∧
      (run mockHost mockDeps 9 (initial 0 mockFunds) inTurn).completions pairId = 1 := by
  have hsteps : ∀ q ∈ Runs.trace (execNoting mockHost mockDeps 9) (initial 0 mockFunds, []) inTurn,
      OnlyRelayer mockHost pairId q.1.1 q.2 ∧ Attentive mockHost pairId q.1 q.2 := by decide
  have hinj : Function.Injective mockHost.sha256 := Registry.encodeDigest_injective
  have honce := mandate_completed_once hinj mockDeps 9 0 mockFunds inTurn pairId
  exact ⟨honce.2 hsteps, by decide⟩

end

end

end Paymap.Backend
