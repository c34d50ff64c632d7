import Paymap.Lib.Runs
import Paymap.Indexer.Tick
import Paymap.Token.Mock

set_option autoImplicit false

/-! # The indexer at work

`exec` interleaves any number of ticks, of any number of instances, with all that happens beside
them: ledgers close, merchants register, the API answers requests and refreshes the index, other
producers enqueue their deliveries. A tick may start at any time and may stop for ever at any effect,
which is a crash; a page is read again whenever the cursor was not advanced. Each request to the RPC
and each write may fail (`Reply`).

`note` keeps what has been done: which rows the cursor has been, and which events were processed.
-/

namespace Paymap.Indexer

open Registry (Address BytesN Host)
open Relayer (Uuid Time)

/-! ## Performing an effect -/

/-- What becomes of a request to the RPC or of a write. -/
inductive Reply where
  /-- It is answered; the RPC looks at so many events. -/
  | served (scanned : ℕ)
  | failed (message : String)
deriving DecidableEq

structure Shared (T : Type) where
  db : Db
  chain : Chain T
  clock : Time

section

variable {T : Type}

def perform (retention : ℕ) (reply : Reply) : (e : Effect) → Shared T → Answer e × Shared T
  | .getIndexerCursor, s => (s.db.indexerCursor, s)
  | .getCurrentLedger, s =>
      match reply with
      | .served _ => (.ok s.chain.sequence, s)
      | .failed message => (.error message, s)
  | .getEvents request, s =>
      match reply with
      | .served scanned => (s.chain.getEvents retention scanned request, s)
      | .failed message => (.error message, s)
  | .findMandateIndex mandateId, s => (s.db.mandateIndex.lookup mandateId, s)
  | .findEventMerchant event, s => (s.db.merchantOf event.merchant, s)
  | .findMerchant id, s => (s.db.merchants.lookup id, s)
  | .getMandate mandateId, s =>
      match reply with
      | .served _ => ((Registry.getMandate s.chain.ledger mandateId).toOption, s)
      | .failed _ => (none, s)
  | .transact statements, s =>
      match reply with
      | .served _ => (.ok (), { s with db := transact s.clock s.db statements })
      | .failed _ => (.error .other, s)
  | .createIndexerCursor next, s =>
      match reply, createIndexerCursor s.db next with
      | .failed _, _ => (.error .other, s)
      | .served _, .ok db => (.ok (), { s with db := db })
      | .served _, .error e => (.error e, s)
  | .updateIndexerCursor previous next, s =>
      match reply with
      | .served _ => (.ok (), { s with db := updateIndexerCursor s.db previous next })
      | .failed _ => (.error .other, s)
  | .refreshMandateIndex mandateId merchantId mandate writesPayer, s =>
      match reply with
      | .served _ =>
          (.ok (), { s with
            db := refreshMandateIndex s.clock s.db mandateId merchantId mandate writesPayer })
      | .failed _ => (.error .other, s)

/-! ## Runs -/

inductive Action (T : Type) where
  /-- The scheduler of an instance starts a tick. -/
  | startTick (deps : IndexerDeps)
  | requestMandate (merchantId : Uuid) (mandateId : BytesN)
  | requestLink (merchantId : Uuid) (assetAddress payerAddress : Address) (mandateId : BytesN)
  /-- A worker has its next effect performed. -/
  | work (worker : ℕ) (reply : Reply)
  | closeLedger (included : List (Included T))
  | tick (ms : ℕ)
  | registerMerchant (id : Uuid) (walletAddress : Address)
  /-- Another producer enqueues a delivery. -/
  | enqueueWebhook (merchantId uuid : Uuid) (eventType : WebhookEventType)

abbrev System (T : Type) := Workers (Shared T) (Job Outcome)

/-- What an action does to the shared state when it is not a worker's. -/
def outsideEffect (host : Host T) : Action T → Shared T → Shared T
  | .closeLedger included, s => { s with chain := s.chain.close host included }
  | .tick ms, s => { s with clock := s.clock + ms }
  | .registerMerchant id walletAddress, s => { s with db := registerMerchant s.db id walletAddress }
  | .enqueueWebhook merchantId uuid eventType, s =>
      { s with db := { s.db with
          webhookDeliveries := s.db.webhookDeliveries ++
            [⟨merchantId, .random uuid, eventType, none⟩] } }
  | _, s => s

def exec (host : Host T) (retention : ℕ) (s : System T) : Action T → System T
  | .startTick deps => s.start (runIndexerTick deps)
  | .requestMandate merchantId mandateId => s.start (getMandateRoute merchantId mandateId)
  | .requestLink merchantId assetAddress payerAddress mandateId =>
      s.start (linkMandateRoute merchantId assetAddress payerAddress mandateId)
  | .work worker reply => s.work (perform retention reply) worker
  | action => s.outside (outsideEffect host action)

/-- Nothing in the tables, nobody at work, the registry just deployed in ledger `sequence`. -/
def initial (t₀ : U64) (tok₀ : T) (sequence : ℕ) : System T :=
  ⟨⟨.empty, Chain.genesis t₀ tok₀ sequence, 0⟩, []⟩

abbrev run (host : Host T) (retention : ℕ) (s : System T) (actions : List (Action T)) :
    System T := Runs.run (exec host retention) s actions

/-! ## What has been done -/

inductive Deed where
  /-- The cursor row has become this one. -/
  | stored (state : IndexerCursorState)
  /-- An event was written or, its merchant being unknown, skipped. `registered` says whether at this
  time there is a merchant with the event's wallet address. -/
  | processed (event : MandateLifecycleEvent) (registered : Bool)
deriving DecidableEq

/-- What a worker does with an effect that is answered so. -/
def deedsOf (s : Shared T) : (e : Effect) → Answer e → List Deed
  | .findEventMerchant event, answer =>
      match answer with
      | none => [.processed event (s.db.merchantOf event.merchant).isSome]
      | some _ => []
  | .transact statements, answer =>
      match answer, statements with
      | .ok _, .upsertMandateIndex event _ _ :: _ =>
          [.processed event (s.db.merchantOf event.merchant).isSome]
      | _, _ => []
  | .createIndexerCursor next, answer =>
      match answer with
      | .ok _ => [.stored next]
      | .error _ => []
  | .updateIndexerCursor previous next, answer =>
      match answer with
      | .ok _ => if s.db.indexerCursor = some previous then [.stored next] else []
      | .error _ => []
  | _, _ => []

def note (retention : ℕ) (s : System T) : Action T → List Deed
  | .work worker reply =>
      match s.running[worker]? with
      | some (.call e _) => deedsOf s.shared e (perform retention reply e s.shared).1
      | _ => []
  | _ => []

/-- The machine with its history. -/
abbrev execNoting (host : Host T) (retention : ℕ) :
    System T × List Deed → Action T → System T × List Deed :=
  Runs.noting (exec host retention) (note retention)

/-- What has been done in a run. -/
abbrev deeds (host : Host T) (retention : ℕ) (s : System T) (actions : List (Action T)) :
    List Deed := Runs.notes (exec host retention) (note retention) s actions

end

/-! ## A system to run -/

section

open Registry (MockToken)

def mockIndexer : System MockToken := initial 0 Registry.mockFunds 0

/-- Every request of this worker is answered. -/
def mockWork (worker steps : ℕ) : List (Action MockToken) :=
  List.replicate steps (.work worker (.served 10))

/-- The payer creates the mandate. -/
def mockCreate : Included MockToken := .step Registry.mockCreation

def mockPause : Included MockToken :=
  .step (.call ⟨.changeStatus .pause Registry.mockId, [⟨1⟩]⟩)

end

end Paymap.Indexer
