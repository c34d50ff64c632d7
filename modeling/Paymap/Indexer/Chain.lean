import Paymap.Lib.Feed
import Paymap.Registry.Replay

set_option autoImplicit false

/-! # The events of the registry, as the RPC serves them

The network closes one ledger after the other, and the events of a ledger appear with it. The RPC
serves them in order, a page at a time, from a cursor or from a ledger number, and keeps the ledgers
of its retention window only. A cursor that points before the window is answered from the oldest
ledger that is kept; a ledger number outside the window is refused.

`EventResponse` is an entry as the RPC serves it, `MandateLifecycleEvent` what `contract-client`
makes of it (`events.ts`), and `fetchMandateLifecycleEvents` the page as the indexer gets it. The
events are those of `events.rs`, so decoding never meets another shape.
-/

namespace Paymap.Indexer

open Registry (Address BytesN Event Host Ledger)

/-! ## Events (`contract-client/src/events.ts`) -/

/-- The kinds, each with what its event carries beyond the common fields. -/
inductive MandateLifecycleEventKind where
  | mandateCreated (asset : Address)
  | mandatePaused
  | mandateResumed
  | mandateRevoked
  | mandateCompleted (successfulCharges : U32)
deriving DecidableEq

structure MandateLifecycleEvent where
  kind : MandateLifecycleEventKind
  mandateId : BytesN
  payer : Address
  merchant : Address
  ledger : ℕ
  /-- The RPC's own id of the event. -/
  rpcEventId : ℕ
deriving DecidableEq

/-- An entry of the RPC. Its id is its place among all events of the contract, as the RPC's ids are
made from the place of the event in the chain. -/
structure EventResponse where
  id : ℕ
  ledger : ℕ
  inSuccessfulContractCall : Bool
  event : Event
deriving DecidableEq

def decodeMandateLifecycleEvent (raw : EventResponse) : Option MandateLifecycleEvent :=
  match raw.event with
  | .mandateCreated mandateId payer merchant asset _ _ _ _ _ _ _ _ _ =>
      some ⟨.mandateCreated asset, mandateId, payer, merchant, raw.ledger, raw.id⟩
  | .mandatePaused mandateId payer merchant _ =>
      some ⟨.mandatePaused, mandateId, payer, merchant, raw.ledger, raw.id⟩
  | .mandateResumed mandateId payer merchant _ =>
      some ⟨.mandateResumed, mandateId, payer, merchant, raw.ledger, raw.id⟩
  | .mandateRevoked mandateId payer merchant _ =>
      some ⟨.mandateRevoked, mandateId, payer, merchant, raw.ledger, raw.id⟩
  | .mandateCompleted mandateId payer merchant successfulCharges _ =>
      some ⟨.mandateCompleted successfulCharges, mandateId, payer, merchant, raw.ledger, raw.id⟩
  | _ => none

/-- The lifecycle event of an entry, unless the call it comes from has failed. -/
def EventResponse.lifecycleEvent? (raw : EventResponse) : Option MandateLifecycleEvent :=
  if raw.inSuccessfulContractCall then decodeMandateLifecycleEvent raw else none

/-! ## The chain -/

structure Chain (T : Type) where
  ledger : Ledger T
  /-- The ledger that was closed last. -/
  sequence : ℕ
  /-- All events of the contract in closed ledgers. -/
  stream : List EventResponse

/-- What a ledger holds: a step of the registry, or a call that has failed with its events. -/
inductive Included (T : Type) where
  | step (step : Registry.Step T)
  | failedCall (events : List Event)

/-- Entries for these events, numbered from `id`. -/
def responses (id ledger : ℕ) (inSuccessfulContractCall : Bool) : List Event → List EventResponse
  | [] => []
  | event :: events =>
      ⟨id, ledger, inSuccessfulContractCall, event⟩ ::
        responses (id + 1) ledger inSuccessfulContractCall events

namespace Chain

variable {T : Type}

def publish (chain : Chain T) (inSuccessfulContractCall : Bool) (events : List Event) : Chain T :=
  { chain with
    stream := chain.stream ++
      responses chain.stream.length (chain.sequence + 1) inSuccessfulContractCall events }

def add (host : Host T) (chain : Chain T) : Included T → Chain T
  | .step step =>
      { chain with ledger := Registry.exec host chain.ledger step }.publish true
        ((Registry.exec host chain.ledger step).events.drop chain.ledger.events.length)
  | .failedCall events => chain.publish false events

/-- The next ledger closes, with all it holds. -/
def close (host : Host T) (chain : Chain T) (included : List (Included T)) : Chain T :=
  { included.foldl (add host) chain with sequence := chain.sequence + 1 }

/-- The registry just deployed, in ledger `sequence`. -/
def genesis (t₀ : U64) (tok₀ : T) (sequence : ℕ) : Chain T :=
  ⟨Registry.genesis t₀ tok₀, sequence, []⟩

end Chain

/-! ## The RPC -/

/-- A place in the stream: so many events lie before it. The ledger up to which the RPC has looked is
part of the token. -/
structure Cursor where
  consumed : ℕ
  scannedLedger : ℕ
deriving DecidableEq

inductive GetEventsRequest where
  | cursor (cursor : Cursor) (limit : ℕ)
  | startLedger (startLedger limit : ℕ)
deriving DecidableEq

structure GetEventsResponse where
  events : List EventResponse
  cursor : Cursor
  latestLedger : ℕ
  oldestLedger : ℕ

section

variable {T : Type}

/-- The oldest ledger that is kept, when so many are. -/
def Chain.oldestLedger (chain : Chain T) (retention : ℕ) : ℕ := chain.sequence + 1 - retention

def Chain.respond (chain : Chain T) (retention start size : ℕ) : GetEventsResponse :=
  let events := Feed.page chain.stream start size
  { events := events
    cursor :=
      { consumed := start + events.length
        scannedLedger :=
          -- at the end of the stream the RPC has looked at every closed ledger
          if start + events.length = chain.stream.length then chain.sequence
          else (events.getLast?.map EventResponse.ledger).getD chain.sequence }
    latestLedger := chain.sequence
    oldestLedger := chain.oldestLedger retention }

/-- `getEvents`. The RPC looks at `scanned` events of the contract at most, whatever the limit is. -/
def Chain.getEvents (chain : Chain T) (retention scanned : ℕ) :
    GetEventsRequest → Except String GetEventsResponse
  | .cursor cursor limit =>
      .ok (chain.respond retention
        (max cursor.consumed
          (Feed.firstFrom EventResponse.ledger (chain.oldestLedger retention) chain.stream))
        (min limit scanned))
  | .startLedger startLedger limit =>
      if chain.oldestLedger retention ≤ startLedger ∧ startLedger ≤ chain.sequence then
        .ok (chain.respond retention
          (Feed.firstFrom EventResponse.ledger startLedger chain.stream) (min limit scanned))
      else .error "startLedger must be within the ledger range"

end

/-! ## The page (`stellar/src/events.ts`) -/

structure ChainEventsPage where
  events : List MandateLifecycleEvent
  cursor : Cursor
  latestLedger : ℕ
  oldestLedger : ℕ
  pageMaxLedger : Option ℕ

/-- The largest ledger number so far, and one more entry. -/
def maxLedger (largest : Option ℕ) (raw : EventResponse) : Option ℕ :=
  match largest with
  | none => some raw.ledger
  | some ledger => if ledger < raw.ledger then some raw.ledger else some ledger

def fetchMandateLifecycleEvents (response : GetEventsResponse) : ChainEventsPage where
  events := response.events.filterMap EventResponse.lifecycleEvent?
  cursor := response.cursor
  latestLedger := response.latestLedger
  oldestLedger := response.oldestLedger
  pageMaxLedger := response.events.foldl maxLedger none

end Paymap.Indexer
