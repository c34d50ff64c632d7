import Paymap.Lib.Runs
import Paymap.Relayer.Pipeline

set_option autoImplicit false

/-! # The relayer at work

`exec` interleaves any number of jobs of the pipeline with everything else that happens: time
passes, the network executes what was broadcast or lets it lie, others use the registry, the API
issues and completes authorizations, stale work is recovered. A job for any request may start at any
time and any number of times, which covers whatever the scheduler and its queue deliver; a worker
that is never scheduled again has crashed. The RPC may fail at each single request, and the database
at each single transaction (`Reply`).
-/

namespace Paymap.Relayer

open Registry (Address BytesN Host Ledger)

/-! ## Performing an effect -/

/-- What becomes of a request to the RPC or to the database. -/
inductive Reply where
  /-- It is answered. `authorized` is what the network finds proved by the transaction's entries. -/
  | served (authorized : List Address)
  /-- `sendTransaction` answers with another status than `PENDING`. -/
  | refused
  /-- It does not arrive. -/
  | lost
  /-- It arrives, and its answer does not come back. -/
  | unanswered
deriving DecidableEq

structure Shared (T : Type) where
  db : Db
  network : Network T
  clock : Time

section

variable {T : Type}

/-- `getMandate` of the client: the read the contract offers, and the name of its error. -/
def readMandate (l : Ledger T) (mandateId : BytesN) : Except ReadFailure Registry.Mandate :=
  match Registry.getMandate l mandateId with
  | .ok mandate => .ok mandate
  | .error (.err e) => .error (.mandateReadError (contractErrorName e))
  | .error .trap => .error .other

/-- The final status of a transaction, as far as it is known when polling ends. A result that cannot
be parsed makes the client throw. -/
def Network.poll (net : Network T) (hash : TxHash) : Polled :=
  match net.transactions[hash]? with
  | some ⟨_, none⟩ => .stillPending
  | _ =>
      match net.result? hash with
      | some (result, ledger) => .final result ledger
      | none => .threw

def perform (host : Host T) (reply : Reply) : (e : Effect) → Shared T → Answer e × Shared T
  | .now, s => (s.clock, s)
  | .findChargeRequest id, s => (s.db.chargeRequests.lookup id, s)
  | .findMerchant id, s => (s.db.merchants.lookup id, s)
  | .findCheckoutSession merchantId mandateId, s =>
      (s.db.checkoutSessions.lookup (merchantId, mandateId), s)
  | .findChargeAuthorization id, s => (s.db.chargeAuthorizations.lookup id, s)
  | .transact statements, s =>
      -- one that commits without its answer coming back is one after which the worker crashes
      match reply, transact s.clock statements s.db with
      | .lost, _ => (.error .databaseError, s)
      | _, .ok db => (.ok (), { s with db := db })
      | _, .error e => (.error e, s)
  | .getMandate mandateId, s =>
      match reply with
      | .served _ => (readMandate s.network.ledger mandateId, s)
      | _ => (.error .other, s)
  | .getLatestLedgerSequence, s =>
      match reply with
      | .served _ => (some s.network.sequence, s)
      | _ => (none, s)
  | .simulateCharge args, s =>
      match reply with
      | .served authorized => (s.network.simulate host args authorized, s)
      | _ => (none, s)
  | .sendTransaction args, s =>
      match reply with
      | .served _ =>
          (.pending s.network.transactions.length, { s with network := s.network.broadcast args })
      | .refused => (.sendFailed, s)
      | .lost => (.threw, s)
      | .unanswered => (.threw, { s with network := s.network.broadcast args })
  | .pollTransaction hash, s =>
      match reply with
      | .served _ => (s.network.poll hash, s)
      | _ => (.threw, s)

/-! ## Runs -/

inductive Action (T : Type) where
  /-- A job for a request is delivered. -/
  | start (chargeRequestId : Uuid)
  /-- A worker has its next effect performed. -/
  | work (worker : ℕ) (reply : Reply)
  | recoverStale
  | tick (ms : ℕ)
  /-- The network executes a transaction that was broadcast. -/
  | execute (hash : TxHash) (authorized : List Address)
  /-- Anything else on the chain: a ledger closes, tokens move, somebody calls the registry. -/
  | chain (step : Registry.Step T)
  | closeLedgers (count : ℕ)
  | createAuthorization (authorization : ChargeAuthorization)
  | completeAuthorization (authorizationId chargeRequestId : Uuid) (ciphertext : ℕ)
  | setMerchant (id : Uuid) (walletAddress : Address)
  | setCheckoutSession (merchantId : Uuid) (mandateId : BytesN) (assetAddress : Address)

abbrev System (T : Type) := Workers (Shared T) (Pipeline PipelineOutcome)

/-- A transaction that throws leaves the tables as they were. -/
def Shared.write (f : Db → Except Thrown Db) (s : Shared T) : Shared T :=
  match f s.db with
  | .ok db => { s with db := db }
  | .error _ => s

/-- What an action does to the shared state when it is not a worker's. -/
def outsideEffect (host : Host T) : Action T → Shared T → Shared T
  | .start _, s => s
  | .work _ _, s => s
  | .recoverStale, s => { s with db := recoverStalePreSubmissionCharges s.clock s.db }
  | .tick ms, s => { s with clock := s.clock + ms }
  | .execute hash authorized, s =>
      { s with network := s.network.execute host hash authorized }
  | .chain step, s => { s with network := s.network.other host step }
  | .closeLedgers count, s =>
      { s with network := { s.network with sequence := s.network.sequence + count } }
  | .createAuthorization authorization, s =>
      s.write fun db => createChargeAuthorization db authorization
  | .completeAuthorization authorizationId chargeRequestId ciphertext, s =>
      s.write fun db =>
        completeChargeAuthorization s.clock db authorizationId chargeRequestId ciphertext
  | .setMerchant id walletAddress, s =>
      { s with db := { s.db with merchants := s.db.merchants.insert id walletAddress } }
  | .setCheckoutSession merchantId mandateId assetAddress, s =>
      { s with db := { s.db with
          checkoutSessions := s.db.checkoutSessions.insert (merchantId, mandateId) assetAddress } }

def exec (host : Host T) (deps : PipelineDeps) (s : System T) : Action T → System T
  | .start chargeRequestId => s.start (processChargeRequest deps chargeRequestId)
  | .work worker reply => s.work (perform host reply) worker
  | action => s.outside (outsideEffect host action)

/-- Nothing in the tables, nobody at work, the registry just deployed. -/
def initial (t₀ : U64) (tok₀ : T) : System T :=
  ⟨⟨.empty, ⟨Registry.genesis t₀ tok₀, 0, []⟩, 0⟩, []⟩

abbrev run (host : Host T) (deps : PipelineDeps) (s : System T) (actions : List (Action T)) :
    System T := Runs.run (exec host deps) s actions

end

end Paymap.Relayer
