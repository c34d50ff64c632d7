import Paymap.Lib.FinMap
import Paymap.Lib.Prog
import Paymap.Lib.Runs
import Paymap.Lib.Transactions
import Paymap.Relayer.Tables

set_option autoImplicit false

/-! # Idempotent requests

`runIdempotent` of `idempotency/middleware.ts`, and the database under it: any number of calls run side
by side, each in one transaction. What a handler does in its transaction is its own business, so the
statements it may run, their answers, its errors and its bodies are parameters (`Handling`).

A transaction reads what is committed, and what it has written itself. `INSERT .. ON CONFLICT DO
NOTHING` waits as long as another open transaction has inserted the same key (`Shared.waits`); what
becomes of the wait is decided by that transaction. A transaction may be aborted by the database at
any time, and each request to the database may fail; a commit may be carried out and not be answered.
-/

namespace Paymap.Api.Idempotency

open Relayer (Uuid)

/-! ## Handlers -/

/-- What handlers are made of. -/
structure Handling where
  /-- The statements handlers run in their transactions. -/
  Statement : Type
  Answer : Statement → Type
  Error : Type
  Body : Type
  Json : Type
  /-- What a body leaves in a JSON column; nothing for `undefined` and `null`. -/
  toJson : Body → Option Json

/-- A merchant's `Idempotency-Key`. -/
abbrev Key := Uuid × String

variable {σ : Handling}

structure IdempotentHandlerResult (σ : Handling) where
  status : ℕ
  body : σ.Body

/-- A handler; a statement that fails is answered `none`. -/
abbrev Handler (σ : Handling) :=
  Prog σ.Statement (fun statement => Option (σ.Answer statement)) σ.Error
    (IdempotentHandlerResult σ)

/-- A row of the table. -/
structure IdempotencyKey (σ : Handling) where
  requestHash : String
  responseStatus : Option ℕ
  responseBody : Option σ.Json

/-- The body is the handler's, or the stored one. -/
structure IdempotentOutcome (σ : Handling) where
  replayed : Bool
  status : ℕ
  body : σ.Body ⊕ σ.Json

/-- The body as the client gets it. -/
def IdempotentOutcome.json (outcome : IdempotentOutcome σ) : Option σ.Json :=
  outcome.body.elim σ.toJson some

inductive Thrown (σ : Handling) where
  | idempotencyKeyReused
  | idempotencyKeyProcessing
  | recordNotFound
  /-- The database has failed, or has aborted the transaction. -/
  | database
  | handler (e : σ.Error)

/-! ## Effects -/

inductive Effect (σ : Handling) where
  | beginTransaction
  | insertKey (key : Key) (requestHash : String)
  | findKey (key : Key)
  | statement (statement : σ.Statement)
  | updateKey (key : Key) (responseStatus : ℕ) (responseBody : Option σ.Json)
  | commit
  | rollback
  /-- The caller is told the result. -/
  | reply (result : Except (Thrown σ) (IdempotentOutcome σ))

/-- What an effect is answered with; `none` is an exception of the database. -/
abbrev Answer : Effect σ → Type
  | .beginTransaction => Option Unit
  | .insertKey _ _ => Option Bool
  | .findKey _ => Option (Option (IdempotencyKey σ))
  | .statement statement => Option (σ.Answer statement)
  | .updateKey _ _ _ => Option Unit
  | .commit => Option Unit
  | .rollback => Unit
  | .reply _ => Unit

abbrev Job (σ : Handling) (α : Type) := Prog (Effect σ) Answer (Thrown σ) α

def Effect.run (e : Effect σ) : Job σ (Answer e) := .perform e

/-! ## The program (`middleware.ts`) -/

/-- The handler in its transaction. -/
def Handler.run : Handler σ → Job σ (IdempotentHandlerResult σ)
  | .ret result => .ret result
  | .raise e => .raise (.handler e)
  | .call statement k => .call (.statement statement) fun answer => run (k answer)

/-- A request that is not the first one under its key. -/
def replay (key : Key) (requestHash : String) : Job σ (IdempotentOutcome σ) := do
  match ← (Effect.findKey key).run with
  | none => .raise .database
  | some none => .raise .recordNotFound
  | some (some existing) =>
      if existing.requestHash ≠ requestHash then .raise .idempotencyKeyReused
      else
        match existing.responseStatus, existing.responseBody with
        | some status, some body => return ⟨true, status, .inr body⟩
        | _, _ => .raise .idempotencyKeyProcessing

/-- The one request that runs its handler. -/
def runHandler (key : Key) (handler : Handler σ) : Job σ (IdempotentOutcome σ) := do
  let result ← handler.run
  match ← (Effect.updateKey key result.status (σ.toJson result.body)).run with
  | none => .raise .database
  | some () => return ⟨false, result.status, .inl result.body⟩

/-- `prisma.$transaction`: it commits, unless an exception ends it. -/
def transaction (body : Job σ (IdempotentOutcome σ)) : Job σ (IdempotentOutcome σ) := do
  match ← Effect.beginTransaction.run with
  | none => .raise .database
  | some () =>
      match ← body.attempt with
      | .ok outcome =>
          match ← Effect.commit.run with
          | none => .raise .database
          | some () => return outcome
      | .error e =>
          Effect.rollback.run
          .raise e

def runIdempotent (key : Key) (requestHash : String) (handler : Handler σ) :
    Job σ (IdempotentOutcome σ) :=
  transaction do
    match ← (Effect.insertKey key requestHash).run with
    | none => .raise .database
    | some weOwnThisAttempt =>
        if weOwnThisAttempt then runHandler key handler else replay key requestHash

structure Call (σ : Handling) where
  key : Key
  requestHash : String
  handler : Handler σ

/-- A call, and its caller. -/
def serve (c : Call σ) : Job σ Unit := do
  let result ← (runIdempotent c.key c.requestHash c.handler).attempt
  (Effect.reply result).run

/-! ## The database -/

/-- An open transaction: the row it has inserted, and the statements its handler has run. -/
structure Transaction (σ : Handling) where
  row : Option (Key × IdempotencyKey σ)
  statements : List σ.Statement

def Transaction.empty : Transaction σ := ⟨none, []⟩

/-- The transaction's own row. -/
def Transaction.row? (t : Transaction σ) (key : Key) : Option (IdempotencyKey σ) :=
  match t.row with
  | some (key', row) => if key' = key then some row else none
  | none => none

structure Shared (σ : Handling) where
  /-- The table, as far as it is committed. -/
  rows : FinMap Key (IdempotencyKey σ)
  /-- The open transactions of the calls. -/
  transactions : FinMap ℕ (Transaction σ)
  /-- The committed transactions, the first one first, each with its call. -/
  committed : List (ℕ × Transaction σ)
  /-- The calls so far, and what their callers were told. -/
  calls : List (Call σ)
  replies : FinMap ℕ (Except (Thrown σ) (IdempotentOutcome σ))

def Shared.empty : Shared σ := ⟨∅, ∅, [], [], ∅⟩

/-- What becomes of a request to the database. -/
inductive Reply (σ : Handling) where
  /-- It is answered, the statements of handlers with this. -/
  | served (answers : (statement : σ.Statement) → σ.Answer statement)
  /-- It fails, and the transaction with it. -/
  | failed
  /-- Its answer does not come back. The connection is lost, and an open transaction with it; a commit
  has been carried out. -/
  | unanswered

namespace Shared

abbrev layer : Transactions.Layer (Shared σ) (Transaction σ) where
  get := Shared.transactions
  set transactions s := { s with transactions := transactions }
  get_set _ _ := rfl
  set_get _ := rfl
  set_set _ _ _ := rfl

/-- A transaction is rolled back. -/
abbrev abort (worker : ℕ) (s : Shared σ) : Shared σ := layer.abort worker s

abbrev put (worker : ℕ) (t : Transaction σ) (s : Shared σ) : Shared σ := layer.put worker t s

def commit (worker : ℕ) (t : Transaction σ) (s : Shared σ) : Shared σ :=
  { s with
    rows :=
      match t.row with
      | some (key, row) => s.rows.insert key row
      | none => s.rows
    transactions := s.transactions.erase worker
    committed := s.committed ++ [(worker, t)] }

/-- The row of this key that a transaction sees. -/
def find (s : Shared σ) (t : Transaction σ) (key : Key) : Option (IdempotencyKey σ) :=
  (t.row? key).or (s.rows.lookup key)

/-- Another open transaction has inserted the key. -/
def held (s : Shared σ) (worker : ℕ) (key : Key) : Bool :=
  (FinMap.keysWhere (fun t => (t.row? key).isSome) s.transactions).any fun other => other ≠ worker

/-- The insert of a key that no committed row has waits for the transaction that has inserted it. -/
def waits (s : Shared σ) (worker : ℕ) : Effect σ → Bool
  | .insertKey key _ =>
      (s.transactions.lookup worker).isSome && (s.rows.lookup key).isNone && s.held worker key
  | _ => false

end Shared

/-- What statements are answered, if they are. -/
def Reply.answers? : Reply σ → Option ((statement : σ.Statement) → σ.Answer statement)
  | .served answers => some answers
  | _ => none

def Reply.fate : Reply σ → Transactions.Fate
  | .served _ => .served
  | .failed => .failed
  | .unanswered => .unanswered

/-- A statement in a transaction: `f` is what it does to the transaction. -/
abbrev Shared.within {α : Type} (s : Shared σ) (worker : ℕ) (reply : Reply σ)
    (answer : Transaction σ → ((statement : σ.Statement) → σ.Answer statement) → α)
    (f : Transaction σ → Transaction σ) : Option α × Shared σ :=
  layer.within s worker (reply.answers?.map fun answers t => some (answer t answers, f t))

def perform (worker : ℕ) (reply : Reply σ) : (e : Effect σ) → Shared σ → Answer e × Shared σ
  | .beginTransaction, s =>
      match reply with
      | .served _ => (some (), s.put worker .empty)
      | _ => (none, s)
  | .insertKey key requestHash, s =>
      s.within worker reply (fun t _ => (s.find t key).isNone) fun t =>
        if (s.find t key).isNone then ⟨some (key, ⟨requestHash, none, none⟩), t.statements⟩ else t
  | .findKey key, s => s.within worker reply (fun t _ => s.find t key) id
  | .statement statement, s =>
      s.within worker reply (fun _ answers => answers statement) fun t =>
        ⟨t.row, t.statements ++ [statement]⟩
  | .updateKey key responseStatus responseBody, s =>
      -- the row the transaction has inserted; no other row is ever updated
      s.within worker reply (fun _ _ => ()) fun t =>
        ⟨(t.row? key).map fun row => (key, ⟨row.requestHash, some responseStatus, responseBody⟩),
          t.statements⟩
  | .commit, s => Shared.layer.commit (Shared.commit worker) s worker reply.fate
  | .rollback, s => ((), s.abort worker)
  | .reply result, s => ((), { s with replies := s.replies.insert worker result })

/-! ## Runs -/

inductive Action (σ : Handling) where
  | call (c : Call σ)
  /-- A call has its next effect performed, if it need not wait. -/
  | work (worker : ℕ) (reply : Reply σ)
  /-- The database aborts a transaction: a timeout, a deadlock, a lost connection. -/
  | abort (worker : ℕ)

abbrev System (σ : Handling) := Workers (Shared σ) (Job σ Unit)

def exec (s : System σ) : Action σ → System σ
  | .call c => (s.outside fun shared => { shared with calls := shared.calls ++ [c] }).start (serve c)
  | .work worker reply =>
      match s.running[worker]? with
      | some (.call e _) =>
          if s.shared.waits worker e then s else s.work (perform worker reply) worker
      | _ => s
  | .abort worker => s.outside (Shared.abort worker)

def initial : System σ := ⟨.empty, []⟩

abbrev run (s : System σ) (actions : List (Action σ)) : System σ := Runs.run exec s actions

end Paymap.Api.Idempotency
