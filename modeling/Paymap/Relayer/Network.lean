import Paymap.Registry.Receipts
import Paymap.Relayer.Classify

set_option autoImplicit false

/-! # The network as the relayer meets it

A Soroban network has a ledger, a sequence number that every ledger close raises, and the
transactions that have been broadcast to it. A broadcast transaction may be executed at any later
time, once, or never. Each transaction of the relayer is one invocation of `charge`; which addresses
its authorization entries prove when it is simulated or executed is for the network to decide (an
entry has a nonce and an expiration ledger), so it is an argument here.

An execution that ends in a trap has no result a client can parse.
-/

namespace Paymap.Relayer

open Registry (Address BytesN Call Host Ledger Mandate Outcome PaymentReceipt invoke)

/-- The arguments of `buildCharge`, the signed authorization entry among them. -/
structure ChargeArgs where
  mandateId : BytesN
  chargeId : BytesN
  amount : ℤ
  invoiceHash : BytesN
  signedAuthorizationEntry : Option ℕ
deriving DecidableEq

/-- The invocation; an amount that is no `i128` cannot be encoded. -/
def ChargeArgs.call (args : ChargeArgs) (authorized : List Address) : Option Call :=
  (MachineInt.ofInt? args.amount).map fun amount =>
    ⟨.charge args.mandateId args.chargeId amount args.invoiceHash, authorized⟩

structure Executed where
  outcome : Outcome
  ledger : ℕ

structure Transaction where
  args : ChargeArgs
  executed : Option Executed

structure Network (T : Type) where
  ledger : Ledger T
  sequence : ℕ
  transactions : List Transaction

/-- The result of an invocation as the client parses it: a receipt, or the name of an error. -/
def parseResult : Outcome → Option (Except String PaymentReceipt)
  | .ok (.payment receipt) => some (.ok receipt)
  | .ok _ => none
  | .error (.err e) => some (.error (contractErrorName e))
  | .error .trap => none

namespace Network

variable {T : Type}

/-- `simulateTransaction`: the invocation on the ledger as it is, without effect. -/
def simulate (host : Host T) (net : Network T) (args : ChargeArgs) (authorized : List Address) :
    Option (Except String PaymentReceipt) :=
  (args.call authorized).bind fun c => parseResult (invoke host c net.ledger).1

/-- The transaction reaches the network. -/
def broadcast (net : Network T) (args : ChargeArgs) : Network T :=
  { net with transactions := net.transactions ++ [⟨args, none⟩] }

/-- The network executes transaction `hash`. -/
def execute (host : Host T) (net : Network T) (hash : TxHash) (authorized : List Address) :
    Network T :=
  match net.transactions[hash]? with
  | some ⟨args, none⟩ =>
      -- a transaction that traps is executed too, and leaves the ledger as it was
      match args.call authorized with
      | some c =>
          { net with
            ledger := (invoke host c net.ledger).2
            transactions := net.transactions.set hash
              ⟨args, some ⟨(invoke host c net.ledger).1, net.sequence⟩⟩ }
      | none => net
  | _ => net

/-- A step of the registry in which no transaction of the relayer takes part. -/
def other (host : Host T) (net : Network T) (step : Registry.Step T) : Network T :=
  { net with ledger := Registry.exec host net.ledger step }

/-- What is known of transaction `hash` once it is executed. -/
def result? (net : Network T) (hash : TxHash) : Option (Except String PaymentReceipt × ℕ) := do
  let transaction ← net.transactions[hash]?
  let executed ← transaction.executed
  let result ← parseResult executed.outcome
  return (result, executed.ledger)

/-- Transaction `hash` was executed and charged, leaving `receipt`. -/
def Charged (net : Network T) (hash : TxHash) (receipt : PaymentReceipt) : Prop :=
  ∃ args ledger, net.transactions[hash]? = some ⟨args, some ⟨.ok (.payment receipt), ledger⟩⟩

theorem parseResult_ok {outcome : Outcome} {receipt : PaymentReceipt} :
    parseResult outcome = some (.ok receipt) ↔ outcome = .ok (.payment receipt) := by
  unfold parseResult
  split <;> simp_all

theorem result?_ok {net : Network T} {hash : TxHash} {receipt : PaymentReceipt} {ledger : ℕ}
    (h : net.result? hash = some (.ok receipt, ledger)) : net.Charged hash receipt := by
  simp only [result?, bind, pure, Option.bind_eq_some_iff, Option.some.injEq,
    Prod.mk.injEq] at h
  obtain ⟨⟨args, executed⟩, htx, ⟨outcome, executedIn⟩, hexecuted, result, hresult, rfl, -⟩ := h
  cases hexecuted
  obtain rfl : outcome = .ok (.payment receipt) := parseResult_ok.mp hresult
  exact ⟨args, executedIn, htx⟩

theorem result?_of_charged {net : Network T} {hash : TxHash} {receipt : PaymentReceipt}
    (h : net.Charged hash receipt) : ∃ ledger, net.result? hash = some (.ok receipt, ledger) := by
  obtain ⟨args, ledger, htx⟩ := h
  exact ⟨ledger, by simp [result?, htx, parseResult]⟩

/-! ## What an execution does -/

/-- An execution happens to one broadcast transaction, as a call on the ledger. -/
theorem execute_cases (host : Host T) (net : Network T) (hash : TxHash)
    (authorized : List Address) :
    net.execute host hash authorized = net ∨
      ∃ args c, net.transactions[hash]? = some ⟨args, none⟩ ∧ args.call authorized = some c ∧
        net.execute host hash authorized =
          { net with
            ledger := Registry.exec host net.ledger (.call c)
            transactions := net.transactions.set hash
              ⟨args, some ⟨(invoke host c net.ledger).1, net.sequence⟩⟩ } := by
  unfold execute
  split
  · rename_i args htx
    cases hcall : args.call authorized with
    | none => exact .inl rfl
    | some c => exact .inr ⟨args, c, htx, hcall, rfl⟩
  · exact .inl rfl

theorem op_of_call {args : ChargeArgs} {authorized : List Address} {c : Call}
    (h : args.call authorized = some c) :
    ∃ amount, c.op = .charge args.mandateId args.chargeId amount args.invoiceHash := by
  obtain ⟨amount, -, rfl⟩ := Option.map_eq_some_iff.mp h
  exact ⟨amount, rfl⟩

/-- A broadcast transaction is never taken back, and is executed once. -/
def Grows (net net' : Network T) : Prop :=
  ∀ {hash : TxHash} {args : ChargeArgs} {executed : Option Executed},
    net.transactions[hash]? = some ⟨args, executed⟩ →
    ∃ executed', net'.transactions[hash]? = some ⟨args, executed'⟩ ∧
      (executed.isSome → executed' = executed)

theorem Grows.refl (net : Network T) : net.Grows net := fun h => ⟨_, h, fun _ => rfl⟩

theorem grows_broadcast (net : Network T) (args : ChargeArgs) : net.Grows (net.broadcast args) := by
  intro hash args' executed htx
  refine ⟨executed, ?_, fun _ => rfl⟩
  show (net.transactions ++ [⟨args, none⟩])[hash]? = _
  rw [List.getElem?_append_left (List.getElem?_eq_some_iff.mp htx).1, htx]

theorem grows_execute (host : Host T) (net : Network T) (hash : TxHash)
    (authorized : List Address) : net.Grows (net.execute host hash authorized) := by
  rcases net.execute_cases host hash authorized with heq | ⟨args, c, htx, -, heq⟩
  · rw [heq]
    exact Grows.refl net
  · rw [heq]
    intro hash' args' executed htx'
    show ∃ executed', (net.transactions.set hash _)[hash']? = _ ∧ _
    by_cases hne : hash = hash'
    · subst hne
      have hlt := (List.getElem?_eq_some_iff.mp htx).1
      obtain ⟨rfl, rfl⟩ : args = args' ∧ none = executed := by simpa [htx] using htx'
      exact ⟨_, List.getElem?_set_self hlt, by simp⟩
    · exact ⟨executed, by rw [List.getElem?_set_ne hne, htx'], fun _ => rfl⟩

theorem Grows.charged {net net' : Network T} (h : net.Grows net') {hash : TxHash}
    {receipt : PaymentReceipt} (hc : net.Charged hash receipt) : net'.Charged hash receipt := by
  obtain ⟨args, ledger, htx⟩ := hc
  obtain ⟨executed', htx', hsame⟩ := h htx
  rw [hsame rfl] at htx'
  exact ⟨args, ledger, htx'⟩

/-- What the broadcast transactions say about the ledger: one that charged has left its receipt
there, for the mandate and the charge it was made for. -/
structure Sound (host : Host T) (net : Network T) : Prop where
  books : Registry.Books host net.ledger
  receipt : ∀ {hash : TxHash} {args : ChargeArgs} {receipt : PaymentReceipt} {ledger : ℕ},
    net.transactions[hash]? = some ⟨args, some ⟨.ok (.payment receipt), ledger⟩⟩ →
    net.ledger.storage.getPayment receipt.paymentId = some receipt ∧
      receipt.mandateId = args.mandateId ∧ receipt.chargeId = args.chargeId

theorem sound_broadcast {host : Host T} {net : Network T} (h : net.Sound host)
    (args : ChargeArgs) : (net.broadcast args).Sound host where
  books := h.books
  receipt {hash args' receipt ledger} htx := by
    change (net.transactions ++ [⟨args, none⟩])[hash]? = _ at htx
    rw [List.getElem?_append] at htx
    split at htx
    · exact h.receipt htx
    · cases List.mem_singleton.mp (List.mem_of_getElem? htx)

theorem sound_other {host : Host T} (hinj : Function.Injective host.sha256) {net : Network T}
    (h : net.Sound host) (step : Registry.Step T) : (net.other host step).Sound host where
  books := Registry.books_exec hinj h.books step
  receipt htx := by
    obtain ⟨hstored, hids⟩ := h.receipt htx
    exact ⟨Registry.getPayment_exec h.books hstored step, hids⟩

theorem sound_execute {host : Host T} (hinj : Function.Injective host.sha256) {net : Network T}
    (h : net.Sound host) (hash : TxHash) (authorized : List Address) :
    (net.execute host hash authorized).Sound host := by
  rcases net.execute_cases host hash authorized with heq | ⟨args, c, htx, hcall, heq⟩
  · rw [heq]
    exact h
  · rw [heq]
    refine ⟨Registry.books_exec hinj h.books (.call c), ?_⟩
    intro hash' args' receipt ledger htx'
    change (net.transactions.set hash _)[hash']? = _ at htx'
    by_cases hne : hash = hash'
    · -- the transaction executed now: the receipt is the one its call has stored
      subst hne
      have hlt := (List.getElem?_eq_some_iff.mp htx).1
      rw [List.getElem?_set_self hlt] at htx'
      simp only [Option.some.injEq, Transaction.mk.injEq, Executed.mk.injEq] at htx'
      obtain ⟨rfl, hout, rfl⟩ := htx'
      have hnew := Registry.newReceipt_of_payment hout
      obtain ⟨amount, hop⟩ := op_of_call hcall
      have hids := hnew.op_eq.symm.trans hop
      simp only [Registry.Op.charge.injEq] at hids
      refine ⟨?_, hids.1, hids.2.1⟩
      exact (hnew.getPayment_eq _).trans (if_pos rfl)
    · rw [List.getElem?_set_ne hne] at htx'
      obtain ⟨hstored, hids⟩ := h.receipt htx'
      exact ⟨Registry.getPayment_exec h.books hstored _, hids⟩

end Network

end Paymap.Relayer
