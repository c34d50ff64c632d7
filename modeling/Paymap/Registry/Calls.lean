import Paymap.Lib.Runs
import Paymap.Registry.Refund

set_option autoImplicit false

/-! # Calls and runs

The entry points of `lib.rs` that write, as one type of operations, and the runs of a deployed
registry. An invocation is atomic: when it returns an error or traps, the host puts the whole
ledger, tokens and events included, back to what it was.

Between two calls the clock may move forward and the tokens may do anything at all (`Step`), so a
run is every interleaving of calls by anyone with arbitrary token behaviour. The clock never goes
back: closing a ledger at `t` sets it to the later of `t` and the time it had.

`Effect` is everything a successful call can do and `Moved` everything a step can do. Both are
proved once here (`invoke_ok`, `moved_exec`), and every property of runs is an induction whose step
is a case analysis of `Moved`.
-/

namespace Paymap.Registry

/-! ## Operations -/

inductive Op where
  | createMandate (input : MandateInput)
  | changeStatus (op : StatusOp) (mandateId : BytesN)
  | charge (mandateId chargeId : BytesN) (amount : I128) (invoiceHash : BytesN)
  | refund (mandateId paymentId : BytesN) (amount : I128) (refundId : BytesN)
deriving DecidableEq

namespace Op

def pauseMandate (mandateId : BytesN) : Op := .changeStatus .pause mandateId

def resumeMandate (mandateId : BytesN) : Op := .changeStatus .resume mandateId

def revokeMandate (mandateId : BytesN) : Op := .changeStatus .revoke mandateId

end Op

/-- What an invocation returns. -/
inductive Value where
  | mandateId (id : BytesN)
  | unit
  | payment (receipt : PaymentReceipt)
  | refund (receipt : RefundReceipt)
deriving DecidableEq

abbrev Outcome := Except Failure Value

/-- An operation with the addresses that authorised it. -/
structure Call where
  op : Op
  authorized : List Address
deriving DecidableEq

section

variable {T : Type}

def Host.env (host : Host T) (authorized : List Address) : Env T :=
  { host with authorized := authorized }

def Op.body (env : Env T) : Op → HostM T Value
  | .createMandate input => do return .mandateId (← Registry.createMandate env input)
  | .changeStatus op mandateId => do
      Registry.changeStatus env op mandateId
      return .unit
  | .charge mandateId chargeId amount invoiceHash => do
      return .payment (← Registry.charge env mandateId chargeId amount invoiceHash)
  | .refund mandateId paymentId amount refundId => do
      return .refund (← Registry.refund env mandateId paymentId amount refundId)

/-- An invocation under the host's rollback. -/
def invoke (host : Host T) (c : Call) (l : Ledger T) : Outcome × Ledger T :=
  Tx.atomic (c.op.body (host.env c.authorized)) l

/-! ## Runs -/

inductive Step (T : Type) where
  | close (timestamp : U64)
  | token (t : T)
  | call (c : Call)

/-- The ledger's clock after a close at `t`. -/
def advance (now t : U64) : U64 := if now ≤ t then t else now

def exec (host : Host T) (l : Ledger T) : Step T → Ledger T
  | .close t => { l with timestamp := advance l.timestamp t }
  | .token t => { l with token := t }
  | .call c => (invoke host c l).2

/-- The registry just deployed, at `t₀`, with the tokens in state `tok₀`. -/
def genesis (t₀ : U64) (tok₀ : T) : Ledger T := ⟨t₀, .empty, [], tok₀⟩

/-- The ledger a run reaches. -/
abbrev run (host : Host T) (l : Ledger T) (steps : List (Step T)) : Ledger T :=
  Runs.run (exec host) l steps

/-- One call of a run: the ledger it met, what it answered and the ledger it left. -/
structure Entry (T : Type) where
  before : Ledger T
  call : Call
  outcome : Outcome
  after : Ledger T

/-- The calls of a run, in order. -/
def log (host : Host T) : Ledger T → List (Step T) → List (Entry T)
  | _, [] => []
  | l, .call c :: steps =>
      ⟨l, c, (invoke host c l).1, (invoke host c l).2⟩ :: log host (invoke host c l).2 steps
  | l, step :: steps => log host (exec host l step) steps

/-- What the calls of a run answer. -/
def outcomes (host : Host T) (l : Ledger T) (steps : List (Step T)) : List Outcome :=
  (log host l steps).map Entry.outcome

theorem le_advance (now t : U64) : now.val ≤ (advance now t).val := by
  unfold advance
  split
  · assumption
  · exact le_rfl

theorem log_append (host : Host T) (l : Ledger T) (s₁ s₂ : List (Step T)) :
    log host l (s₁ ++ s₂) = log host l s₁ ++ log host (run host l s₁) s₂ := by
  induction s₁ generalizing l with
  | nil => rfl
  | cons step s₁ ih =>
      cases step with
      | close t => exact ih _
      | token t => exact ih _
      | call c =>
          rw [List.cons_append, log, ih]
          rfl

/-! ## What a call does -/

/-- The effect of a successful call. -/
inductive Effect (host : Host T) (authorized : List Address) (l : Ledger T) :
    Op → Value → Ledger T → Prop where
  | created (input : MandateInput)
      (payer_auth : input.payer ∈ authorized)
      (fresh : l.storage.getMandate (host.inputId input) = none)
      (valid : ValidInput l.timestamp input) :
      Effect host authorized l (.createMandate input) (.mandateId (host.inputId input))
        (createdLedger host l input)
  | statusChanged (op : StatusOp) (mandateId : BytesN) (m : Mandate)
      (stored : l.storage.getMandate mandateId = some m)
      (payer_auth : m.payer ∈ authorized)
      (allowed : op.check (effectiveStatus m l.timestamp) = .ok ()) :
      Effect host authorized l (.changeStatus op mandateId) .unit (statusLedger op l mandateId m)
  | charged (mandateId chargeId : BytesN) (amount : I128) (invoiceHash : BytesN) (m : Mandate)
      (period : BillingPeriod) (collected : I128) (t : T) (m' : Mandate)
      (stored : l.storage.getMandate mandateId = some m)
      (chargeable : Chargeable authorized m l.timestamp
        (l.storage.hasUsedCharge mandateId chargeId) amount period collected)
      (paid : ChargePaid (host.env authorized) l.token m amount t)
      (accounted : Accounted m period collected amount l.timestamp m') :
      Effect host authorized l (.charge mandateId chargeId amount invoiceHash)
        (.payment (newReceipt host m' mandateId chargeId amount invoiceHash l.timestamp))
        (chargedLedger l m' period
          (newReceipt host m' mandateId chargeId amount invoiceHash l.timestamp) t)
  | refunded (mandateId paymentId : BytesN) (amount : I128) (refundId : BytesN) (m : Mandate)
      (payment : PaymentReceipt) (total : I128) (t : T)
      (stored : l.storage.getMandate mandateId = some m)
      (payment_stored : l.storage.getPayment paymentId = some payment)
      (refundable : Refundable authorized m mandateId payment
        (l.storage.hasUsedRefund refundId) (l.storage.getRefundedTotal paymentId) amount total)
      (paid : RefundPaid (host.env authorized) l.token payment amount t) :
      Effect host authorized l (.refund mandateId paymentId amount refundId)
        (.refund (newRefundReceipt refundId paymentId amount l.timestamp))
        (refundedLedger l payment mandateId
          (newRefundReceipt refundId paymentId amount l.timestamp) total t)

theorem body_ok {host : Host T} {authorized : List Address} {op : Op} {l l' : Ledger T}
    {v : Value} :
    (op.body (host.env authorized)).run l = .ok v l' ↔ Effect host authorized l op v l' := by
  constructor
  · intro h
    cases op with
    | createMandate input =>
        obtain ⟨id, l₁, h, hret⟩ := Tx.run_bind_ok.mp h
        obtain ⟨hauth, hfresh, hvalid, rfl, rfl⟩ := createMandate_ok.mp h
        cases hret
        exact .created input hauth hfresh hvalid
    | changeStatus op mandateId =>
        obtain ⟨_, l₁, h, hret⟩ := Tx.run_bind_ok.mp h
        obtain ⟨m, hm, hauth, hcheck, rfl⟩ := changeStatus_ok.mp h
        cases hret
        exact .statusChanged op mandateId m hm hauth hcheck
    | charge mandateId chargeId amount invoiceHash =>
        obtain ⟨r, l₁, h, hret⟩ := Tx.run_bind_ok.mp h
        obtain ⟨m, period, collected, t, m', hm, hchecks, hpaid, hacc, rfl, rfl⟩ :=
          charge_ok.mp h
        cases hret
        exact .charged mandateId chargeId amount invoiceHash m period collected t m' hm hchecks
          hpaid hacc
    | refund mandateId paymentId amount refundId =>
        obtain ⟨r, l₁, h, hret⟩ := Tx.run_bind_ok.mp h
        obtain ⟨m, payment, total, t, hm, hp, hchecks, hpaid, rfl, rfl⟩ := refund_ok.mp h
        cases hret
        exact .refunded mandateId paymentId amount refundId m payment total t hm hp hchecks hpaid
  · intro h
    cases h with
    | created input hauth hfresh hvalid =>
        exact Tx.run_bind_ok.mpr ⟨_, _,
          createMandate_ok.mpr ⟨hauth, hfresh, hvalid, rfl, rfl⟩, rfl⟩
    | statusChanged op mandateId m hm hauth hcheck =>
        exact Tx.run_bind_ok.mpr ⟨(), _, changeStatus_ok.mpr ⟨m, hm, hauth, hcheck, rfl⟩, rfl⟩
    | charged mandateId chargeId amount invoiceHash m period collected t m' hm hchecks hpaid hacc =>
        exact Tx.run_bind_ok.mpr ⟨_, _,
          charge_ok.mpr ⟨m, period, collected, t, m', hm, hchecks, hpaid, hacc, rfl, rfl⟩, rfl⟩
    | refunded mandateId paymentId amount refundId m payment total t hm hp hchecks hpaid =>
        exact Tx.run_bind_ok.mpr ⟨_, _,
          refund_ok.mpr ⟨m, payment, total, t, hm, hp, hchecks, hpaid, rfl, rfl⟩, rfl⟩

theorem invoke_ok {host : Host T} {c : Call} {l l' : Ledger T} {v : Value} :
    invoke host c l = (.ok v, l') ↔ Effect host c.authorized l c.op v l' := by
  rw [invoke, Tx.atomic_ok, body_ok]

theorem exists_effect {host : Host T} {c : Call} {l : Ledger T} {v : Value}
    (h : (invoke host c l).1 = .ok v) :
    ∃ l', invoke host c l = (.ok v, l') ∧ Effect host c.authorized l c.op v l' :=
  ⟨(invoke host c l).2, Prod.ext h rfl, invoke_ok.mp (Prod.ext h rfl)⟩

/-- A call that does not return a value leaves the ledger as it was. -/
theorem invoke_error {host : Host T} {c : Call} {l : Ledger T} {f : Failure}
    (h : (invoke host c l).1 = .error f) : (invoke host c l).2 = l := by
  obtain ⟨hl, -⟩ := Tx.atomic_error.mp (Prod.ext h rfl : invoke host c l = (.error f, _))
  exact hl

theorem chargeFailure_of_error {host : Host T} {mandateId chargeId invoiceHash : BytesN} {amount : I128}
    {authorized : List Address} {l : Ledger T} {f : Failure}
    (h : (invoke host ⟨.charge mandateId chargeId amount invoiceHash, authorized⟩ l).1 = .error f) :
    ChargeFailure (host.env authorized) l mandateId chargeId amount f := by
  obtain ⟨-, l', hrun⟩ := Tx.atomic_error.mp (Prod.ext h rfl : Tx.atomic _ l = (_, _))
  rcases Tx.run_bind_error.mp hrun with h | ⟨r, l₁, -, hret⟩
  · exact charge_error h
  · cases hret

theorem body_failKeeps (env : Env T) (op : Op) : Tx.FailKeeps SameBooks (op.body env) := by
  intro l e l' h
  cases op with
  | createMandate input =>
      rcases Tx.run_bind_error.mp h with h | ⟨id, l₁, -, hret⟩
      · exact createMandate_failKeeps env input l e l' h
      · cases hret
  | changeStatus op mandateId =>
      rcases Tx.run_bind_error.mp h with h | ⟨_, l₁, -, hret⟩
      · exact changeStatus_failKeeps env op mandateId l e l' h
      · cases hret
  | charge mandateId chargeId amount invoiceHash =>
      rcases Tx.run_bind_error.mp h with h | ⟨r, l₁, -, hret⟩
      · exact charge_failKeeps env mandateId chargeId amount invoiceHash l e l' h
      · cases hret
  | refund mandateId paymentId amount refundId =>
      rcases Tx.run_bind_error.mp h with h | ⟨r, l₁, -, hret⟩
      · exact refund_failKeeps env mandateId paymentId amount refundId l e l' h
      · cases hret

/-! ## What a step does -/

inductive Moved (host : Host T) (l : Ledger T) : Step T → Ledger T → Prop where
  | closed (t now : U64) (le : l.timestamp.val ≤ now.val) :
      Moved host l (.close t) { l with timestamp := now }
  | tokens (t : T) : Moved host l (.token t) { l with token := t }
  | rejected (c : Call) (f : Failure) (outcome : (invoke host c l).1 = .error f) :
      Moved host l (.call c) l
  | done (c : Call) (v : Value) (l' : Ledger T) (outcome : invoke host c l = (.ok v, l'))
      (effect : Effect host c.authorized l c.op v l') : Moved host l (.call c) l'

theorem moved_exec (host : Host T) (l : Ledger T) (step : Step T) :
    Moved host l step (exec host l step) := by
  cases step with
  | close t => exact .closed t _ (le_advance _ _)
  | token t => exact .tokens t
  | call c =>
      show Moved host l (.call c) (invoke host c l).2
      cases hout : (invoke host c l).1 with
      | error f =>
          rw [invoke_error hout]
          exact .rejected c f hout
      | ok v =>
          have h : invoke host c l = (.ok v, (invoke host c l).2) := Prod.ext hout rfl
          exact .done c v _ h (invoke_ok.mp h)

end

end Paymap.Registry
