import Paymap.Lib.FinMap
import Paymap.Registry.Types

set_option autoImplicit false

/-! # The host: storage, tokens, ledger

What the contract runs on. `Storage` has one finite map for each constructor of the source's
`DataKey`, with the typed helpers of `storage.rs` under their names (bumping a key's time to live
has no effect a contract can observe). `Token` is the interface of the asset contracts the
registry calls; it is a parameter, and nothing is assumed of it here: a call may answer anything,
change the state of any token, or trap (`none`). `Env` is the `env: &Env` of an invocation: the
deployment and the addresses that authorised this invocation.

An invocation is a `HostM` computation on the `Ledger`. What it has written when it fails is still
in the ledger it leaves; discarding it is the host's doing (`Registry/Calls.lean`).
-/

namespace Paymap.Registry

open Tx (rejectIf)

/-! ## Storage -/

structure Storage where
  mandates : FinMap BytesN Mandate
  payments : FinMap BytesN PaymentReceipt
  /-- `UsedCharge(mandate_id, charge_id)`. -/
  usedCharges : FinMap (BytesN × BytesN) Bool
  usedRefunds : FinMap BytesN Bool
  refundedTotals : FinMap BytesN I128
  refunds : FinMap BytesN RefundReceipt

def Storage.empty : Storage := ⟨∅, ∅, ∅, ∅, ∅, ∅⟩

namespace Storage

def getMandate (s : Storage) (id : BytesN) : Option Mandate := s.mandates.lookup id

def setMandate (s : Storage) (mandate : Mandate) : Storage :=
  { s with mandates := s.mandates.insert mandate.id mandate }

def getPayment (s : Storage) (paymentId : BytesN) : Option PaymentReceipt :=
  s.payments.lookup paymentId

def setPayment (s : Storage) (receipt : PaymentReceipt) : Storage :=
  { s with payments := s.payments.insert receipt.paymentId receipt }

def hasUsedCharge (s : Storage) (mandateId chargeId : BytesN) : Bool :=
  (s.usedCharges.lookup (mandateId, chargeId)).isSome

def markChargeUsed (s : Storage) (mandateId chargeId : BytesN) : Storage :=
  { s with usedCharges := s.usedCharges.insert (mandateId, chargeId) true }

def hasUsedRefund (s : Storage) (refundId : BytesN) : Bool := (s.usedRefunds.lookup refundId).isSome

def markRefundUsed (s : Storage) (refundId : BytesN) : Storage :=
  { s with usedRefunds := s.usedRefunds.insert refundId true }

/-- `0` when no refund has ever been recorded against `paymentId`. -/
def getRefundedTotal (s : Storage) (paymentId : BytesN) : I128 :=
  (s.refundedTotals.lookup paymentId).getD 0

def setRefundedTotal (s : Storage) (paymentId : BytesN) (total : I128) : Storage :=
  { s with refundedTotals := s.refundedTotals.insert paymentId total }

def getRefund (s : Storage) (refundId : BytesN) : Option RefundReceipt := s.refunds.lookup refundId

def setRefund (s : Storage) (receipt : RefundReceipt) : Storage :=
  { s with refunds := s.refunds.insert receipt.refundId receipt }

theorem getMandate_setMandate (s : Storage) (m : Mandate) (id : BytesN) :
    (s.setMandate m).getMandate id = if id = m.id then some m else s.getMandate id :=
  FinMap.lookup_insert _ _ _ _

theorem getPayment_setPayment (s : Storage) (r : PaymentReceipt) (id : BytesN) :
    (s.setPayment r).getPayment id = if id = r.paymentId then some r else s.getPayment id :=
  FinMap.lookup_insert _ _ _ _

theorem hasUsedCharge_markChargeUsed (s : Storage) (mandateId chargeId m c : BytesN) :
    (s.markChargeUsed mandateId chargeId).hasUsedCharge m c ↔
      (m = mandateId ∧ c = chargeId) ∨ s.hasUsedCharge m c := by
  have h := FinMap.isSome_lookup_insert s.usedCharges (mandateId, chargeId) (m, c) true
  rwa [Prod.mk.injEq] at h

theorem hasUsedRefund_markRefundUsed (s : Storage) (refundId r : BytesN) :
    (s.markRefundUsed refundId).hasUsedRefund r ↔ r = refundId ∨ s.hasUsedRefund r :=
  FinMap.isSome_lookup_insert s.usedRefunds refundId r true

theorem getRefundedTotal_setRefundedTotal (s : Storage) (p : BytesN) (total : I128) (q : BytesN) :
    (s.setRefundedTotal p total).getRefundedTotal q
      = if q = p then total else s.getRefundedTotal q := by
  unfold getRefundedTotal setRefundedTotal
  rw [FinMap.lookup_insert]
  split <;> rfl

theorem getRefund_setRefund (s : Storage) (r : RefundReceipt) (id : BytesN) :
    (s.setRefund r).getRefund id = if id = r.refundId then some r else s.getRefund id :=
  FinMap.lookup_insert _ _ _ _

end Storage

/-! ## Tokens and the invocation environment -/

/-- The asset contracts, as the registry calls them. `T` is the state of all of them together;
`auth` says which addresses have authorised the call. `none` is a trap. -/
structure Token (T : Type) where
  allowance : T → (asset owner spender : Address) → Option (I128 × T)
  balance : T → (asset id : Address) → Option (I128 × T)
  transferFrom : T → (auth : Address → Bool) → (asset spender source dest : Address) → I128 →
    Option T
  transfer : T → (auth : Address → Bool) → (asset source dest : Address) → I128 → Option T

/-- One element of a hash preimage, a Soroban `Val`. -/
inductive Val where
  | bytes (b : BytesN)
  | address (a : Address)
deriving DecidableEq

/-- The network, the deployed contract, the hash and the tokens: fixed over a run. `sha256` is
the digest of the XDR encoding of a vector of values. -/
structure Host (T : Type) where
  networkId : BytesN
  currentContractAddress : Address
  sha256 : List Val → BytesN
  token : Token T

/-- The environment of one invocation. -/
structure Env (T : Type) extends Host T where
  authorized : List Address

structure Ledger (T : Type) where
  timestamp : U64
  storage : Storage
  events : List Event
  token : T

abbrev HostM (T : Type) := EStateM Failure (Ledger T)

section

variable {T : Type}

/-! ## Identifiers (`id.rs`) -/

def Host.deriveMandateId (host : Host T) (payer merchant asset : Address) (clientNonce : BytesN) :
    BytesN :=
  host.sha256 [.bytes host.networkId, .address host.currentContractAddress, .address payer,
    .address merchant, .address asset, .bytes clientNonce]

def Host.derivePaymentId (host : Host T) (mandateId chargeId : BytesN) : BytesN :=
  host.sha256 [.bytes mandateId, .bytes chargeId]

/-- A payment id names one mandate and one charge. -/
theorem Host.derivePaymentId_inj {host : Host T} (hinj : Function.Injective host.sha256)
    {m c m' c' : BytesN} (h : host.derivePaymentId m c = host.derivePaymentId m' c') :
    m = m' ∧ c = c' := by
  have := hinj h
  simpa using this

/-! ## Host calls -/

/-- `address.require_auth()`. -/
def Env.requireAuth (env : Env T) (a : Address) : Except Failure Unit :=
  rejectIf (a ∉ env.authorized) .trap

/-- Who has authorised a call the registry makes: the signers of the invocation, and the registry
itself, being the direct invoker. -/
def Env.callAuth (env : Env T) (a : Address) : Bool :=
  a = env.currentContractAddress || a ∈ env.authorized

def modifyStorage (f : Storage → Storage) : HostM T Unit :=
  modify fun l => { l with storage := f l.storage }

def publish (e : Event) : HostM T Unit := modify fun l => { l with events := l.events ++ [e] }

/-- A token call that answers a number. -/
def Env.query (call : T → Option (I128 × T)) : HostM T I128 := fun l =>
  match call l.token with
  | some (x, t) => .ok x { l with token := t }
  | none => .error .trap l

/-- A token call that answers nothing. -/
def Env.execute (call : T → Option T) : HostM T Unit := fun l =>
  match call l.token with
  | some t => .ok () { l with token := t }
  | none => .error .trap l

def Env.allowance (env : Env T) (asset owner spender : Address) : HostM T I128 :=
  Env.query fun t => env.token.allowance t asset owner spender

def Env.balance (env : Env T) (asset id : Address) : HostM T I128 :=
  Env.query fun t => env.token.balance t asset id

def Env.transferFrom (env : Env T) (asset spender source dest : Address) (amount : I128) :
    HostM T Unit :=
  Env.execute fun t => env.token.transferFrom t env.callAuth asset spender source dest amount

def Env.transfer (env : Env T) (asset source dest : Address) (amount : I128) : HostM T Unit :=
  Env.execute fun t => env.token.transfer t env.callAuth asset source dest amount

/-! ## Inversion and framing of the host calls -/

@[simp] theorem run_query_ok {call : T → Option (I128 × T)} {l l' : Ledger T} {x : I128} :
    (Env.query call).run l = .ok x l' ↔
      ∃ t, call l.token = some (x, t) ∧ l' = { l with token := t } := by
  show Env.query call l = .ok x l' ↔ _
  unfold Env.query
  cases h : call l.token with
  | none => simp
  | some p =>
      obtain ⟨y, t⟩ := p
      simp only [EStateM.Result.ok.injEq, Option.some.injEq, Prod.mk.injEq]
      constructor
      · rintro ⟨rfl, rfl⟩; exact ⟨t, ⟨rfl, rfl⟩, rfl⟩
      · rintro ⟨_, ⟨rfl, rfl⟩, rfl⟩; exact ⟨rfl, rfl⟩

@[simp] theorem run_execute_ok {call : T → Option T} {l l' : Ledger T} {u : Unit} :
    (Env.execute call).run l = .ok u l' ↔
      ∃ t, call l.token = some t ∧ l' = { l with token := t } := by
  show Env.execute call l = .ok u l' ↔ _
  unfold Env.execute
  cases h : call l.token with
  | none => simp
  | some t => simp [eq_comm]

/-- A token call fails only by a trap. -/
theorem run_query_error {call : T → Option (I128 × T)} {l l' : Ledger T} {f : Failure}
    (h : (Env.query call).run l = .error f l') : f = .trap ∧ l' = l := by
  change Env.query call l = .error f l' at h
  unfold Env.query at h
  split at h
  · cases h
  · cases h; exact ⟨rfl, rfl⟩

theorem run_execute_error {call : T → Option T} {l l' : Ledger T} {f : Failure}
    (h : (Env.execute call).run l = .error f l') : f = .trap ∧ l' = l := by
  change Env.execute call l = .error f l' at h
  unfold Env.execute at h
  split at h
  · cases h
  · cases h; exact ⟨rfl, rfl⟩

/-- Two ledgers that differ at most in the state of the tokens. -/
def SameBooks (l l' : Ledger T) : Prop :=
  l'.timestamp = l.timestamp ∧ l'.storage = l.storage ∧ l'.events = l.events

theorem SameBooks.refl (l : Ledger T) : SameBooks l l := ⟨rfl, rfl, rfl⟩

theorem SameBooks.trans (l₁ l₂ l₃ : Ledger T) (h₁ : SameBooks l₁ l₂) (h₂ : SameBooks l₂ l₃) :
    SameBooks l₁ l₃ :=
  ⟨h₂.1.trans h₁.1, h₂.2.1.trans h₁.2.1, h₂.2.2.trans h₁.2.2⟩

/-- A token call touches nothing but the tokens, also when it traps. -/
theorem keeps_query (call : T → Option (I128 × T)) : Tx.Keeps SameBooks (Env.query call) := by
  intro l
  constructor
  · intro x l' h
    obtain ⟨t, -, rfl⟩ := run_query_ok.mp h
    exact ⟨rfl, rfl, rfl⟩
  · intro e l' h
    rw [(run_query_error h).2]
    exact SameBooks.refl l

theorem keeps_execute (call : T → Option T) : Tx.Keeps SameBooks (Env.execute call) := by
  intro l
  constructor
  · intro x l' h
    obtain ⟨t, -, rfl⟩ := run_execute_ok.mp h
    exact ⟨rfl, rfl, rfl⟩
  · intro e l' h
    rw [(run_execute_error h).2]
    exact SameBooks.refl l

end

end Paymap.Registry
