import Paymap.Registry.Host

set_option autoImplicit false

/-! # Mandate lifecycle

`lifecycle.rs`: `createMandate`, `pauseMandate`, `resumeMandate`, `revokeMandate` and the getter
`getMandate`. `expired` is never stored: `effectiveStatus` computes it on every read.

Pausing, resuming and revoking are one operation, `changeStatus`, at three status tables. Each
operation has one lemma that says everything a successful run does
(`createMandate_ok`, `changeStatus_ok`), and one that says a failing run has written nothing.
-/

namespace Paymap.Registry

open Tx (rejectIf)

/-! ## Status and input checks -/

/-- The status a caller observes at `now`. -/
def effectiveStatus (mandate : Mandate) (now : U64) : MandateStatus :=
  match mandate.status with
  | .active => if now ≥ mandate.expiresAt then .expired else .active
  | .paused => if now ≥ mandate.expiresAt then .expired else .paused
  | other => other

/-- The largest amount one charge can have under a rule. -/
def AmountRule.perChargeCap : AmountRule → I128
  | .fixed amount => amount
  | .variableUpTo maxPerCharge => maxPerCharge

/-- `validate_input` at ledger time `now`. -/
def validateInput (now : U64) (input : MandateInput) : Except Failure Unit := do
  rejectIf (input.amountRule.perChargeCap.val ≤ 0) (.err .invalidAmount)
  rejectIf (input.maxPerPeriod.val ≤ 0) (.err .invalidMandateInput)
  rejectIf (input.maxPerPeriod < input.amountRule.perChargeCap) (.err .invalidMandateInput)
  rejectIf (input.periodSeconds.val = 0) (.err .invalidMandateInput)
  rejectIf (input.expiresAt ≤ input.startAt) (.err .invalidMandateInput)
  rejectIf (input.expiresAt ≤ now) (.err .invalidMandateInput)
  rejectIf (input.payer = input.merchant) (.err .invalidMandateInput)

/-- What `validateInput` promises about the terms it lets through. -/
structure ValidInput (now : U64) (input : MandateInput) : Prop where
  perChargeCap_pos : 0 < input.amountRule.perChargeCap.val
  cap_le : input.amountRule.perChargeCap.val ≤ input.maxPerPeriod.val
  period_pos : 0 < input.periodSeconds.val
  start_lt : input.startAt.val < input.expiresAt.val
  now_lt : now.val < input.expiresAt.val
  payer_ne : input.payer ≠ input.merchant

theorem validateInput_ok {now : U64} {input : MandateInput} {u : Unit} :
    validateInput now input = .ok u ↔ ValidInput now input := by
  have hp := input.periodSeconds.lo_le
  simp only [validateInput, Tx.bind_ok, Tx.rejectIf_ok, MachineInt.lt_def, MachineInt.le_def,
    exists_and_left, exists_const]
  constructor
  · rintro ⟨h₁, h₂, h₃, h₄, h₅, h₆, h₇⟩
    exact ⟨by omega, by omega, by omega, by omega, by omega, h₇⟩
  · rintro ⟨h₁, h₂, h₃, h₄, h₅, h₆⟩
    exact ⟨by omega, by omega, by omega, by omega, by omega, by omega, h₆⟩

/-! ## Creation -/

/-- The record `create_mandate` stores. -/
def newMandate (id : BytesN) (now : U64) (input : MandateInput) : Mandate where
  id := id
  payer := input.payer
  merchant := input.merchant
  asset := input.asset
  status := .active
  amountRule := input.amountRule
  maxPerPeriod := input.maxPerPeriod
  periodSeconds := input.periodSeconds
  minIntervalSeconds := input.minIntervalSeconds
  startAt := input.startAt
  expiresAt := input.expiresAt
  maxSuccessfulCharges := input.maxSuccessfulCharges
  successfulCharges := 0
  totalCollected := 0
  currentPeriodStart := input.startAt
  currentPeriodCollected := 0
  lastChargedAt := none
  createdAt := now
  metadataHash := input.metadataHash

def mandateCreatedEvent (id : BytesN) (now : U64) (input : MandateInput) : Event :=
  .mandateCreated id input.payer input.merchant input.asset input.amountRule input.maxPerPeriod
    input.periodSeconds input.minIntervalSeconds input.startAt input.expiresAt
    input.maxSuccessfulCharges input.metadataHash now

section

variable {T : Type}

/-- The id of the mandate that `input` creates. -/
def Host.inputId (host : Host T) (input : MandateInput) : BytesN :=
  host.deriveMandateId input.payer input.merchant input.asset input.clientNonce

def createMandate (env : Env T) (input : MandateInput) : HostM T BytesN := do
  liftExcept (env.requireAuth input.payer)
  let mandateId := env.inputId input
  let ledger ← get
  liftExcept (rejectIf (ledger.storage.getMandate mandateId).isSome (Failure.err .duplicateMandate))
  liftExcept (validateInput ledger.timestamp input)
  let now := ledger.timestamp
  modifyStorage (·.setMandate (newMandate mandateId now input))
  publish (mandateCreatedEvent mandateId now input)
  return mandateId

/-! ## Pause, resume, revoke -/

/-- `Active -> Paused`; every other status is an error. -/
def pauseStatus : MandateStatus → Except Failure Unit
  | .active => .ok ()
  | .paused => .error (.err .mandateNotActive)
  | .revoked => .error (.err .mandateRevoked)
  | .completed => .error (.err .mandateCompleted)
  | .expired => .error (.err .mandateExpired)

/-- `Paused -> Active`. -/
def resumeStatus : MandateStatus → Except Failure Unit
  | .paused => .ok ()
  | .active => .error (.err .invalidStateTransition)
  | .revoked => .error (.err .mandateRevoked)
  | .completed => .error (.err .mandateCompleted)
  | .expired => .error (.err .mandateExpired)

/-- `Active | Paused | Expired -> Revoked`: revocation is never blocked by expiry. -/
def revokeStatus : MandateStatus → Except Failure Unit
  | .active | .paused | .expired => .ok ()
  | .revoked => .error (.err .mandateRevoked)
  | .completed => .error (.err .mandateCompleted)

/-- The three status operations of the payer. -/
inductive StatusOp where
  | pause
  | resume
  | revoke
deriving DecidableEq, Repr

namespace StatusOp

def check : StatusOp → MandateStatus → Except Failure Unit
  | pause => pauseStatus
  | resume => resumeStatus
  | revoke => revokeStatus

def target : StatusOp → MandateStatus
  | pause => .paused
  | resume => .active
  | revoke => .revoked

def event : StatusOp → BytesN → Address → Address → U64 → Event
  | pause => .mandatePaused
  | resume => .mandateResumed
  | revoke => .mandateRevoked

end StatusOp

/-- The common body of the three: load, require the payer, check the effective status, store the
new one, publish. -/
def changeStatus (env : Env T) (op : StatusOp) (mandateId : BytesN) : HostM T Unit := do
  let ledger ← get
  let mandate ← liftExcept (okOr (ledger.storage.getMandate mandateId) .mandateNotFound)
  liftExcept (env.requireAuth mandate.payer)
  let now := ledger.timestamp
  liftExcept (op.check (effectiveStatus mandate now))
  modifyStorage (·.setMandate { mandate with status := op.target })
  publish (op.event mandateId mandate.payer mandate.merchant now)

def pauseMandate (env : Env T) (mandateId : BytesN) : HostM T Unit :=
  changeStatus env .pause mandateId

def resumeMandate (env : Env T) (mandateId : BytesN) : HostM T Unit :=
  changeStatus env .resume mandateId

def revokeMandate (env : Env T) (mandateId : BytesN) : HostM T Unit :=
  changeStatus env .revoke mandateId

/-- Read-only: the stored record with its effective status. -/
def getMandate (ledger : Ledger T) (mandateId : BytesN) : Except Failure Mandate := do
  let mandate ← okOr (ledger.storage.getMandate mandateId) .mandateNotFound
  return { mandate with status := effectiveStatus mandate ledger.timestamp }

/-! ## What the operations do -/

/-- The ledger after a successful `createMandate`. -/
def createdLedger (host : Host T) (l : Ledger T) (input : MandateInput) : Ledger T :=
  { l with
    storage := l.storage.setMandate (newMandate (host.inputId input) l.timestamp input)
    events := l.events ++ [mandateCreatedEvent (host.inputId input) l.timestamp input] }

theorem getMandate_createdLedger (host : Host T) (l : Ledger T) (input : MandateInput)
    (id : BytesN) :
    (createdLedger host l input).storage.getMandate id
      = if id = host.inputId input then some (newMandate (host.inputId input) l.timestamp input)
        else l.storage.getMandate id :=
  Storage.getMandate_setMandate _ _ _

theorem createMandate_ok {env : Env T} {input : MandateInput} {l l' : Ledger T} {id : BytesN} :
    (createMandate env input).run l = .ok id l' ↔
      input.payer ∈ env.authorized ∧ l.storage.getMandate (env.inputId input) = none ∧
      ValidInput l.timestamp input ∧ id = env.inputId input ∧
      l' = createdLedger env.toHost l input := by
  simp only [createMandate, modifyStorage, publish, Tx.run_bind_ok, Tx.run_liftExcept_ok,
    EStateM.run_get, EStateM.run_modify, EStateM.run_pure, EStateM.Result.ok.injEq,
    Env.requireAuth, Tx.rejectIf_ok, not_not, validateInput_ok]
  constructor
  · rintro ⟨_, _, ⟨hauth, rfl⟩, _, _, ⟨rfl, rfl⟩, _, _, ⟨hfresh, rfl⟩, _, _, ⟨hvalid, rfl⟩,
      _, _, ⟨-, rfl⟩, _, _, ⟨-, rfl⟩, rfl, rfl⟩
    exact ⟨hauth, by simpa using hfresh, hvalid, rfl, rfl⟩
  · rintro ⟨hauth, hfresh, hvalid, rfl, rfl⟩
    exact ⟨(), l, ⟨hauth, rfl⟩, l, l, ⟨rfl, rfl⟩, (), l, ⟨by simp [hfresh], rfl⟩, (), l,
      ⟨hvalid, rfl⟩, (), _, ⟨trivial, rfl⟩, (), _, ⟨trivial, rfl⟩, rfl, rfl⟩

/-- The ledger after a successful status operation on `m`. -/
def statusLedger (op : StatusOp) (l : Ledger T) (mandateId : BytesN) (m : Mandate) : Ledger T :=
  { l with
    storage := l.storage.setMandate { m with status := op.target }
    events := l.events ++ [op.event mandateId m.payer m.merchant l.timestamp] }

theorem getMandate_statusLedger (op : StatusOp) (l : Ledger T) (mandateId : BytesN) (m : Mandate)
    (id : BytesN) :
    (statusLedger op l mandateId m).storage.getMandate id
      = if id = m.id then some { m with status := op.target } else l.storage.getMandate id :=
  Storage.getMandate_setMandate _ _ _

theorem changeStatus_ok {env : Env T} {op : StatusOp} {mandateId : BytesN} {l l' : Ledger T}
    {u : Unit} :
    (changeStatus env op mandateId).run l = .ok u l' ↔
      ∃ m, l.storage.getMandate mandateId = some m ∧ m.payer ∈ env.authorized ∧
        op.check (effectiveStatus m l.timestamp) = .ok () ∧
        l' = statusLedger op l mandateId m := by
  simp only [changeStatus, modifyStorage, publish, Tx.run_bind_ok, Tx.run_liftExcept_ok,
    EStateM.run_get, EStateM.run_modify, EStateM.Result.ok.injEq, Env.requireAuth,
    Tx.rejectIf_ok, not_not, okOr_ok]
  constructor
  · rintro ⟨_, _, ⟨rfl, rfl⟩, m, _, ⟨hm, rfl⟩, _, _, ⟨hauth, rfl⟩, _, _, ⟨hcheck, rfl⟩,
      _, _, ⟨-, rfl⟩, -, rfl⟩
    exact ⟨m, hm, hauth, hcheck, rfl⟩
  · rintro ⟨m, hm, hauth, hcheck, rfl⟩
    exact ⟨l, l, ⟨rfl, rfl⟩, m, l, ⟨hm, rfl⟩, (), l, ⟨hauth, rfl⟩, (), l, ⟨hcheck, rfl⟩,
      (), _, ⟨trivial, rfl⟩, trivial, rfl⟩

theorem getMandate_of_stored {l : Ledger T} {mandateId : BytesN} {m : Mandate}
    (hm : l.storage.getMandate mandateId = some m) :
    getMandate l mandateId = .ok { m with status := effectiveStatus m l.timestamp } := by
  rw [getMandate, okOr_ok.mpr hm]
  rfl

/-- A status operation succeeds only from the statuses it is meant for. -/
theorem StatusOp.check_ok {op : StatusOp} {st : MandateStatus} {u : Unit} :
    op.check st = .ok u ↔
      (op = .pause ∧ st = .active) ∨ (op = .resume ∧ st = .paused) ∨
      (op = .revoke ∧ st ≠ .revoked ∧ st ≠ .completed) := by
  cases op <;> cases st <;> simp [check, pauseStatus, resumeStatus, revokeStatus]

/-! ## Failing runs write nothing -/

theorem createMandate_failKeeps (env : Env T) (input : MandateInput) :
    Tx.FailKeeps SameBooks (createMandate env input) := by
  unfold createMandate
  refine .bind .trans (Tx.keeps_liftExcept SameBooks.refl _) fun _ => ?_
  refine .bind .trans (Tx.keeps_get SameBooks.refl) fun l => ?_
  refine .bind .trans (Tx.keeps_liftExcept SameBooks.refl _) fun _ => ?_
  refine .bind .trans (Tx.keeps_liftExcept SameBooks.refl _) fun _ => ?_
  -- nothing below the checks can fail
  exact ((Tx.neverFails_modify _).bind fun _ => (Tx.neverFails_modify _).bind fun _ =>
    Tx.neverFails_pure _).failKeeps

theorem changeStatus_failKeeps (env : Env T) (op : StatusOp) (mandateId : BytesN) :
    Tx.FailKeeps SameBooks (changeStatus env op mandateId) := by
  unfold changeStatus
  refine .bind .trans (Tx.keeps_get SameBooks.refl) fun l => ?_
  refine .bind .trans (Tx.keeps_liftExcept SameBooks.refl _) fun m => ?_
  refine .bind .trans (Tx.keeps_liftExcept SameBooks.refl _) fun _ => ?_
  refine .bind .trans (Tx.keeps_liftExcept SameBooks.refl _) fun _ => ?_
  exact ((Tx.neverFails_modify _).bind fun _ => Tx.neverFails_modify _).failKeeps

end

end Paymap.Registry
