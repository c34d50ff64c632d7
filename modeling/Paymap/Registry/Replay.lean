import Paymap.Lib.EventLog
import Paymap.Registry.Calls

set_option autoImplicit false

/-! # The registry from its events

`events.rs` promises that an indexer can rebuild the state of the registry from events alone. `Index`
is what such an indexer keeps and `applyEvent` what it does with one event; it has the fields of the
event and what it has built so far, and no access to the ledger. The terms come with
`mandate_created`. Of a charge the event gives the number of the period and the amount; where the
period starts and what it has collected the indexer works out, in the arithmetic of the contract.

Folding the log of any run gives the stored records, receipts and refunded totals.
-/

namespace Paymap.Registry

open EventLog (replay Explains)

/-! ## The indexer -/

structure Index where
  mandates : FinMap BytesN Mandate
  payments : FinMap BytesN PaymentReceipt
  refundedTotals : FinMap BytesN I128

namespace Index

def empty : Index := ⟨∅, ∅, ∅⟩

/-- An event about a mandate that was never created cannot be applied. -/
def updateMandate (index : Index) (mandateId : BytesN) (f : Mandate → Option Mandate) :
    Option Index := do
  let mandate ← index.mandates.lookup mandateId
  let mandate ← f mandate
  return { index with mandates := index.mandates.insert mandateId mandate }

def setStatus (index : Index) (mandateId : BytesN) (status : MandateStatus) : Option Index :=
  index.updateMandate mandateId fun mandate => some { mandate with status := status }

end Index

/-- The record after a charge, from the fields of its event. -/
def Mandate.applyCharge (mandate : Mandate) (amount : I128) (periodIndex : U64)
    (successfulChargeNumber : U32) (timestamp : U64) : Option Mandate := do
  let offset ← periodIndex.checkedMul mandate.periodSeconds
  let periodStart ← mandate.startAt.checkedAdd offset
  let periodCollected ←
    (if periodStart ≠ mandate.currentPeriodStart then (0 : I128)
      else mandate.currentPeriodCollected).checkedAdd amount
  let totalCollected ← mandate.totalCollected.checkedAdd amount
  return { mandate with
    successfulCharges := successfulChargeNumber
    totalCollected := totalCollected
    currentPeriodStart := periodStart
    currentPeriodCollected := periodCollected
    lastChargedAt := some timestamp }

def applyEvent (index : Index) : Event → Option Index
  | .mandateCreated mandateId payer merchant asset amountRule maxPerPeriod periodSeconds
      minIntervalSeconds startAt expiresAt maxSuccessfulCharges metadataHash timestamp =>
      some { index with
        mandates := index.mandates.insert mandateId
          { id := mandateId
            payer := payer
            merchant := merchant
            asset := asset
            status := .active
            amountRule := amountRule
            maxPerPeriod := maxPerPeriod
            periodSeconds := periodSeconds
            minIntervalSeconds := minIntervalSeconds
            startAt := startAt
            expiresAt := expiresAt
            maxSuccessfulCharges := maxSuccessfulCharges
            successfulCharges := 0
            totalCollected := 0
            currentPeriodStart := startAt
            currentPeriodCollected := 0
            lastChargedAt := none
            createdAt := timestamp
            metadataHash := metadataHash } }
  | .mandatePaused mandateId _ _ _ => index.setStatus mandateId .paused
  | .mandateResumed mandateId _ _ _ => index.setStatus mandateId .active
  | .mandateRevoked mandateId _ _ _ => index.setStatus mandateId .revoked
  | .mandateCompleted mandateId _ _ _ _ => index.setStatus mandateId .completed
  | .chargeSucceeded mandateId payer merchant paymentId chargeId asset amount invoiceHash
      periodIndex successfulChargeNumber timestamp => do
      let index ← index.updateMandate mandateId fun mandate =>
        mandate.applyCharge amount periodIndex successfulChargeNumber timestamp
      return { index with
        payments := index.payments.insert paymentId
          { paymentId := paymentId
            mandateId := mandateId
            chargeId := chargeId
            payer := payer
            merchant := merchant
            asset := asset
            amount := amount
            invoiceHash := invoiceHash
            timestamp := timestamp } }
  | .refundSucceeded _ _ _ _ paymentId _ _ refundedTotalAfter _ =>
      some { index with
        refundedTotals := index.refundedTotals.insert paymentId refundedTotalAfter }

/-- What the contract stores of it. -/
def Storage.index (s : Storage) : Index := ⟨s.mandates, s.payments, s.refundedTotals⟩

/-! ## Each operation logs what it stores -/

/-- Records are stored under their own id. -/
def Storage.Keyed (s : Storage) : Prop := ∀ id m, s.getMandate id = some m → m.id = id

theorem Storage.Keyed.setMandate {s : Storage} (h : s.Keyed) (m : Mandate) :
    (s.setMandate m).Keyed := by
  intro id m' hm'
  rw [Storage.getMandate_setMandate] at hm'
  split at hm'
  · rename_i heq
    cases hm'
    exact heq.symm
  · exact h id m' hm'

theorem updateMandate_index {s : Storage} {mandateId : BytesN} {m m' : Mandate}
    {f : Mandate → Option Mandate} (hm : s.getMandate mandateId = some m) (hf : f m = some m')
    (hid : m'.id = mandateId) :
    s.index.updateMandate mandateId f = some (s.setMandate m').index := by
  have hlookup : s.index.mandates.lookup mandateId = some m := hm
  simp only [Index.updateMandate, hlookup, hf, Option.bind_eq_bind, Option.bind_some]
  rw [← hid]
  rfl

/-- The arithmetic of steps 11 and 12 can be repeated from the number of the period. The status of a
record that this charge completes is another event. -/
theorem applyCharge_eq {authorized : List Address} {m m' : Mandate} {now : U64} {used : Bool}
    {amount collected : I128} {period : BillingPeriod}
    (hc : Chargeable authorized m now used amount period collected)
    (ha : Accounted m period collected amount now m') :
    m.applyCharge amount period.index m'.successfulCharges now
      = some { m' with status := m.status } := by
  have hperiod := hc.period_eq
  simp only [billingPeriod, Tx.bind_ok, checkedSubU64_ok, divU64_ok, checkedMulU64_ok,
    checkedAddU64_ok, pure, Except.pure, Except.ok.injEq] at hperiod
  obtain ⟨elapsed, -, index, -, offset, hoffset, start, hstart, rfl⟩ := hperiod
  have h₁ : index.checkedMul m.periodSeconds = some offset := MachineInt.ofInt?_eq_some.mpr hoffset
  have h₂ : m.startAt.checkedAdd offset = some start := MachineInt.ofInt?_eq_some.mpr hstart
  have h₃ : (effectivePeriodCollected m ⟨index, start⟩).checkedAdd amount = some collected :=
    MachineInt.ofInt?_eq_some.mpr hc.collected_eq
  have h₄ : m.totalCollected.checkedAdd amount = some m'.totalCollected :=
    MachineInt.ofInt?_eq_some.mpr ha.total_eq
  unfold effectivePeriodCollected at h₃
  simp only [Mandate.applyCharge, h₁, h₂, h₃, h₄, Option.bind_eq_bind, Option.bind_some]
  rw [ha.frame]
  rfl

section

variable {T : Type} {host : Host T} {l : Ledger T}

/-- The log explains what has become of the indexed part of the storage. -/
abbrev Indexed (l l' : Ledger T) : Prop :=
  Explains applyEvent Ledger.events (fun l => l.storage.index) l l'

theorem indexed_created (input : MandateInput) : Indexed l (createdLedger host l input) :=
  ⟨[mandateCreatedEvent (host.inputId input) l.timestamp input], rfl, rfl⟩

theorem indexed_statusChanged (op : StatusOp) {mandateId : BytesN} {m : Mandate}
    (hkeyed : l.storage.Keyed) (hm : l.storage.getMandate mandateId = some m) :
    Indexed l (statusLedger op l mandateId m) := by
  refine ⟨[op.event mandateId m.payer m.merchant l.timestamp], rfl, ?_⟩
  have hid : m.id = mandateId := hkeyed _ _ hm
  have hset : l.storage.index.setStatus mandateId op.target
      = some (l.storage.setMandate { m with status := op.target }).index :=
    updateMandate_index hm rfl hid
  cases op with
  | pause => exact congrArg (·.bind some) hset
  | resume => exact congrArg (·.bind some) hset
  | revoke => exact congrArg (·.bind some) hset

theorem indexed_refunded (payment : PaymentReceipt) (mandateId : BytesN) (receipt : RefundReceipt)
    (total : I128) (t : T) : Indexed l (refundedLedger l payment mandateId receipt total t) :=
  ⟨[refundSucceededEvent payment mandateId receipt total], rfl, rfl⟩

/-- One event or two: the charge leaves the status alone, the completion writes it. -/
theorem indexed_charged {authorized : List Address} {mandateId chargeId invoiceHash : BytesN}
    {amount collected : I128} {period : BillingPeriod} {m m' : Mandate} (t : T)
    (hkeyed : l.storage.Keyed) (hm : l.storage.getMandate mandateId = some m)
    (hc : Chargeable authorized m l.timestamp (l.storage.hasUsedCharge mandateId chargeId) amount
      period collected)
    (ha : Accounted m period collected amount l.timestamp m') :
    Indexed l (chargedLedger l m' period
      (newReceipt host m' mandateId chargeId amount invoiceHash l.timestamp) t) := by
  set r := newReceipt host m' mandateId chargeId amount invoiceHash l.timestamp
  set open' : Mandate := { m' with status := m.status }
  have hid₀ : m.id = mandateId := hkeyed mandateId m hm
  have hid : m'.id = mandateId := (congrArg Mandate.id ha.frame).trans hid₀
  have hupdate : (l.storage.index.updateMandate mandateId fun m =>
      m.applyCharge amount period.index m'.successfulCharges l.timestamp)
        = some (l.storage.setMandate open').index :=
    updateMandate_index hm (applyCharge_eq hc ha) hid
  have hcharge : applyEvent l.storage.index (chargeSucceededEvent m' period r)
      = some ((l.storage.setMandate open').setPayment r).index :=
    congrArg (Option.bind · _) hupdate
  have hstatus := ha.status_eq
  refine ⟨_, rfl, ?_⟩
  rw [EventLog.replay_cons, hcharge, Option.bind_some]
  by_cases hdone : becameCompleted m'
  · have hopen : ((l.storage.setMandate open').setPayment r).getMandate mandateId = some open' := by
      have hlookup := Storage.getMandate_setMandate l.storage open' mandateId
      rwa [if_pos hid.symm] at hlookup
    have hm' : { open' with status := .completed } = m' := by
      rw [if_pos hdone] at hstatus
      rw [← hstatus]
    have hset := updateMandate_index (f := fun m => some { m with status := .completed }) hopen
      (congrArg some hm') hid
    rw [if_pos hdone, EventLog.replay_cons]
    refine (congrArg (Option.bind · _) hset).trans ?_
    -- the record is written twice under one key
    have hmandates : (l.storage.mandates.insert open'.id open').insert m'.id m'
        = l.storage.mandates.insert m'.id m' := AList.insert_insert _
    exact congrArg (fun mandates => some (Index.mk mandates _ _)) hmandates
  · have hm' : open' = m' := by
      rw [if_neg hdone] at hstatus
      simp only [open', ← hstatus]
    rw [if_neg hdone, hm']
    rfl

/-! ## The log of a run -/

theorem indexed_exec (hkeyed : l.storage.Keyed) (step : Step T) :
    Indexed l (exec host l step) ∧ (exec host l step).storage.Keyed := by
  have hmoved := moved_exec host l step
  generalize exec host l step = l' at hmoved
  cases hmoved with
  | closed t now hle => exact ⟨EventLog.explains_of_eq rfl rfl, hkeyed⟩
  | tokens t => exact ⟨EventLog.explains_of_eq rfl rfl, hkeyed⟩
  | rejected c f _ => exact ⟨EventLog.explains_of_eq rfl rfl, hkeyed⟩
  | done c v l' _ heffect =>
      obtain ⟨op, authorized⟩ := c
      cases heffect with
      | created input _ _ _ => exact ⟨indexed_created input, hkeyed.setMandate _⟩
      | statusChanged op mandateId m hm _ _ =>
          exact ⟨indexed_statusChanged op hkeyed hm, hkeyed.setMandate _⟩
      | charged mandateId chargeId amount invoiceHash m period collected t m' hm hc _ ha =>
          exact ⟨indexed_charged t hkeyed hm hc ha, hkeyed.setMandate m'⟩
      | refunded mandateId paymentId amount refundId m payment total t _ _ _ _ =>
          exact ⟨indexed_refunded payment mandateId _ total t, hkeyed⟩

/-- **Event sourcing**: over any run, folding the events in order gives the stored records, receipts
and refunded totals; and a call that fails has published nothing, neither in the ledger it leaves nor
before the host rolls it back. -/
theorem events_rebuild_storage (host : Host T) (t₀ : U64) (tok₀ : T) (steps : List (Step T)) :
    replay applyEvent Index.empty (run host (genesis t₀ tok₀) steps).events
      = some (run host (genesis t₀ tok₀) steps).storage.index ∧
    ∀ (c : Call) (f : Failure),
      (invoke host c (run host (genesis t₀ tok₀) steps)).1 = .error f →
      (invoke host c (run host (genesis t₀ tok₀) steps)).2.events
        = (run host (genesis t₀ tok₀) steps).events ∧
      ∀ l', (c.op.body (host.env c.authorized)).run (run host (genesis t₀ tok₀) steps)
          = .error f l' →
        l'.events = (run host (genesis t₀ tok₀) steps).events := by
  constructor
  · have hkeyed : (genesis t₀ tok₀).storage.Keyed := fun id m hm => by cases hm
    exact EventLog.replay_run (P := fun l : Ledger T => l.storage.Keyed)
      (fun _ step h => (indexed_exec h step).2) (fun _ step h => (indexed_exec h step).1) hkeyed rfl
      steps
  · intro c f hout
    refine ⟨by rw [invoke_error hout], fun l' hfail => ?_⟩
    have hbooks : SameBooks _ l' := body_failKeeps _ _ _ _ _ hfail
    exact hbooks.2.2

end

end Paymap.Registry
