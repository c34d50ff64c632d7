import Paymap.Registry.Calls

set_option autoImplicit false

/-! # The books of a mandate

What the registry stores about a mandate, against the list of its payment receipts, newest first.
`MandateBooks` relates one record to one such list: the counters count it, the stored period is a
`History.Tracks` counter of it, and the caps of the terms hold of it. `Books` says that of every
stored mandate, and that receipts, replay guards and records are keyed alike.

`Books` holds of every state a run can reach (`books_run`). Four lemmas carry the induction, one
for each way a record can change: it is created, its status is set, it is charged, or time passes.
-/

namespace Paymap.Registry

open History (gridFloor)

/-! ## One mandate -/

/-- The receipts of a mandate, newest first. -/
def Storage.receiptsOf (s : Storage) (id : BytesN) : List PaymentReceipt :=
  (FinMap.values s.payments).filter fun r => r.mandateId = id

/-- The part of a record that is fixed at creation. -/
structure Terms where
  id : BytesN
  payer : Address
  merchant : Address
  asset : Address
  amountRule : AmountRule
  maxPerPeriod : I128
  periodSeconds : U64
  minIntervalSeconds : U64
  startAt : U64
  expiresAt : U64
  maxSuccessfulCharges : U32
  createdAt : U64
  metadataHash : BytesN
deriving DecidableEq

def Mandate.terms (m : Mandate) : Terms :=
  ⟨m.id, m.payer, m.merchant, m.asset, m.amountRule, m.maxPerPeriod, m.periodSeconds,
    m.minIntervalSeconds, m.startAt, m.expiresAt, m.maxSuccessfulCharges, m.createdAt,
    m.metadataHash⟩

/-- The start of the billing period a receipt falls into. -/
def Terms.periodOf (t : Terms) (r : PaymentReceipt) : Int :=
  gridFloor t.startAt.val t.periodSeconds.val r.timestamp.val

/-- The stored period, as a counter. -/
def Mandate.counter (m : Mandate) : History.Counter Int Int :=
  ⟨m.currentPeriodStart.val, m.currentPeriodCollected.val⟩

/-- What `create_mandate` checks of the terms. -/
structure Terms.Valid (t : Terms) : Prop where
  cap_pos : 0 < t.amountRule.perChargeCap.val
  cap_le : t.amountRule.perChargeCap.val ≤ t.maxPerPeriod.val
  period_pos : 0 < t.periodSeconds.val
  start_lt : t.startAt.val < t.expiresAt.val
  payer_ne : t.payer ≠ t.merchant

/-- `r` is a receipt that the terms allow. -/
structure Terms.Allows (t : Terms) (r : PaymentReceipt) : Prop where
  mandate_eq : r.mandateId = t.id
  payer_eq : r.payer = t.payer
  merchant_eq : r.merchant = t.merchant
  asset_eq : r.asset = t.asset
  started : t.startAt.val ≤ r.timestamp.val
  unexpired : r.timestamp.val < t.expiresAt.val
  positive : 0 < r.amount.val
  admitted : t.amountRule.Admits r.amount

structure MandateBooks (now : U64) (m : Mandate) (h : List PaymentReceipt) : Prop where
  terms : m.terms.Valid
  each : ∀ r ∈ h, m.terms.Allows r
  count_eq : m.successfulCharges.val = h.length
  total_eq : m.totalCollected.val = (h.map fun r => r.amount.val).sum
  before_now : ∀ r ∈ h, r.timestamp.val ≤ now.val
  latest : History.Latest (fun r : PaymentReceipt => r.timestamp.val) h
    (m.lastChargedAt.map MachineInt.val)
  spaced : History.Spaced (fun r : PaymentReceipt => r.timestamp.val) m.minIntervalSeconds.val h
  tracks : History.Tracks m.terms.periodOf (fun r => r.amount.val) m.counter h
  capped : History.Capped m.terms.periodOf (fun r => r.amount.val) m.maxPerPeriod.val h
  on_grid : ∃ k : ℕ, m.currentPeriodStart.val = m.startAt.val + k * m.periodSeconds.val
  /-- The stored period is not in the future. -/
  current_le : m.currentPeriodStart.val
    ≤ gridFloor m.startAt.val m.periodSeconds.val (max m.startAt.val now.val)
  below_count :
    m.maxSuccessfulCharges.val ≠ 0 → m.successfulCharges.val ≤ m.maxSuccessfulCharges.val
  completed_iff : m.status = .completed ↔
    m.maxSuccessfulCharges.val ≠ 0 ∧ m.successfulCharges.val = m.maxSuccessfulCharges.val
  not_expired : m.status ≠ .expired

/-- Only an `active` record is effectively active, and only before it expires. -/
theorem effectiveStatus_eq_active {m : Mandate} {now : U64} :
    effectiveStatus m now = .active ↔ m.status = .active ∧ now.val < m.expiresAt.val := by
  unfold effectiveStatus
  cases m.status with
  | active => simp [MachineInt.le_def]
  | paused => by_cases h : now ≥ m.expiresAt <;> simp [h]
  | _ => simp

/-- A completed or revoked record is effectively what it is. -/
theorem effectiveStatus_terminal {m : Mandate} {now : U64}
    (h : m.status = .completed ∨ m.status = .revoked) : effectiveStatus m now = m.status := by
  unfold effectiveStatus
  rcases h with h | h <;> rw [h]

/-! ## The four ways a record can change -/

theorem mandateBooks_new {id : BytesN} {now : U64} {input : MandateInput}
    (h : ValidInput now input) : MandateBooks now (newMandate id now input) [] where
  terms := ⟨h.perChargeCap_pos, h.cap_le, h.period_pos, h.start_lt, h.payer_ne⟩
  each := fun _ hr => absurd hr List.not_mem_nil
  count_eq := rfl
  total_eq := rfl
  before_now := fun _ hr => absurd hr List.not_mem_nil
  latest := rfl
  spaced := List.Pairwise.nil
  tracks := History.tracks_nil _
  capped := by
    intro k
    have h₁ := h.perChargeCap_pos
    have h₂ := h.cap_le
    show (0 : Int) ≤ input.maxPerPeriod.val
    omega
  on_grid := ⟨0, by simp [newMandate]⟩
  current_le := by
    show input.startAt.val ≤ gridFloor input.startAt.val input.periodSeconds.val _
    have hmono := History.gridFloor_mono input.startAt.val h.period_pos
      (le_max_left input.startAt.val now.val)
    rwa [History.gridFloor_start] at hmono
  below_count := fun _ => input.maxSuccessfulCharges.lo_le
  completed_iff := by
    show MandateStatus.active = .completed ↔
      input.maxSuccessfulCharges.val ≠ 0 ∧ 0 = input.maxSuccessfulCharges.val
    constructor
    · intro h; cases h
    · rintro ⟨hne, heq⟩; exact absurd heq.symm hne
  not_expired := by show MandateStatus.active ≠ .expired; decide

/-- Time passes. -/
theorem MandateBooks.later {now now' : U64} {m : Mandate} {h : List PaymentReceipt}
    (hb : MandateBooks now m h) (hle : now.val ≤ now'.val) : MandateBooks now' m h :=
  { hb with
    before_now := fun r hr => (hb.before_now r hr).trans hle
    current_le := hb.current_le.trans
      (History.gridFloor_mono _ hb.terms.period_pos (max_le_max_left _ hle)) }

/-- The payer sets the status. No operation is allowed on a completed record, so completion keeps
meaning that the count is reached. -/
theorem MandateBooks.statusChanged {now : U64} {m : Mandate} {h : List PaymentReceipt}
    (hb : MandateBooks now m h) {op : StatusOp}
    (hallowed : op.check (effectiveStatus m now) = .ok ()) :
    MandateBooks now { m with status := op.target } h := by
  have hopen : m.status ≠ .completed := by
    intro hdone
    rw [effectiveStatus_terminal (Or.inl hdone), hdone] at hallowed
    cases op <;> cases hallowed
  have hcount : ¬ (m.maxSuccessfulCharges.val ≠ 0 ∧
      m.successfulCharges.val = m.maxSuccessfulCharges.val) := fun h => hopen (hb.completed_iff.mpr h)
  have htarget : op.target ≠ .completed ∧ op.target ≠ .expired := by
    cases op <;> simp [StatusOp.target]
  exact
    { hb with
      below_count := hb.below_count
      completed_iff := ⟨fun hdone => absurd hdone htarget.1, fun hdone => absurd hdone hcount⟩
      not_expired := htarget.2 }

/-- What the receipts of the period that starts at `k` add up to. -/
abbrev Terms.collectedIn (t : Terms) (h : List PaymentReceipt) (k : Int) : Int :=
  History.bucketSum t.periodOf (fun r => r.amount.val) h k

/-- What the receipts of the `n`-th period add up to: those with a timestamp in
`[start_at + n * period_seconds, start_at + (n + 1) * period_seconds)`. -/
def Terms.collectedDuring (t : Terms) (h : List PaymentReceipt) (n : ℕ) : Int :=
  ((h.filter fun r => t.startAt.val + n * t.periodSeconds.val ≤ r.timestamp.val ∧
    r.timestamp.val < t.startAt.val + (n + 1) * t.periodSeconds.val).map fun r => r.amount.val).sum

theorem Terms.collectedDuring_eq {t : Terms} (hv : t.Valid) (h : List PaymentReceipt) (n : ℕ) :
    t.collectedDuring h n = t.collectedIn h (t.startAt.val + n * t.periodSeconds.val) := by
  have hiff := fun r : PaymentReceipt =>
    History.gridFloor_eq_iff t.startAt.val hv.period_pos n r.timestamp.val
  unfold Terms.collectedDuring Terms.collectedIn History.bucketSum Terms.periodOf
  simp only [hiff]

/-- **Steps 11 and 12 compute the true sum of the receipts of the current period**, also when
periods have been skipped since the stored one. -/
theorem MandateBooks.effectivePeriodCollected_eq {now : U64} {m : Mandate}
    {h : List PaymentReceipt} {period : BillingPeriod} (hb : MandateBooks now m h)
    (hperiod : billingPeriod m now = .ok period) :
    (effectivePeriodCollected m period).val
      = m.terms.collectedIn h (gridFloor m.startAt.val m.periodSeconds.val now.val) := by
  obtain ⟨hstart, -, hfloor⟩ := (billingPeriod_ok hb.terms.period_pos).mp hperiod
  have hcurrent := hb.current_le
  rw [max_eq_right hstart, ← hfloor] at hcurrent
  have hsum : m.counter.amountAt period.start.val = m.terms.collectedIn h period.start.val :=
    hb.tracks.amountAt_eq hcurrent
  rw [← hfloor, ← hsum]
  unfold effectivePeriodCollected History.Counter.amountAt Mandate.counter
  by_cases heq : period.start = m.currentPeriodStart
  · rw [if_neg (not_not.mpr heq), if_neg (not_not.mpr (congrArg _ heq))]
  · rw [if_pos heq, if_pos fun hval => heq (MachineInt.ext hval)]
    rfl

/-- A charge the checks let through comes at least the interval after every earlier one. -/
theorem MandateBooks.interval_le {now : U64} {m : Mandate} {h : List PaymentReceipt}
    (hb : MandateBooks now m h) {t : U64}
    (hspaced : ∀ last, m.lastChargedAt = some last →
      last.val + m.minIntervalSeconds.val ≤ t.val) :
    ∀ r ∈ h, r.timestamp.val + m.minIntervalSeconds.val ≤ t.val := by
  intro r hr
  have hlatest := hb.latest
  cases hlast : m.lastChargedAt with
  | none =>
      rw [hlast] at hlatest
      obtain rfl : h = [] := hlatest
      exact absurd hr List.not_mem_nil
  | some last =>
      rw [hlast] at hlatest
      have hle : r.timestamp.val ≤ last.val := hlatest.2 r hr
      have := hspaced last hlast
      omega

/-- Completion after a charge: exactly when the count has reached its non-zero cap. -/
theorem Accounted.completed_iff {m m' : Mandate} {period : BillingPeriod}
    {collected amount : I128} {now : U64} (ha : Accounted m period collected amount now m')
    (hactive : m.status = .active) :
    (m'.status = .completed ↔ m'.maxSuccessfulCharges.val ≠ 0 ∧
      m'.successfulCharges.val = m'.maxSuccessfulCharges.val) ∧ m'.status ≠ .expired := by
  have hstatus := ha.status_eq
  rw [hactive] at hstatus
  have hdone : becameCompleted m' = true ↔ m'.maxSuccessfulCharges.val ≠ 0 ∧
      m'.successfulCharges.val = m'.maxSuccessfulCharges.val := by
    simp [becameCompleted, MachineInt.val_inj]
  rw [← hdone]
  by_cases h : becameCompleted m'
  · rw [if_pos h] at hstatus
    simp [hstatus, h]
  · rw [if_neg h] at hstatus
    simp [hstatus, h]

theorem Accounted.terms_eq {m m' : Mandate} {period : BillingPeriod} {collected amount : I128}
    {now : U64} (ha : Accounted m period collected amount now m') : m'.terms = m.terms := by
  rw [ha.frame]
  rfl

/-- The record is charged. -/
theorem MandateBooks.charged {authorized : List Address} {now : U64} {m m' : Mandate}
    {h : List PaymentReceipt} {used : Bool} {amount collected : I128} {period : BillingPeriod}
    {r : PaymentReceipt} (hb : MandateBooks now m h)
    (hc : Chargeable authorized m now used amount period collected)
    (ha : Accounted m period collected amount now m') (hr : m.terms.Allows r)
    (htime : r.timestamp = now) (hamount : r.amount = amount) :
    MandateBooks now m' (r :: h) := by
  subst htime hamount
  have hpos := hb.terms.period_pos
  obtain ⟨hstart, -, hfloor⟩ := (billingPeriod_ok hpos).mp hc.period_eq
  have hcollected : collected.val
      = m.terms.collectedIn h (m.terms.periodOf r) + r.amount.val := by
    rw [hc.collected_eq, hb.effectivePeriodCollected_eq hc.period_eq]
    rfl
  have hcurrent : m.counter.bucket ≤ m.terms.periodOf r := by
    have := hb.current_le
    rwa [max_eq_right hstart] at this
  have hdone := ha.completed_iff (effectiveStatus_eq_active.mp hc.active).1
  have hbelow := hc.below_count
  obtain ⟨hcount, htotal, -, hframe⟩ := ha
  -- from here on the new record is the old one at the fields a charge writes
  obtain ⟨status, count, total, rfl⟩ : ∃ status count total, m' = { m with
      status := status
      successfulCharges := count
      totalCollected := total
      currentPeriodStart := period.start
      currentPeriodCollected := collected
      lastChargedAt := some r.timestamp } := ⟨_, _, _, hframe⟩
  change count.val = m.successfulCharges.val + 1 at hcount
  change total.val = m.totalCollected.val + r.amount.val at htotal
  refine
    { terms := hb.terms
      each := List.forall_mem_cons.mpr ⟨hr, hb.each⟩
      count_eq := ?_
      total_eq := ?_
      before_now := List.forall_mem_cons.mpr ⟨le_rfl, hb.before_now⟩
      latest := History.Latest.cons hb.before_now
      spaced := List.pairwise_cons.mpr ⟨hb.interval_le hc.spaced, hb.spaced⟩
      tracks := ?_
      capped := hb.capped.cons (hcollected ▸ hc.below_cap)
      on_grid := ?_
      current_le := ?_
      below_count := ?_
      completed_iff := hdone.1
      not_expired := hdone.2 }
  · have := hb.count_eq
    show count.val = ((h.length + 1 : ℕ) : Int)
    omega
  · have := hb.total_eq
    show total.val = r.amount.val + (h.map fun r => r.amount.val).sum
    omega
  · -- the stored period moves on to the receipt's period, with what that has collected
    have hrecord := hb.tracks.record hcurrent
    have hsum := hb.tracks.amountAt_eq hcurrent
    have hcounter : Mandate.counter { m with
        status := status
        successfulCharges := count
        totalCollected := total
        currentPeriodStart := period.start
        currentPeriodCollected := collected
        lastChargedAt := some r.timestamp }
        = ⟨m.terms.periodOf r, m.counter.amountAt (m.terms.periodOf r) + r.amount.val⟩ := by
      rw [hsum]
      exact congrArg₂ _ hfloor hcollected
    rw [hcounter]
    exact hrecord
  · -- a whole number of periods after the start
    have hq : 0 ≤ (r.timestamp.val - m.startAt.val) / m.periodSeconds.val :=
      Int.ediv_nonneg (by omega) hpos.le
    refine ⟨((r.timestamp.val - m.startAt.val) / m.periodSeconds.val).toNat, ?_⟩
    rw [Int.toNat_of_nonneg hq]
    exact hfloor
  · show period.start.val ≤ _
    rw [hfloor]
    exact History.gridFloor_mono _ hpos (le_max_right _ _)
  · intro hne
    have := hbelow hne
    show count.val ≤ m.maxSuccessfulCharges.val
    omega

/-! ## All mandates -/

section

variable {T : Type}

structure Books (host : Host T) (l : Ledger T) : Prop where
  mandate_id : ∀ {id m}, l.storage.getMandate id = some m → m.id = id
  mandate : ∀ {id m}, l.storage.getMandate id = some m →
    MandateBooks l.timestamp m (l.storage.receiptsOf id)
  payment_id : ∀ {pid r}, l.storage.getPayment pid = some r →
    r.paymentId = pid ∧ pid = host.derivePaymentId r.mandateId r.chargeId
  payment_mandate : ∀ {pid r}, l.storage.getPayment pid = some r →
    ∃ m, l.storage.getMandate r.mandateId = some m
  used_iff : ∀ m c, l.storage.hasUsedCharge m c ↔
    ∃ r, l.storage.getPayment (host.derivePaymentId m c) = some r

theorem mem_receiptsOf {s : Storage} {id : BytesN} {r : PaymentReceipt} :
    r ∈ s.receiptsOf id ↔ (∃ pid, s.getPayment pid = some r) ∧ r.mandateId = id := by
  unfold Storage.receiptsOf Storage.getPayment
  rw [List.mem_filter, FinMap.mem_values]
  simp

theorem receiptsOf_setPayment {s : Storage} {r : PaymentReceipt} {id : BytesN}
    (hfresh : s.getPayment r.paymentId = none) :
    (s.setPayment r).receiptsOf id
      = if r.mandateId = id then r :: s.receiptsOf id else s.receiptsOf id := by
  unfold Storage.receiptsOf Storage.setPayment
  rw [FinMap.values_insert hfresh, List.filter_cons]
  simp

theorem receiptsOf_chargedLedger {l : Ledger T} {m' : Mandate} {period : BillingPeriod}
    {r : PaymentReceipt} {t : T} (hfresh : l.storage.getPayment r.paymentId = none) (id : BytesN) :
    (chargedLedger l m' period r t).storage.receiptsOf id
      = if r.mandateId = id then r :: l.storage.receiptsOf id else l.storage.receiptsOf id :=
  receiptsOf_setPayment (s := (l.storage.setMandate m').markChargeUsed _ _) hfresh

theorem books_genesis (host : Host T) (t₀ : U64) (tok₀ : T) : Books host (genesis t₀ tok₀) where
  mandate_id h := by cases h
  mandate h := by cases h
  payment_id h := by cases h
  payment_mandate h := by cases h
  used_iff m c := by
    constructor
    · intro h; cases h
    · rintro ⟨r, h⟩; cases h

/-- What refunds and token calls leave alone: the clock, the records, the receipts and the replay
guards. The two ledgers may even be of different tokens. -/
structure SameCharges {T' : Type} (l : Ledger T) (l' : Ledger T') : Prop where
  timestamp : l'.timestamp = l.timestamp
  mandates : l'.storage.mandates = l.storage.mandates
  payments : l'.storage.payments = l.storage.payments
  usedCharges : l'.storage.usedCharges = l.storage.usedCharges

namespace SameCharges

variable {T' : Type} {l : Ledger T} {l' : Ledger T'}

theorem getMandate_eq (h : SameCharges l l') (id : BytesN) :
    l'.storage.getMandate id = l.storage.getMandate id := by
  unfold Storage.getMandate; rw [h.mandates]

theorem getPayment_eq (h : SameCharges l l') (id : BytesN) :
    l'.storage.getPayment id = l.storage.getPayment id := by
  unfold Storage.getPayment; rw [h.payments]

theorem hasUsedCharge_eq (h : SameCharges l l') (m c : BytesN) :
    l'.storage.hasUsedCharge m c = l.storage.hasUsedCharge m c := by
  unfold Storage.hasUsedCharge; rw [h.usedCharges]

theorem receiptsOf_eq (h : SameCharges l l') (id : BytesN) :
    l'.storage.receiptsOf id = l.storage.receiptsOf id := by
  unfold Storage.receiptsOf; rw [h.payments]

end SameCharges

theorem Books.congr {host : Host T} {l l' : Ledger T} (hb : Books host l)
    (h : SameCharges l l') : Books host l' where
  mandate_id {id m} := by rw [h.getMandate_eq]; exact hb.mandate_id
  mandate {id m} := by rw [h.getMandate_eq, h.receiptsOf_eq, h.timestamp]; exact hb.mandate
  payment_id {pid r} := by rw [h.getPayment_eq]; exact hb.payment_id
  payment_mandate {pid r} := by
    rw [h.getPayment_eq]
    intro hr
    rw [h.getMandate_eq]
    exact hb.payment_mandate hr
  used_iff m c := by rw [h.hasUsedCharge_eq, h.getPayment_eq]; exact hb.used_iff m c

theorem Books.later {host : Host T} {l : Ledger T} {now : U64} (hb : Books host l)
    (hle : l.timestamp.val ≤ now.val) : Books host { l with timestamp := now } :=
  { hb with mandate := fun h => (hb.mandate h).later hle }

/-! ## Every successful call keeps the books -/

section

variable {host : Host T} {l : Ledger T}

/-- A mandate that is not stored has no receipts. -/
theorem Books.receiptsOf_eq_nil (hb : Books host l) {id : BytesN}
    (hfresh : l.storage.getMandate id = none) : l.storage.receiptsOf id = [] := by
  refine List.eq_nil_iff_forall_not_mem.mpr fun r hr => ?_
  obtain ⟨⟨pid, hpid⟩, rfl⟩ := mem_receiptsOf.mp hr
  obtain ⟨m, hm⟩ := hb.payment_mandate hpid
  rw [hm] at hfresh
  cases hfresh

/-- While the replay guard is clear, the key of the receipt holds none. -/
theorem Books.getPayment_eq_none (hb : Books host l) {mandateId chargeId : BytesN}
    (hunused : l.storage.hasUsedCharge mandateId chargeId = false) :
    l.storage.getPayment (host.derivePaymentId mandateId chargeId) = none := by
  by_contra hne
  obtain ⟨r, hr⟩ := Option.ne_none_iff_exists'.mp hne
  rw [(hb.used_iff mandateId chargeId).mpr ⟨r, hr⟩] at hunused
  cases hunused

/-- Writing one record, the receipts staying as they are. -/
theorem Books.setMandate (hb : Books host l) {m : Mandate} {events : List Event}
    (hm : MandateBooks l.timestamp m (l.storage.receiptsOf m.id)) :
    Books host { l with storage := l.storage.setMandate m, events := events } where
  mandate_id {id m'} h := by
    change (l.storage.setMandate m).getMandate id = some m' at h
    rw [Storage.getMandate_setMandate] at h
    split at h
    · rename_i heq; cases h; exact heq.symm
    · exact hb.mandate_id h
  mandate {id m'} h := by
    change (l.storage.setMandate m).getMandate id = some m' at h
    rw [Storage.getMandate_setMandate] at h
    split at h
    · rename_i heq; cases h; subst heq; exact hm
    · exact hb.mandate h
  payment_id := hb.payment_id
  payment_mandate {pid r} h := by
    show ∃ m', (l.storage.setMandate m).getMandate r.mandateId = some m'
    rw [Storage.getMandate_setMandate]
    split
    · exact ⟨m, rfl⟩
    · exact hb.payment_mandate h
  used_iff := hb.used_iff

theorem Books.created (hb : Books host l) {input : MandateInput}
    (hfresh : l.storage.getMandate (host.inputId input) = none)
    (hvalid : ValidInput l.timestamp input) : Books host (createdLedger host l input) := by
  refine hb.setMandate ?_
  show MandateBooks l.timestamp _ (l.storage.receiptsOf (host.inputId input))
  rw [hb.receiptsOf_eq_nil hfresh]
  exact mandateBooks_new hvalid

theorem Books.statusChanged (hb : Books host l) {op : StatusOp} {mandateId : BytesN} {m : Mandate}
    (hm : l.storage.getMandate mandateId = some m)
    (hallowed : op.check (effectiveStatus m l.timestamp) = .ok ()) :
    Books host (statusLedger op l mandateId m) := by
  obtain rfl := hb.mandate_id hm
  exact hb.setMandate ((hb.mandate hm).statusChanged hallowed)

/-- The receipt of an allowed charge is one the terms allow. -/
theorem Chargeable.allows {authorized : List Address} {m m' : Mandate} {now : U64} {used : Bool}
    {amount collected : I128} {period : BillingPeriod} {chargeId invoiceHash : BytesN}
    (hc : Chargeable authorized m now used amount period collected)
    (ha : Accounted m period collected amount now m') :
    m.terms.Allows (newReceipt host m' m.id chargeId amount invoiceHash now) where
  mandate_eq := rfl
  payer_eq := by rw [ha.frame]; rfl
  merchant_eq := by rw [ha.frame]; rfl
  asset_eq := by rw [ha.frame]; rfl
  started := hc.started
  unexpired := hc.unexpired
  positive := hc.positive
  admitted := hc.admitted

theorem Books.charged (hinj : Function.Injective host.sha256) (hb : Books host l)
    {authorized : List Address} {mandateId chargeId invoiceHash : BytesN}
    {amount collected : I128} {period : BillingPeriod} {m m' : Mandate} (t : T)
    (hm : l.storage.getMandate mandateId = some m)
    (hc : Chargeable authorized m l.timestamp
      (l.storage.hasUsedCharge mandateId chargeId) amount period collected)
    (ha : Accounted m period collected amount l.timestamp m') :
    Books host (chargedLedger l m' period
      (newReceipt host m' mandateId chargeId amount invoiceHash l.timestamp) t) := by
  obtain rfl := hb.mandate_id hm
  have hid : m'.id = m.id := by rw [ha.frame]
  set r := newReceipt host m' m.id chargeId amount invoiceHash l.timestamp
  have hallows : m.terms.Allows r := hc.allows ha
  have hrid : r.mandateId = m.id := rfl
  have hfresh : l.storage.getPayment r.paymentId = none := hb.getPayment_eq_none hc.unused
  refine ⟨?_, ?_, ?_, ?_, ?_⟩
  · intro id m₁ h
    rw [getMandate_chargedLedger, hid] at h
    split at h
    · rename_i heq; cases h; rw [hid, heq]
    · exact hb.mandate_id h
  · intro id m₁ h
    rw [getMandate_chargedLedger, hid] at h
    rw [receiptsOf_chargedLedger hfresh]
    split at h
    · rename_i heq
      cases h
      rw [heq, if_pos hrid]
      exact (hb.mandate hm).charged hc ha hallows rfl rfl
    · rename_i hne
      rw [if_neg fun heq => hne (heq.symm.trans hrid)]
      exact hb.mandate h
  · intro pid r₁ h
    rw [getPayment_chargedLedger] at h
    split at h
    · rename_i heq; cases h; exact ⟨heq.symm, heq⟩
    · exact hb.payment_id h
  · intro pid r₁ h
    have hstored : ∃ m₁, l.storage.getMandate r₁.mandateId = some m₁ := by
      rw [getPayment_chargedLedger] at h
      split at h
      · cases h; exact ⟨m, hm⟩
      · exact hb.payment_mandate h
    rw [getMandate_chargedLedger]
    split
    · exact ⟨m', rfl⟩
    · exact hstored
  · intro mid cid
    rw [hasUsedCharge_chargedLedger, getPayment_chargedLedger, hb.used_iff]
    -- the payment id is the digest of the two ids, so the new receipt is found under no others
    by_cases heq : host.derivePaymentId mid cid = r.paymentId
    · rw [if_pos heq]
      obtain ⟨rfl, rfl⟩ := Host.derivePaymentId_inj hinj heq
      exact ⟨fun _ => ⟨r, rfl⟩, fun _ => Or.inl ⟨rfl, rfl⟩⟩
    · rw [if_neg heq]
      constructor
      · rintro (⟨rfl, rfl⟩ | h)
        · exact absurd rfl heq
        · exact h
      · exact Or.inr

/-! ## Every reachable state has its books in order -/

theorem sameCharges_refunded (payment : PaymentReceipt) (mandateId : BytesN)
    (receipt : RefundReceipt) (total : I128) (t : T) :
    SameCharges l (refundedLedger l payment mandateId receipt total t) :=
  ⟨rfl, rfl, rfl, rfl⟩

theorem books_effect (hinj : Function.Injective host.sha256) {authorized : List Address} {op : Op}
    {v : Value} {l' : Ledger T} (hb : Books host l) (h : Effect host authorized l op v l') :
    Books host l' := by
  cases h with
  | created input _ hfresh hvalid => exact hb.created hfresh hvalid
  | statusChanged op mandateId m hm _ hallowed => exact hb.statusChanged hm hallowed
  | charged mandateId chargeId amount invoiceHash m period collected t m' hm hc _ ha =>
      exact hb.charged hinj t hm hc ha
  | refunded mandateId paymentId amount refundId m payment total t _ _ _ _ =>
      exact hb.congr (sameCharges_refunded _ _ _ _ _)

theorem books_exec (hinj : Function.Injective host.sha256) (hb : Books host l) (step : Step T) :
    Books host (exec host l step) := by
  have hmoved := moved_exec host l step
  generalize exec host l step = l' at hmoved
  cases hmoved with
  | closed t now hle => exact hb.later hle
  | tokens t => exact hb.congr ⟨rfl, rfl, rfl, rfl⟩
  | rejected c f _ => exact hb
  | done c v l' _ heffect => exact books_effect hinj hb heffect

end

/-- **Every state a run can reach has its books in order.** -/
theorem books_run {host : Host T} (hinj : Function.Injective host.sha256) (t₀ : U64) (tok₀ : T)
    (steps : List (Step T)) : Books host (run host (genesis t₀ tok₀) steps) :=
  Runs.run_invariant (P := Books host) (fun _ step hb => books_exec hinj hb step)
    (books_genesis host t₀ tok₀) steps

end

end Paymap.Registry
