import Mathlib.Algebra.Order.BigOperators.Group.List
import Paymap.Registry.Books

set_option autoImplicit false

/-! # What a mandate may still collect

The caps of a mandate bound what is collected of it from now on: the charges that are left, each of which
is at most the largest charge, and the billing periods that are left, each of which collects at most its
cap, the current one less what it has collected already. `collectible` is the smaller of the two bounds.

It never grows. Time and changes of the status only lower it, and a charge lowers it by at least its
amount; so a charge that passes the checks is at most what was left. `outstanding` adds it up over stored
mandates, and follows it through every step.
-/

namespace Paymap.Registry

open History (gridFloor)

/-! ## One mandate -/

/-- It may be charged, now or once it is resumed. -/
def isLive (m : Mandate) (now : U64) : Bool :=
  effectiveStatus m now = .active || effectiveStatus m now = .paused

/-- Where the current billing period begins; before the start it is the first one. -/
def currentPeriod (m : Mandate) (now : U64) : ℤ :=
  gridFloor m.startAt.val m.periodSeconds.val (max m.startAt.val now.val)

/-- The current billing period, and those that begin after it and before the mandate expires. -/
def periodsLeft (m : Mandate) (now : U64) : ℤ :=
  (m.expiresAt.val - currentPeriod m now + m.periodSeconds.val - 1) / m.periodSeconds.val

def collectibleByPeriods (m : Mandate) (now : U64) : ℤ :=
  m.maxPerPeriod.val * periodsLeft m now - m.counter.amountAt (currentPeriod m now)

def collectibleByCount (m : Mandate) : ℤ :=
  m.amountRule.perChargeCap.val * (m.maxSuccessfulCharges.val - m.successfulCharges.val)

/-- The most that can still be collected. -/
def collectible (m : Mandate) (now : U64) : ℤ :=
  if isLive m now then
    if m.maxSuccessfulCharges.val = 0 then collectibleByPeriods m now
    else min (collectibleByCount m) (collectibleByPeriods m now)
  else 0

theorem isLive_iff {m : Mandate} {now : U64} :
    isLive m now = true ↔
      (m.status = .active ∨ m.status = .paused) ∧ now.val < m.expiresAt.val := by
  unfold isLive effectiveStatus
  cases m.status with
  | active =>
      by_cases h : now.val < m.expiresAt.val
      · simp [MachineInt.le_def, h]
      · simp [MachineInt.le_def, h, not_lt.mp h]
  | paused =>
      by_cases h : now.val < m.expiresAt.val
      · simp [MachineInt.le_def, h]
      · simp [MachineInt.le_def, h, not_lt.mp h]
  | _ => simp

/-- `x` is at most what is left when it is at most what the bounds in force leave. -/
theorem le_collectible {m : Mandate} {now : U64} {x : ℤ} (hlive : isLive m now = true)
    (hcount : m.maxSuccessfulCharges.val ≠ 0 → x ≤ collectibleByCount m)
    (hperiods : x ≤ collectibleByPeriods m now) : x ≤ collectible m now := by
  unfold collectible
  rw [if_pos hlive]
  by_cases h : m.maxSuccessfulCharges.val = 0
  · rw [if_pos h]
    exact hperiods
  · rw [if_neg h]
    exact le_min (hcount h) hperiods

theorem collectible_le_byPeriods {m : Mandate} {now : U64} (hlive : isLive m now = true) :
    collectible m now ≤ collectibleByPeriods m now := by
  unfold collectible
  rw [if_pos hlive]
  split
  · exact le_rfl
  · exact min_le_right _ _

theorem collectible_le_byCount {m : Mandate} {now : U64} (hlive : isLive m now = true)
    (hcounted : m.maxSuccessfulCharges.val ≠ 0) : collectible m now ≤ collectibleByCount m := by
  unfold collectible
  rw [if_pos hlive, if_neg hcounted]
  exact min_le_left _ _

/-- Two records, and two times: what bounds what is left is no more than it was. -/
theorem collectible_add_le {m m' : Mandate} {now now' : U64} {x : ℤ} (hlive : isLive m now = true)
    (hsame : m'.maxSuccessfulCharges = m.maxSuccessfulCharges) (hlive' : isLive m' now' = true)
    (hcount : collectibleByCount m' + x ≤ collectibleByCount m)
    (hperiods : collectibleByPeriods m' now' + x ≤ collectibleByPeriods m now) :
    collectible m' now' + x ≤ collectible m now := by
  unfold collectible
  rw [if_pos hlive, if_pos hlive', hsame]
  by_cases h : m.maxSuccessfulCharges.val = 0
  · rw [if_pos h, if_pos h]
    exact hperiods
  · rw [if_neg h, if_neg h]
    omega

theorem periodsLeft_pos {m : Mandate} {now : U64} (hpos : 0 < m.periodSeconds.val)
    (hlt : currentPeriod m now < m.expiresAt.val) : 1 ≤ periodsLeft m now := by
  unfold periodsLeft
  exact Int.le_ediv_of_mul_le hpos (by omega)

section

variable {now : U64} {m : Mandate} {h : List PaymentReceipt}

theorem MandateBooks.period_pos (hb : MandateBooks now m h) : 0 < m.periodSeconds.val :=
  hb.terms.period_pos

/-- The current period has collected no more than its cap. -/
theorem MandateBooks.amountAt_le (hb : MandateBooks now m h) :
    m.counter.amountAt (currentPeriod m now) ≤ m.maxPerPeriod.val := by
  have hsum := hb.tracks.amountAt_eq (k := currentPeriod m now) hb.current_le
  rw [hsum]
  exact hb.capped _

theorem MandateBooks.amountAt_nonneg (hb : MandateBooks now m h) :
    0 ≤ m.counter.amountAt (currentPeriod m now) := by
  have hsum := hb.tracks.amountAt_eq (k := currentPeriod m now) hb.current_le
  rw [hsum]
  refine List.sum_nonneg (List.forall_mem_map.mpr fun r hr => ?_)
  exact (hb.each r (List.mem_of_mem_filter hr)).positive.le

theorem MandateBooks.cap_pos (hb : MandateBooks now m h) : 0 < m.maxPerPeriod.val :=
  hb.terms.cap_pos.trans_le hb.terms.cap_le

theorem MandateBooks.start_le_currentPeriod (hb : MandateBooks now m h) :
    m.startAt.val ≤ currentPeriod m now := by
  have hmono := History.gridFloor_mono m.startAt.val hb.period_pos (le_max_left m.startAt.val now.val)
  rwa [History.gridFloor_start] at hmono

/-- A live mandate has its current period left. -/
theorem MandateBooks.currentPeriod_lt (hb : MandateBooks now m h) (hlive : isLive m now = true) :
    currentPeriod m now < m.expiresAt.val := by
  have hstart := hb.terms.start_lt
  have hexpires := (isLive_iff.mp hlive).2
  have hle : currentPeriod m now ≤ max m.startAt.val now.val :=
    History.gridFloor_le _ hb.period_pos _
  have hmax : max m.startAt.val now.val < m.expiresAt.val := max_lt hstart hexpires
  omega

theorem MandateBooks.collectibleByPeriods_nonneg (hb : MandateBooks now m h) (hlive : isLive m now = true) :
    0 ≤ collectibleByPeriods m now := by
  have hperiods := periodsLeft_pos hb.period_pos (hb.currentPeriod_lt hlive)
  have hcap := mul_le_mul_of_nonneg_left hperiods hb.cap_pos.le
  have hcollected := hb.amountAt_le
  unfold collectibleByPeriods
  omega

theorem MandateBooks.collectible_nonneg (hb : MandateBooks now m h) : 0 ≤ collectible m now := by
  by_cases hlive : isLive m now
  · refine le_collectible hlive (fun hne => ?_) (hb.collectibleByPeriods_nonneg hlive)
    have hbelow := hb.below_count hne
    exact mul_nonneg hb.terms.cap_pos.le (by omega)
  · unfold collectible
    rw [if_neg hlive]

/-- Time passes: the bound loses at least the rest of each period that ends. -/
theorem MandateBooks.collectibleByPeriods_later (hb : MandateBooks now m h) {now' : U64}
    (hle : now.val ≤ now'.val) : collectibleByPeriods m now' ≤ collectibleByPeriods m now := by
  have hpos := hb.period_pos
  have htime : max m.startAt.val now.val ≤ max m.startAt.val now'.val := max_le_max_left _ hle
  have hmono : currentPeriod m now ≤ currentPeriod m now' :=
    History.gridFloor_mono _ hpos htime
  by_cases hsame : currentPeriod m now' = currentPeriod m now
  · unfold collectibleByPeriods periodsLeft
    rw [hsame]
  · -- at least one period has ended, and nothing has been collected since
    have hfloor : currentPeriod m now ≤ max m.startAt.val now.val := History.gridFloor_le _ hpos _
    have hended : currentPeriod m now + m.periodSeconds.val ≤ max m.startAt.val now'.val := by
      by_contra hlt
      exact hsame (History.gridFloor_eq_of_mem _ hpos (hfloor.trans htime) (not_le.mp hlt))
    have hnext : currentPeriod m now + m.periodSeconds.val ≤ currentPeriod m now' := by
      have hstep := History.gridFloor_mono m.startAt.val hpos hended
      rwa [currentPeriod, History.gridFloor_next _ hpos] at hstep
    have hfresh : m.counter.amountAt (currentPeriod m now') = 0 := by
      have hcurrent : m.counter.bucket ≤ currentPeriod m now := hb.current_le
      exact if_pos (by omega)
    have hperiods : periodsLeft m now' + 1 ≤ periodsLeft m now := by
      unfold periodsLeft
      rw [← Int.add_mul_ediv_right _ 1 hpos.ne']
      exact Int.ediv_le_ediv hpos (by omega)
    have hcap := mul_le_mul_of_nonneg_left hperiods hb.cap_pos.le
    have hcollected := hb.amountAt_le
    rw [mul_add, mul_one] at hcap
    unfold collectibleByPeriods
    omega

theorem MandateBooks.collectible_later (hb : MandateBooks now m h) {now' : U64} (hle : now.val ≤ now'.val) :
    collectible m now' ≤ collectible m now := by
  by_cases hlive' : isLive m now'
  · obtain ⟨hstatus, hexpires⟩ := isLive_iff.mp hlive'
    have hlive : isLive m now = true := isLive_iff.mpr ⟨hstatus, by omega⟩
    have hperiods := hb.collectibleByPeriods_later hle
    have hadd := collectible_add_le hlive rfl hlive' (x := 0) (by omega) (by omega)
    omega
  · have hnonneg := hb.collectible_nonneg
    unfold collectible at hnonneg ⊢
    rwa [if_neg hlive']

/-- The payer sets the status: a mandate that is not live stays so. -/
theorem MandateBooks.collectible_statusChanged (hb : MandateBooks now m h) {op : StatusOp}
    (hallowed : op.check (effectiveStatus m now) = .ok ()) :
    collectible { m with status := op.target } now ≤ collectible m now := by
  by_cases hlive' : isLive { m with status := op.target } now
  · have hlive : isLive m now = true := by
      unfold isLive
      cases op with
      | pause =>
          cases heff : effectiveStatus m now <;> rw [heff] at hallowed <;> cases hallowed
          rfl
      | resume =>
          cases heff : effectiveStatus m now <;> rw [heff] at hallowed <;> cases hallowed
          rfl
      | revoke => exact absurd (isLive_iff.mp hlive').1 (by simp [StatusOp.target])
    have hadd : collectible { m with status := op.target } now + 0 ≤ collectible m now :=
      collectible_add_le hlive rfl hlive' (le_of_eq (add_zero _)) (le_of_eq (add_zero _))
    omega
  · have hnonneg := hb.collectible_nonneg
    unfold collectible at hnonneg ⊢
    rwa [if_neg hlive']

section

variable {authorized : List Address} {used : Bool} {amount collected : I128} {period : BillingPeriod}

theorem Chargeable.live (hc : Chargeable authorized m now used amount period collected) :
    isLive m now = true := isLive_iff.mpr ⟨.inl (effectiveStatus_eq_active.mp hc.active).1, hc.unexpired⟩

theorem MandateBooks.currentPeriod_eq (hb : MandateBooks now m h)
    (hc : Chargeable authorized m now used amount period collected) :
    currentPeriod m now = period.start.val := by
  obtain ⟨hstart, -, hfloor⟩ := (billingPeriod_ok hb.period_pos).mp hc.period_eq
  unfold currentPeriod
  rw [max_eq_right hstart, hfloor]

/-- Step 12 adds the charge to what the current period has collected. -/
theorem MandateBooks.collected_eq (hb : MandateBooks now m h)
    (hc : Chargeable authorized m now used amount period collected) :
    collected.val = m.counter.amountAt (currentPeriod m now) + amount.val := by
  have hsum := hb.tracks.amountAt_eq (k := currentPeriod m now) hb.current_le
  obtain ⟨-, -, hfloor⟩ := (billingPeriod_ok hb.period_pos).mp hc.period_eq
  rw [hc.collected_eq, hb.effectivePeriodCollected_eq hc.period_eq, hsum, hb.currentPeriod_eq hc, hfloor]

/-- A charge that passes the checks is at most what is left. -/
theorem MandateBooks.amount_le_collectible (hb : MandateBooks now m h)
    (hc : Chargeable authorized m now used amount period collected) :
    amount.val ≤ collectible m now := by
  refine le_collectible hc.live (fun hne => ?_) ?_
  · have hone : 1 ≤ m.maxSuccessfulCharges.val - m.successfulCharges.val := by
      have hbelow := hc.below_count hne
      omega
    have hcharge := mul_le_mul_of_nonneg_left hone hb.terms.cap_pos.le
    rw [mul_one] at hcharge
    exact hc.admitted.le_cap.trans hcharge
  · have hperiods := periodsLeft_pos hb.period_pos (hb.currentPeriod_lt hc.live)
    have hcap := mul_le_mul_of_nonneg_left hperiods hb.cap_pos.le
    have hcollected := hb.collected_eq hc
    have hbound := hc.below_cap
    rw [mul_one] at hcap
    unfold collectibleByPeriods
    omega

/-- **A charge is paid out of what was left.** -/
theorem MandateBooks.collectible_charged (hb : MandateBooks now m h) {m' : Mandate}
    (hc : Chargeable authorized m now used amount period collected)
    (ha : Accounted m period collected amount now m') :
    collectible m' now + amount.val ≤ collectible m now := by
  have hcollected := hb.collected_eq hc
  have hcurrent := hb.currentPeriod_eq hc
  have hamount := hc.admitted.le_cap
  by_cases hlive' : isLive m' now
  · obtain ⟨hcount, -, -, hframe⟩ := ha
    obtain ⟨status, count, total, rfl⟩ : ∃ status count total, m' = { m with
        status := status
        successfulCharges := count
        totalCollected := total
        currentPeriodStart := period.start
        currentPeriodCollected := collected
        lastChargedAt := some now } := ⟨_, _, _, hframe⟩
    change count.val = m.successfulCharges.val + 1 at hcount
    refine collectible_add_le hc.live rfl hlive' ?_ ?_
    · show m.amountRule.perChargeCap.val * (m.maxSuccessfulCharges.val - count.val) + amount.val
        ≤ m.amountRule.perChargeCap.val * (m.maxSuccessfulCharges.val - m.successfulCharges.val)
      rw [hcount, ← sub_sub, mul_sub, mul_one]
      omega
    · have hsame : History.Counter.amountAt ⟨period.start.val, collected.val⟩ (currentPeriod m now)
          = collected.val := if_neg (not_not.mpr hcurrent)
      show m.maxPerPeriod.val * periodsLeft m now
          - History.Counter.amountAt ⟨period.start.val, collected.val⟩ (currentPeriod m now) + amount.val
        ≤ collectibleByPeriods m now
      unfold collectibleByPeriods
      omega
  · -- it was the last charge of the mandate
    have hdone : collectible m' now = 0 := if_neg hlive'
    rw [hdone, zero_add]
    exact hb.amount_le_collectible hc

end

end

/-! ## All mandates -/

section

variable {T : Type} (select : Terms → Bool)

/-- What a mandate may still collect, when it is one of the selected. -/
def owed (now : U64) (m : Mandate) : ℤ := if select m.terms then collectible m now else 0

/-- What the selected mandates may still collect together. -/
def outstanding (l : Ledger T) : ℤ :=
  ((FinMap.values l.storage.mandates).map (owed select l.timestamp)).sum

variable {select} {host : Host T} {l : Ledger T}

theorem outstanding_congr {l' : Ledger T} (h : SameCharges l l') :
    outstanding select l' = outstanding select l := by
  unfold outstanding
  rw [h.mandates, h.timestamp]

theorem owed_of_select {now : U64} {m : Mandate} (h : select m.terms = true) :
    owed select now m = collectible m now := if_pos h

variable (select) in
/-- A record that has lost `x` of what was left has lost as much of what is owed. -/
theorem owed_add_le {now now' : U64} {m m' : Mandate} {x : ℤ} (hterms : m'.terms = m.terms)
    (hle : collectible m' now' + x ≤ collectible m now) :
    owed select now' m' + (if select m.terms then x else 0) ≤ owed select now m := by
  unfold owed
  rw [hterms]
  by_cases h : select m.terms = true
  · rw [if_pos h, if_pos h, if_pos h]
    exact hle
  · rw [if_neg h, if_neg h, if_neg h, add_zero]

theorem Books.owed_nonneg (hb : Books host l) {id : BytesN} {m : Mandate}
    (hm : l.storage.getMandate id = some m) : 0 ≤ owed select l.timestamp m := by
  have hleft := (hb.mandate hm).collectible_nonneg
  unfold owed
  split
  · exact hleft
  · exact le_rfl

/-- One of the selected mandates may collect no more than all of them. -/
theorem Books.collectible_le_outstanding (hb : Books host l) {id : BytesN} {m : Mandate}
    (hm : l.storage.getMandate id = some m) (hselect : select m.terms = true) :
    collectible m l.timestamp ≤ outstanding select l := by
  rw [← owed_of_select hselect]
  refine List.single_le_sum ?_ _ (List.mem_map_of_mem (FinMap.mem_values.mpr ⟨id, hm⟩))
  intro x hx
  obtain ⟨m', hm', rfl⟩ := List.mem_map.mp hx
  obtain ⟨id', hid'⟩ := FinMap.mem_values.mp hm'
  exact hb.owed_nonneg hid'

/-- Time passes. -/
theorem Books.outstanding_later (hb : Books host l) {now : U64} (hle : l.timestamp.val ≤ now.val) :
    outstanding select { l with timestamp := now } ≤ outstanding select l := by
  refine List.sum_le_sum fun m hm => ?_
  obtain ⟨id, hid⟩ := FinMap.mem_values.mp hm
  have hleft := (hb.mandate hid).collectible_later hle
  unfold owed
  split
  · exact hleft
  · exact le_rfl

variable (select) in
/-- A record takes the place of another with the same terms. -/
theorem outstanding_setMandate {m m' : Mandate} {x : ℤ} (hm : l.storage.getMandate m.id = some m)
    (hterms : m'.terms = m.terms) (hle : collectible m' l.timestamp + x ≤ collectible m l.timestamp)
    {l' : Ledger T} (hmandates : l'.storage.mandates = l.storage.mandates.insert m'.id m')
    (htime : l'.timestamp = l.timestamp) :
    outstanding select l' + (if select m.terms then x else 0) ≤ outstanding select l := by
  have hid : m'.id = m.id := congrArg Terms.id hterms
  have hsum := FinMap.sum_insert (c := m') hm (owed select l.timestamp)
  have howed := owed_add_le select hterms hle
  rw [← hid, ← hmandates] at hsum
  unfold outstanding
  rw [htime]
  omega

theorem Books.outstanding_statusChanged (hb : Books host l) {op : StatusOp} {mandateId : BytesN}
    {m : Mandate} (hm : l.storage.getMandate mandateId = some m)
    (hallowed : op.check (effectiveStatus m l.timestamp) = .ok ()) :
    outstanding select (statusLedger op l mandateId m) ≤ outstanding select l := by
  obtain rfl := hb.mandate_id hm
  have hleft := (hb.mandate hm).collectible_statusChanged hallowed
  have hset : outstanding select (statusLedger op l m.id m) + (if select m.terms then 0 else 0)
      ≤ outstanding select l :=
    outstanding_setMandate select hm
      (show ({ m with status := op.target } : Mandate).terms = m.terms from rfl)
      ((add_zero _).trans_le hleft) rfl rfl
  rwa [ite_self, add_zero] at hset

/-- A charge of a selected mandate takes its amount off what is outstanding. -/
theorem Books.outstanding_charged (hb : Books host l) {authorized : List Address}
    {mandateId chargeId : BytesN} {amount collected : I128} {period : BillingPeriod} {m m' : Mandate}
    (hm : l.storage.getMandate mandateId = some m)
    (hc : Chargeable authorized m l.timestamp
      (l.storage.hasUsedCharge mandateId chargeId) amount period collected)
    (ha : Accounted m period collected amount l.timestamp m') (receipt : PaymentReceipt) (t : T) :
    outstanding select (chargedLedger l m' period receipt t)
      + (if select m.terms then amount.val else 0) ≤ outstanding select l := by
  obtain rfl := hb.mandate_id hm
  exact outstanding_setMandate select hm ha.terms_eq ((hb.mandate hm).collectible_charged hc ha) rfl rfl

/-- A new mandate adds what it may collect. -/
theorem outstanding_created {input : MandateInput}
    (hfresh : l.storage.getMandate (host.inputId input) = none) :
    outstanding select (createdLedger host l input)
      = owed select l.timestamp (newMandate (host.inputId input) l.timestamp input)
        + outstanding select l := by
  have hvalues : FinMap.values (createdLedger host l input).storage.mandates
      = newMandate (host.inputId input) l.timestamp input :: FinMap.values l.storage.mandates :=
    FinMap.values_insert hfresh
  unfold outstanding
  rw [hvalues, List.map_cons, List.sum_cons]
  rfl

/-- What is outstanding is that of the mandates that are stored. -/
theorem outstanding_select {select' : Terms → Bool}
    (h : ∀ id m, l.storage.getMandate id = some m → select' m.terms = select m.terms) :
    outstanding select' l = outstanding select l := by
  refine congrArg List.sum (List.map_congr_left fun m hm => ?_)
  obtain ⟨id, hid⟩ := FinMap.mem_values.mp hm
  unfold owed
  rw [h id m hid]

end

end Paymap.Registry
