import Paymap.Registry.Policy
import Paymap.Relayer.Classify
import Paymap.Web.MandateStatus

set_option autoImplicit false

/-! # Is a permanent failure hopeless?

A contract error that the table of `errors.ts` does not call retryable ends a charge request for good, on the
ground that the same request against the same state can never end differently. The state does not say what
time it is. Three of the checks of `charge` lift with time: the start of the mandate, the interval since the
last charge, and the cap of a period, which the next period has anew. A charge that nothing else stands
against would go through later, unless the mandate has expired by then, and no other failure has any hope.
-/

namespace Paymap.Permanence

open Registry
open Web (collectedIn firstCandidate openingFrom periodOf)
open Api (PassesAt collectedAt)
open Relayer (classifyContractErrorName contractErrorName)

section

variable {T : Type}

/-- The call, made again at any later time in the same state, fails. -/
def Hopeless (host : Host T) (l : Ledger T) (c : Call) : Prop :=
  ∀ later : U64, l.timestamp ≤ later → ∃ f, (invoke host c { l with timestamp := later }).1 = .error f

/-- What `charge` asks for whatever the time is. -/
structure InOrder (host : Host T) (l : Ledger T) (authorized : List Address)
    (mandateId chargeId : BytesN) (amount : I128) (m : Mandate) : Prop where
  stored : l.storage.getMandate mandateId = some m
  active : m.status = .active
  merchant_auth : m.merchant ∈ authorized
  unused : ¬ l.storage.hasUsedCharge mandateId chargeId
  positive : 0 < amount.val
  admitted : m.amountRule.Admits amount
  below_count :
    m.maxSuccessfulCharges.val ≠ 0 → m.successfulCharges.val < m.maxSuccessfulCharges.val
  paid : ∃ t, ChargePaid (host.env authorized) l.token m amount t
  count_fits : ∃ n : U32, n.val = m.successfulCharges.val + 1
  total_fits : ∃ x : I128, x.val = m.totalCollected.val + amount.val

/-- The first time from `now` on at which start, interval and cap let the amount through. -/
def opening (m : Mandate) (now : U64) (amount : I128) : ℤ :=
  openingFrom m amount.val (max now.val (firstCandidate (Client.toDomainMandate m)))

/-- A charge that is in order and need only wait, for a time before the mandate expires. -/
structure OnlyEarly (host : Host T) (l : Ledger T) (authorized : List Address)
    (mandateId chargeId : BytesN) (amount : I128) (m : Mandate) : Prop extends
    InOrder host l authorized mandateId chargeId amount m where
  opens : opening m l.timestamp amount < m.expiresAt.val

variable {host : Host T} {l : Ledger T} {authorized : List Address} {mandateId chargeId : BytesN}
  {amount : I128} {m : Mandate}

/-! ## When a charge is accepted -/

/-- The checks that depend on the time, at `now`. -/
structure Timely (m : Mandate) (now : U64) (amount : I128) : Prop where
  first : firstCandidate (Client.toDomainMandate m) ≤ now.val
  unexpired : now.val < m.expiresAt.val
  below_cap : collectedIn m (periodOf m now.val) + amount.val ≤ m.maxPerPeriod.val

/-- A charge is accepted when it is in order and timely. -/
theorem accepted_iff (hbooks : Books host l) (invoiceHash : BytesN) :
    (∃ v, (invoke host ⟨.charge mandateId chargeId amount invoiceHash, authorized⟩ l).1 = .ok v) ↔
      ∃ m, InOrder host l authorized mandateId chargeId amount m ∧ Timely m l.timestamp amount := by
  rw [charge_accepted_iff_policy hbooks]
  refine exists_congr fun m => ?_
  -- the policy sums up receipts, and the record says the same
  have hcap : ∀ {h : MandateBooks l.timestamp m (l.storage.receiptsOf mandateId)},
      m.startAt.val ≤ l.timestamp.val → ((∀ n : ℕ,
        m.startAt.val + n * m.periodSeconds.val ≤ l.timestamp.val →
        l.timestamp.val < m.startAt.val + (n + 1) * m.periodSeconds.val →
        m.terms.collectedDuring (l.storage.receiptsOf mandateId) n + amount.val ≤ m.maxPerPeriod.val) ↔
      collectedIn m (periodOf m l.timestamp.val) + amount.val ≤ m.maxPerPeriod.val) := by
    intro hb hstart
    obtain ⟨period, hperiod⟩ := exists_billingPeriod hb.terms.period_pos hstart
    rw [below_cap_iff hb hperiod, Api.effectivePeriodCollected_val hb.terms.period_pos hperiod]
    rfl
  constructor
  · intro h
    have hb := hbooks.mandate h.stored
    exact ⟨⟨h.stored, (effectiveStatus_eq_active.mp h.active).1, h.merchant_auth, h.unused, h.positive,
      h.admitted, h.below_count, h.paid, h.count_fits, h.total_fits⟩,
      Web.firstCandidate_le_iff.mpr ⟨h.started, h.spaced⟩, h.unexpired,
      (hcap (h := hb) h.started).mp h.below_cap⟩
  · rintro ⟨h, htimely⟩
    have hb := hbooks.mandate h.stored
    obtain ⟨hstart, hspaced⟩ := Web.firstCandidate_le_iff.mp htimely.first
    exact
      { stored := h.stored
        active := effectiveStatus_eq_active.mpr ⟨h.active, htimely.unexpired⟩
        started := hstart
        unexpired := htimely.unexpired
        merchant_auth := h.merchant_auth
        unused := h.unused
        positive := h.positive
        admitted := h.admitted
        spaced := hspaced
        below_count := h.below_count
        below_cap := (hcap (h := hb) hstart).mpr htimely.below_cap
        paid := h.paid
        count_fits := h.count_fits
        total_fits := h.total_fits }

/-- What time does not change. -/
theorem inOrder_later {later : U64} :
    InOrder host { l with timestamp := later } authorized mandateId chargeId amount m ↔
      InOrder host l authorized mandateId chargeId amount m :=
  ⟨fun h => ⟨h.1, h.2, h.3, h.4, h.5, h.6, h.7, h.8, h.9, h.10⟩,
    fun h => ⟨h.1, h.2, h.3, h.4, h.5, h.6, h.7, h.8, h.9, h.10⟩⟩

/-- An empty period has room for an amount that the rule admits. -/
theorem le_maxPerPeriod (hterms : m.terms.Valid) (hadmitted : m.amountRule.Admits amount) :
    amount.val ≤ m.maxPerPeriod.val := by
  have hle : m.amountRule.perChargeCap.val ≤ m.maxPerPeriod.val := hterms.cap_le
  refine le_trans ?_ hle
  cases hrule : m.amountRule with
  | fixed fixedAmount =>
      rw [hrule] at hadmitted
      exact (congrArg MachineInt.val hadmitted).le
  | variableUpTo maxPerCharge =>
      rw [hrule] at hadmitted
      exact hadmitted

/-- There is a later time at which the charge is timely exactly when it opens before the mandate
expires. -/
theorem exists_timely_iff (hpos : 0 < m.periodSeconds.val) (hroom : amount.val ≤ m.maxPerPeriod.val)
    (now : U64) : (∃ later : U64, now ≤ later ∧ Timely m later amount) ↔
      opening m now amount < m.expiresAt.val := by
  constructor
  · rintro ⟨later, hle, htimely⟩
    have hopening : opening m now amount ≤ later.val :=
      Web.openingFrom_le hpos (max_le hle htimely.first) htimely.below_cap
    exact hopening.trans_lt htimely.unexpired
  · intro hopens
    obtain ⟨hle, hcap⟩ := Web.openingFrom_opens hpos hroom
      (max now.val (firstCandidate (Client.toDomainMandate m)))
    change _ ≤ opening m now amount at hle
    have hlo := now.lo_le
    have hhi := m.expiresAt.le_hi
    have hnow : now.val ≤ opening m now amount := (le_max_left _ _).trans hle
    exact ⟨⟨opening m now amount, by omega, by omega⟩, hnow, (le_max_right _ _).trans hle, hopens, hcap⟩

/-- **When a charge has no hope**, in any state with its books in order. -/
theorem hopeless_iff (hinj : Function.Injective host.sha256) (hbooks : Books host l)
    (invoiceHash : BytesN) :
    Hopeless host l ⟨.charge mandateId chargeId amount invoiceHash, authorized⟩ ↔
      ¬ ∃ m, OnlyEarly host l authorized mandateId chargeId amount m := by
  have hlater : ∀ later : U64, l.timestamp ≤ later → Books host { l with timestamp := later } := by
    intro later hle
    have hclosed := books_exec hinj hbooks (.close later)
    have hadvance : advance l.timestamp later = later := if_pos hle
    rwa [exec, hadvance] at hclosed
  have hoffered : ∀ m, (∃ later : U64, l.timestamp ≤ later ∧
      InOrder host { l with timestamp := later } authorized mandateId chargeId amount m ∧
      Timely m later amount) ↔ OnlyEarly host l authorized mandateId chargeId amount m := by
    intro m
    constructor
    · rintro ⟨later, hle, horder, htimely⟩
      have horder := inOrder_later.mp horder
      have hterms := (hbooks.mandate horder.stored).terms
      exact ⟨horder, (exists_timely_iff hterms.period_pos (le_maxPerPeriod hterms horder.admitted)
        l.timestamp).mp ⟨later, hle, htimely⟩⟩
    · intro h
      have hterms := (hbooks.mandate h.stored).terms
      obtain ⟨later, hle, htimely⟩ := (exists_timely_iff hterms.period_pos
        (le_maxPerPeriod hterms h.admitted) l.timestamp).mpr h.opens
      exact ⟨later, hle, inOrder_later.mpr h.toInOrder, htimely⟩
  have hfails : ∀ l' : Ledger T, (∃ f, (invoke host
        ⟨.charge mandateId chargeId amount invoiceHash, authorized⟩ l').1 = .error f) ↔
      ¬ ∃ v, (invoke host ⟨.charge mandateId chargeId amount invoiceHash, authorized⟩ l').1 = .ok v := by
    intro l'
    cases (invoke host ⟨.charge mandateId chargeId amount invoiceHash, authorized⟩ l').1 with
    | ok v => simp
    | error f => simp
  unfold Hopeless
  constructor
  · rintro hhopeless ⟨m, hearly⟩
    obtain ⟨later, hle, horder, htimely⟩ := (hoffered m).mpr hearly
    exact (hfails _).mp (hhopeless later hle)
      ((accepted_iff (hlater later hle) invoiceHash).mpr ⟨m, horder, htimely⟩)
  · intro hnone later hle
    refine (hfails _).mpr fun haccepted => hnone ?_
    obtain ⟨m, horder, htimely⟩ := (accepted_iff (hlater later hle) invoiceHash).mp haccepted
    exact ⟨m, (hoffered m).mp ⟨later, hle, horder, htimely⟩⟩

/-! ## Which errors it can be -/

/-- The errors of the checks that lift with time. -/
def liftingErrors : List Error :=
  [.chargeBeforeStart, .chargeTooSoon, .amountExceedsPeriodLimit, .arithmeticOverflow]

/-- Of the checks of a charge that is in order and not expired, only these can fail. -/
theorem mem_liftingErrors {env : Env T} {now : U64} {f : Failure}
    (horder : InOrder host l env.authorized mandateId chargeId amount m)
    (hterms : m.terms.Valid) (hunexpired : now.val < m.expiresAt.val)
    (h : chargeChecks env m now (l.storage.hasUsedCharge mandateId chargeId) amount = .error f) :
    ∃ e ∈ liftingErrors, f = .err e := by
  have hactive := effectiveStatus_eq_active.mpr ⟨horder.active, hunexpired⟩
  unfold chargeChecks at h
  rcases Tx.bind_error.mp h with h | ⟨_, -, h⟩
  · rw [hactive] at h
    cases h
  rcases Tx.bind_error.mp h with h | ⟨_, hstart, h⟩
  · exact ⟨.chargeBeforeStart, by decide, (Tx.rejectIf_error.mp h).2.symm⟩
  rcases Tx.bind_error.mp h with h | ⟨_, -, h⟩
  · exact absurd (Tx.rejectIf_error.mp h).1 (not_le.mpr hunexpired)
  rcases Tx.bind_error.mp h with h | ⟨_, -, h⟩
  · exact absurd horder.merchant_auth (Tx.rejectIf_error.mp h).1
  rcases Tx.bind_error.mp h with h | ⟨_, -, h⟩
  · exact absurd (Tx.rejectIf_error.mp h).1 horder.unused
  rcases Tx.bind_error.mp h with h | ⟨_, -, h⟩
  · exact absurd (Tx.rejectIf_error.mp h).1 (not_le.mpr horder.positive)
  rcases Tx.bind_error.mp h with h | ⟨_, -, h⟩
  · have hrule : checkAmountRule m.amountRule amount = .ok () := checkAmountRule_ok.mpr horder.admitted
    cases hrule.symm.trans h
  rcases Tx.bind_error.mp h with h | ⟨_, -, h⟩
  · -- the interval, or its end is no time at all
    unfold checkInterval at h
    cases hlast : m.lastChargedAt with
    | none =>
        rw [hlast] at h
        cases h
    | some last =>
        rw [hlast] at h
        rcases Tx.bind_error.mp h with h | ⟨_, -, h⟩
        · exact ⟨.arithmeticOverflow, by decide, (orOverflow_ofInt?_error.mp h).2⟩
        · exact ⟨.chargeTooSoon, by decide, (Tx.rejectIf_error.mp h).2.symm⟩
  rcases Tx.bind_error.mp h with h | ⟨_, -, h⟩
  · obtain ⟨⟨hne, hle⟩, -⟩ := Tx.rejectIf_error.mp h
    exact absurd (horder.below_count hne) (not_lt.mpr hle)
  rcases Tx.bind_error.mp h with h | ⟨period, -, h⟩
  · have hstarted : m.startAt.val ≤ now.val := not_lt.mp (Tx.rejectIf_ok.mp hstart)
    obtain ⟨period, hperiod⟩ := exists_billingPeriod hterms.period_pos hstarted
    cases hperiod.symm.trans h
  rcases Tx.bind_error.mp h with h | ⟨_, -, h⟩
  · exact ⟨.arithmeticOverflow, by decide, (orOverflow_ofInt?_error.mp h).2⟩
  rcases Tx.bind_error.mp h with h | ⟨_, -, h⟩
  · exact ⟨.amountExceedsPeriodLimit, by decide, (Tx.rejectIf_error.mp h).2.symm⟩
  · cases h

/-- **A permanent failure is hopeless** exactly when the charge is not one that need only wait; and if
it is, then the error is one of those that lift. -/
theorem permanent_hopeless_iff (hinj : Function.Injective host.sha256) (t₀ : U64) (tok₀ : T)
    (steps : List (Step T)) (mandateId chargeId invoiceHash : BytesN) (amount : I128)
    (authorized : List Address) {e : Error} {reason : String}
    (hpermanent : classifyContractErrorName (contractErrorName e) = .ok ⟨.permanent, reason⟩)
    (herror : (invoke host ⟨.charge mandateId chargeId amount invoiceHash, authorized⟩
      (run host (genesis t₀ tok₀) steps)).1 = .error (.err e)) :
    (Hopeless host (run host (genesis t₀ tok₀) steps)
        ⟨.charge mandateId chargeId amount invoiceHash, authorized⟩ ↔
      ¬ ∃ m, OnlyEarly host (run host (genesis t₀ tok₀) steps) authorized mandateId chargeId amount m) ∧
    ((∃ m, OnlyEarly host (run host (genesis t₀ tok₀) steps) authorized mandateId chargeId amount m) →
      e ∈ liftingErrors) := by
  have hbooks := books_run hinj t₀ tok₀ steps
  refine ⟨hopeless_iff hinj hbooks invoiceHash, ?_⟩
  rintro ⟨m, hearly⟩
  generalize run host (genesis t₀ tok₀) steps = l at *
  have hterms := (hbooks.mandate hearly.stored).terms
  have hunexpired : l.timestamp.val < m.expiresAt.val := by
    have hle : l.timestamp.val ≤ opening m l.timestamp amount := (le_max_left _ _).trans
      (Web.openingFrom_opens hterms.period_pos (le_maxPerPeriod hterms hearly.admitted) _).1
    exact hle.trans_lt hearly.opens
  cases hchecks : chargeChecks (host.env authorized) m l.timestamp
      (l.storage.hasUsedCharge mandateId chargeId) amount with
  | error f =>
      obtain ⟨e', hmem, rfl⟩ := mem_liftingErrors hearly.toInOrder hterms hunexpired hchecks
      rw [Api.invoke_charge_refused hearly.stored hchecks] at herror
      obtain rfl := Failure.err.inj (Except.error.inj herror)
      exact hmem
  | ok checked =>
      -- a charge that is in order and timely is accepted
      have hc := chargeChecks_ok.mp hchecks
      have hcap := hc.below_cap
      rw [hc.collected_eq, Api.effectivePeriodCollected_val hterms.period_pos hc.period_eq] at hcap
      obtain ⟨v, hv⟩ := (accepted_iff hbooks invoiceHash).mpr ⟨m, hearly.toInOrder,
        Web.firstCandidate_le_iff.mpr ⟨hc.started, hc.spaced⟩, hunexpired, hcap⟩
      cases hv.symm.trans herror

end

/-! ## Five seconds too soon

The mandate of `mockInput` wants ten seconds between two charges. One is made at time `0`, and another, of
`3`, is tried at time `5`. -/

def earlyRun : List (Step MockToken) :=
  [mockCreation, .call (mockCharge ⟨1⟩ ((MachineInt.ofInt? 5).getD 0)),
    .close ((MachineInt.ofInt? 5).getD 0)]

def earlyCharge : Call := mockCharge ⟨2⟩ ((MachineInt.ofInt? 3).getD 0)

/-- **The failure is permanent, and not hopeless.** -/
theorem too_soon_not_hopeless :
    (invoke mockHost earlyCharge (run mockHost mockStart earlyRun)).1 = .error (.err .chargeTooSoon) ∧
    classifyContractErrorName (contractErrorName .chargeTooSoon) = .ok ⟨.permanent, "ChargeTooSoon"⟩ ∧
    ¬ Hopeless mockHost (run mockHost mockStart earlyRun) earlyCharge := by
  refine ⟨by decide, Relayer.classify_contractErrorName .chargeTooSoon, fun h => ?_⟩
  obtain ⟨f, hf⟩ := h (.lit 20 (by decide)) (by decide)
  have haccepted : (invoke mockHost earlyCharge { run mockHost mockStart earlyRun with
      timestamp := .lit 20 (by decide) }).1.toOption.isSome = true := by decide
  rw [hf] at haccepted
  cases haccepted

theorem permanent_hopeless_iff_early :
    (Hopeless mockHost (run mockHost mockStart earlyRun) earlyCharge ↔
      ¬ ∃ m, OnlyEarly mockHost (run mockHost mockStart earlyRun) [⟨2⟩] mockId ⟨2⟩
        ((MachineInt.ofInt? 3).getD 0) m) ∧
    ((∃ m, OnlyEarly mockHost (run mockHost mockStart earlyRun) [⟨2⟩] mockId ⟨2⟩
      ((MachineInt.ofInt? 3).getD 0) m) → Error.chargeTooSoon ∈ liftingErrors) :=
  permanent_hopeless_iff encodeDigest_injective _ mockFunds earlyRun mockId ⟨2⟩ ⟨0⟩
    ((MachineInt.ofInt? 3).getD 0) [⟨2⟩]
    (show classifyContractErrorName "ChargeTooSoon" = .ok ⟨.permanent, "ChargeTooSoon"⟩ by
      decide +kernel)
    (by decide)

end Paymap.Permanence
