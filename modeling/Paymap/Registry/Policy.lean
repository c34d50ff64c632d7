import Paymap.Registry.Books
import Paymap.Token.Mock

set_option autoImplicit false

/-! # A charge is accepted exactly when the policy says so

`ChargePolicy` is the charging policy over the integers and over the receipts: no width, no stored
period, no overflow. In every reachable state the contract accepts exactly the charges the policy
allows, so the checked arithmetic decides nothing by itself. Step 11
never fails. The one addition of step 12 can overflow, but only for a charge that is over the
period cap anyway.
-/

namespace Paymap.Registry

open History (gridFloor)

section

variable {T : Type} {host : Host T}

/-- The charging policy, for a charge of `amount` against `m`. -/
structure ChargePolicy (host : Host T) (l : Ledger T) (authorized : List Address)
    (mandateId chargeId : BytesN) (amount : I128) (m : Mandate) : Prop where
  stored : l.storage.getMandate mandateId = some m
  active : effectiveStatus m l.timestamp = .active
  started : m.startAt.val ≤ l.timestamp.val
  unexpired : l.timestamp.val < m.expiresAt.val
  merchant_auth : m.merchant ∈ authorized
  unused : ¬ l.storage.hasUsedCharge mandateId chargeId
  positive : 0 < amount.val
  admitted : m.amountRule.Admits amount
  spaced : ∀ last, m.lastChargedAt = some last →
    last.val + m.minIntervalSeconds.val ≤ l.timestamp.val
  below_count :
    m.maxSuccessfulCharges.val ≠ 0 → m.successfulCharges.val < m.maxSuccessfulCharges.val
  /-- The receipts of the period `now` is in leave room for the amount. -/
  below_cap : ∀ n : ℕ, m.startAt.val + n * m.periodSeconds.val ≤ l.timestamp.val →
    l.timestamp.val < m.startAt.val + (n + 1) * m.periodSeconds.val →
    m.terms.collectedDuring (l.storage.receiptsOf mandateId) n + amount.val ≤ m.maxPerPeriod.val
  paid : ∃ t, ChargePaid (host.env authorized) l.token m amount t
  count_fits : ∃ n : U32, n.val = m.successfulCharges.val + 1
  total_fits : ∃ x : I128, x.val = m.totalCollected.val + amount.val

/-! ## The period of `now` -/

/-- From the start on, `now` lies in exactly the period whose start is the grid point of `now`. -/
theorem exists_period {t : Terms} (hv : t.Valid) {now : Int} (hle : t.startAt.val ≤ now) :
    ∃ n : ℕ, t.startAt.val + n * t.periodSeconds.val ≤ now ∧
      now < t.startAt.val + (n + 1) * t.periodSeconds.val := by
  have hq : 0 ≤ (now - t.startAt.val) / t.periodSeconds.val :=
    Int.ediv_nonneg (by omega) hv.period_pos.le
  refine ⟨((now - t.startAt.val) / t.periodSeconds.val).toNat, ?_⟩
  rw [Int.toNat_of_nonneg hq, ← History.gridFloor_eq_iff _ hv.period_pos]
  rfl

/-- The policy's period sum is the one the contract computes. -/
theorem below_cap_iff {now : U64} {m : Mandate} {h : List PaymentReceipt} {amount : Int}
    (hb : MandateBooks now m h) {period : BillingPeriod}
    (hperiod : billingPeriod m now = .ok period) :
    (∀ n : ℕ, m.startAt.val + n * m.periodSeconds.val ≤ now.val →
      now.val < m.startAt.val + (n + 1) * m.periodSeconds.val →
      m.terms.collectedDuring h n + amount ≤ m.maxPerPeriod.val) ↔
    (effectivePeriodCollected m period).val + amount ≤ m.maxPerPeriod.val := by
  have hpos : 0 < m.periodSeconds.val := hb.terms.period_pos
  obtain ⟨hstart, -, -⟩ := (billingPeriod_ok hpos).mp hperiod
  -- in the period of `now` both sums are over the same grid point
  have hsum : ∀ n : ℕ, m.startAt.val + n * m.periodSeconds.val ≤ now.val →
      now.val < m.startAt.val + (n + 1) * m.periodSeconds.val →
      m.terms.collectedDuring h n = (effectivePeriodCollected m period).val := by
    intro n h₁ h₂
    have hgrid := (History.gridFloor_eq_iff _ hpos n now.val).mpr ⟨h₁, h₂⟩
    rw [hb.effectivePeriodCollected_eq hperiod, hgrid, m.terms.collectedDuring_eq hb.terms]
    rfl
  constructor
  · intro hcap
    obtain ⟨n, h₁, h₂⟩ := exists_period hb.terms hstart
    rw [← hsum n h₁ h₂]
    exact hcap n h₁ h₂
  · intro hcap n h₁ h₂
    rw [hsum n h₁ h₂]
    exact hcap

/-- The accounting succeeds when both counters have room. -/
theorem exists_accounted {m : Mandate} (period : BillingPeriod) (collected : I128) {amount : I128}
    (now : U64) (hcount : ∃ n : U32, n.val = m.successfulCharges.val + 1)
    (htotal : ∃ x : I128, x.val = m.totalCollected.val + amount.val) :
    ∃ m', Accounted m period collected amount now m' := by
  obtain ⟨n, hn⟩ := hcount
  obtain ⟨x, hx⟩ := htotal
  exact ⟨_, account_ok.mp (Tx.bind_ok.mpr ⟨n, checkedAddU32_ok.mpr hn,
    Tx.bind_ok.mpr ⟨x, checkedAddI128_ok.mpr hx, rfl⟩⟩)⟩

/-! ## The verdict -/

theorem charge_accepted_iff_policy {l : Ledger T} (hbooks : Books host l)
    (mandateId chargeId invoiceHash : BytesN) (amount : I128) (authorized : List Address) :
    (∃ v, (invoke host ⟨.charge mandateId chargeId amount invoiceHash, authorized⟩ l).1 = .ok v) ↔
      ∃ m, ChargePolicy host l authorized mandateId chargeId amount m := by
  constructor
  · rintro ⟨v, hv⟩
    obtain ⟨l', -, heffect⟩ := exists_effect hv
    cases heffect with
    | charged _ _ _ _ m period collected t m' hm hc hpaid ha =>
        have hcap := hc.below_cap
        rw [hc.collected_eq, ← below_cap_iff (hbooks.mandate hm) hc.period_eq] at hcap
        exact ⟨m, hm, hc.active, hc.started, hc.unexpired, hc.merchant_auth,
          by simp [hc.unused], hc.positive, hc.admitted, hc.spaced, hc.below_count, hcap,
          ⟨t, hpaid⟩, ⟨m'.successfulCharges, ha.count_eq⟩, ⟨m'.totalCollected, ha.total_eq⟩⟩
  · rintro ⟨m, hp⟩
    have hb := hbooks.mandate hp.stored
    obtain ⟨period, hperiod⟩ := exists_billingPeriod hb.terms.period_pos hp.started
    have hcap := (below_cap_iff hb hperiod).mp hp.below_cap
    -- the sum of step 12 is below the cap, so it fits
    have hlo := (effectivePeriodCollected m period).lo_le
    have hhi := m.maxPerPeriod.le_hi
    have hpos := hp.positive
    let collected : I128 :=
      ⟨(effectivePeriodCollected m period).val + amount.val, by omega, by omega⟩
    obtain ⟨t, hpaid⟩ := hp.paid
    obtain ⟨m', ha⟩ := exists_accounted period collected l.timestamp hp.count_fits hp.total_fits
    have hc : Chargeable authorized m l.timestamp
        (l.storage.hasUsedCharge mandateId chargeId) amount period collected :=
      ⟨hp.active, hp.started, hp.unexpired, hp.merchant_auth, by simpa using hp.unused, hpos,
        hp.admitted, hp.spaced, hp.below_count, hperiod, rfl, hcap⟩
    exact ⟨_, congrArg Prod.fst (invoke_ok.mpr
      (.charged mandateId chargeId amount invoiceHash m period collected t m' hp.stored hc hpaid
        ha))⟩

/-- Step 12 overflows only over the cap. -/
theorem overflow_only_over_cap {now : U64} {m : Mandate} {h : List PaymentReceipt}
    (hb : MandateBooks now m h) {period : BillingPeriod} {amount : I128} {f : Failure}
    (hperiod : billingPeriod m now = .ok period) (hpos : 0 < amount.val)
    (hfail : checkedAddI128 (effectivePeriodCollected m period) amount = .error f) :
    ∃ n : ℕ, m.startAt.val + n * m.periodSeconds.val ≤ now.val ∧
      now.val < m.startAt.val + (n + 1) * m.periodSeconds.val ∧
      m.maxPerPeriod.val < m.terms.collectedDuring h n + amount.val := by
  obtain ⟨hout, -⟩ := orOverflow_ofInt?_error.mp hfail
  have hlo := (effectivePeriodCollected m period).lo_le
  have hhi := m.maxPerPeriod.le_hi
  have hover : ¬ (effectivePeriodCollected m period).val + amount.val ≤ m.maxPerPeriod.val := by
    omega
  rw [← below_cap_iff hb hperiod] at hover
  push Not at hover
  exact hover

/-- **The checked arithmetic never changes a verdict.** In every reachable state a charge is
accepted exactly when the policy over the integers allows it; step 11 never overflows, underflows
or divides by zero; and step 12 overflows only when the period cap is exceeded anyway. -/
theorem charge_accepted_iff (hinj : Function.Injective host.sha256) (t₀ : U64) (tok₀ : T)
    (steps : List (Step T)) :
    let l := run host (genesis t₀ tok₀) steps
    (∀ (mandateId chargeId invoiceHash : BytesN) (amount : I128) (authorized : List Address),
      (∃ v, (invoke host ⟨.charge mandateId chargeId amount invoiceHash, authorized⟩ l).1
        = .ok v) ↔ ∃ m, ChargePolicy host l authorized mandateId chargeId amount m) ∧
    ∀ (id : BytesN) (m : Mandate), l.storage.getMandate id = some m →
      m.startAt.val ≤ l.timestamp.val →
      ∃ period, billingPeriod m l.timestamp = .ok period ∧
        ∀ (amount : I128) (f : Failure), 0 < amount.val →
          checkedAddI128 (effectivePeriodCollected m period) amount = .error f →
          ∃ n : ℕ, m.startAt.val + n * m.periodSeconds.val ≤ l.timestamp.val ∧
            l.timestamp.val < m.startAt.val + (n + 1) * m.periodSeconds.val ∧
            m.maxPerPeriod.val
              < m.terms.collectedDuring (l.storage.receiptsOf id) n + amount.val := by
  intro l
  have hbooks : Books host l := books_run hinj t₀ tok₀ steps
  refine ⟨charge_accepted_iff_policy hbooks, fun id m hm hstart => ?_⟩
  have hb := hbooks.mandate hm
  obtain ⟨period, hperiod⟩ := exists_billingPeriod hb.terms.period_pos hstart
  exact ⟨period, hperiod, fun amount f hpos hfail => overflow_only_over_cap hb hperiod hpos hfail⟩

end

theorem charge_accepted_iff_mock :
    ∃ m, ChargePolicy mockHost (run mockHost mockStart [mockCreation]) [⟨2⟩] mockId ⟨1⟩
      (.lit 5 (by decide)) m :=
  ((charge_accepted_iff encodeDigest_injective _ mockFunds [mockCreation]).1 mockId ⟨1⟩ ⟨0⟩
    (.lit 5 (by decide)) [⟨2⟩]).mp ⟨_, rfl⟩

/-! ## Step 12 can overflow -/

/-- The largest `i128`. -/
def maxI128 : I128 := ⟨170141183460469231731687303715884105727, by decide, le_rfl⟩

/-- A mandate without a limit: every amount up to the largest, in periods of `100` seconds. -/
def unboundedInput : MandateInput :=
  { mockInput with
    amountRule := .variableUpTo maxI128
    maxPerPeriod := maxI128
    minIntervalSeconds := 0
    maxSuccessfulCharges := 0 }

/-- Enough for any one charge. -/
def unboundedFunds : MockToken :=
  { mockFunds with
    balances := (∅ : FinMap (Address × Address) I128).insert (⟨3⟩, ⟨1⟩) maxI128
    allowances := (∅ : FinMap (Address × Address × Address) I128).insert (⟨3⟩, ⟨1⟩, ⟨0⟩) maxI128 }

/-- **The addition of step 12 does overflow in a reachable state**: all but `5` of the largest
amount has been collected in a period, and `10` more is asked for in the same period. Step 11
succeeds, and the call is answered `ArithmeticOverflow`. -/
theorem step12_overflows :
    let l := run mockHost (genesis (.lit 0 (by decide)) unboundedFunds)
      [.call ⟨.createMandate unboundedInput, [⟨1⟩]⟩,
        .call (mockCharge ⟨1⟩ (.lit 170141183460469231731687303715884105722 (by decide)))]
    ((l.storage.getMandate mockId).bind fun m => (billingPeriod m l.timestamp).toOption.map
      fun period => checkedAddI128 (effectivePeriodCollected m period) (.lit 10 (by decide)))
      = some (.error (.err .arithmeticOverflow)) ∧
    (invoke mockHost (mockCharge ⟨2⟩ (.lit 10 (by decide))) l).1
      = .error (.err .arithmeticOverflow) := by
  decide

end Paymap.Registry
