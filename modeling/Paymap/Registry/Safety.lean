import Paymap.Registry.Books
import Paymap.Token.Mock

set_option autoImplicit false

/-! # Safety of every run

The results on runs that the books give: the counters of a record count its receipts, no billing
period ever collects more than its cap, and every receipt is within the terms, spaced and counted.
The runs are of any length, over any number of mandates, with arbitrary tokens.
-/

namespace Paymap.Registry

section

variable {T : Type} {host : Host T}

/-! ## The books, receipt by receipt -/

/-- **The books match the receipts.** In every reachable state the record of a mandate counts its
stored receipts, sums them and knows the latest; the replay guard of a charge is set exactly when
its receipt is stored, and the receipt is of that mandate, that charge and those parties. -/
theorem counters_match_receipts (hinj : Function.Injective host.sha256) (t₀ : U64) (tok₀ : T)
    (steps : List (Step T)) {id : BytesN} {m : Mandate}
    (hm : (run host (genesis t₀ tok₀) steps).storage.getMandate id = some m) :
    let s := (run host (genesis t₀ tok₀) steps).storage
    m.id = id ∧
    m.successfulCharges.val = (s.receiptsOf m.id).length ∧
    m.totalCollected.val = ((s.receiptsOf m.id).map fun r => r.amount.val).sum ∧
    (m.lastChargedAt = none ↔ s.receiptsOf m.id = []) ∧
    (∀ t, m.lastChargedAt = some t → (∃ r ∈ s.receiptsOf m.id, r.timestamp = t) ∧
      ∀ r ∈ s.receiptsOf m.id, r.timestamp ≤ t) ∧
    ∀ c, (s.hasUsedCharge m.id c ↔ ∃ r, s.getPayment (host.derivePaymentId m.id c) = some r) ∧
      ∀ r, s.getPayment (host.derivePaymentId m.id c) = some r →
        r.mandateId = m.id ∧ r.chargeId = c ∧
        r.payer = m.payer ∧ r.merchant = m.merchant ∧ r.asset = m.asset := by
  intro s
  have hbooks := books_run hinj t₀ tok₀ steps
  obtain rfl := hbooks.mandate_id hm
  have hb := hbooks.mandate hm
  have hlatest := hb.latest
  refine ⟨rfl, hb.count_eq, hb.total_eq, ?_, ?_, ?_⟩
  · -- `lastChargedAt` is the latest receipt's time, and absent when there is none
    cases hlast : m.lastChargedAt with
    | none =>
        rw [hlast] at hlatest
        exact iff_of_true rfl hlatest
    | some t =>
        rw [hlast] at hlatest
        obtain ⟨⟨r, hr, -⟩, -⟩ := hlatest
        exact iff_of_false (by simp) (List.ne_nil_of_mem hr)
  · intro t hlast
    rw [hlast] at hlatest
    obtain ⟨⟨r, hr, heq⟩, hmax⟩ := hlatest
    exact ⟨⟨r, hr, MachineInt.ext heq⟩, hmax⟩
  · intro c
    refine ⟨hbooks.used_iff m.id c, fun r hr => ?_⟩
    obtain ⟨-, hderive⟩ := hbooks.payment_id hr
    obtain ⟨hmid, hcid⟩ := Host.derivePaymentId_inj hinj hderive
    have hallows := hb.each r (mem_receiptsOf.mpr ⟨⟨_, hr⟩, hmid.symm⟩)
    exact ⟨hmid.symm, hcid.symm, hallows.payer_eq, hallows.merchant_eq, hallows.asset_eq⟩

theorem counters_match_receipts_mock :
    ∃ m, (run mockHost mockStart mockRun).storage.getMandate mockId = some m ∧
      m.successfulCharges.val
        = ((run mockHost mockStart mockRun).storage.receiptsOf m.id).length := by
  obtain ⟨m, hm⟩ : ∃ m, (run mockHost mockStart mockRun).storage.getMandate mockId = some m :=
    Option.isSome_iff_exists.mp (by decide)
  exact ⟨m, hm, (counters_match_receipts encodeDigest_injective _ _ mockRun hm).2.1⟩

/-! ## Billing periods -/

/-- **No billing period collects more than its cap**, whatever happened between the charges; and
the stored period is one of the periods, with exactly what its receipts add up to. -/
theorem period_cap (hinj : Function.Injective host.sha256) (t₀ : U64) (tok₀ : T)
    (steps : List (Step T)) {id : BytesN} {m : Mandate}
    (hm : (run host (genesis t₀ tok₀) steps).storage.getMandate id = some m) :
    let h := (run host (genesis t₀ tok₀) steps).storage.receiptsOf id
    (∀ n : ℕ, m.terms.collectedDuring h n ≤ m.maxPerPeriod.val) ∧
    ∃ k : ℕ, m.currentPeriodStart.val = m.startAt.val + k * m.periodSeconds.val ∧
      m.currentPeriodCollected.val = m.terms.collectedDuring h k := by
  intro h
  have hb := (books_run hinj t₀ tok₀ steps).mandate hm
  constructor
  · intro n
    rw [m.terms.collectedDuring_eq hb.terms]
    exact hb.capped _
  · obtain ⟨k, hk⟩ := hb.on_grid
    refine ⟨k, hk, ?_⟩
    rw [m.terms.collectedDuring_eq hb.terms]
    have hsum := hb.tracks.sum_eq
    rw [show m.counter.bucket = _ from hk] at hsum
    exact hsum

theorem period_cap_mock :
    ∃ m, (run mockHost mockStart mockRun).storage.getMandate mockId = some m ∧
      ∀ n : ℕ, m.terms.collectedDuring
        ((run mockHost mockStart mockRun).storage.receiptsOf mockId) n ≤ m.maxPerPeriod.val := by
  obtain ⟨m, hm⟩ : ∃ m, (run mockHost mockStart mockRun).storage.getMandate mockId = some m :=
    Option.isSome_iff_exists.mp (by decide)
  exact ⟨m, hm, (period_cap encodeDigest_injective _ _ mockRun hm).1⟩

/-! ## Terms, spacing and count -/

/-- The pure checks do not answer `chargeCountExceeded` when an effectively active record has not
reached its count: no other step answers it. -/
theorem chargeChecks_ne_countExceeded {env : Env T} {m : Mandate} {now : U64} {used : Bool}
    {amount : I128}
    (hopen : effectiveStatus m now = .active → m.maxSuccessfulCharges.val ≠ 0 →
      m.successfulCharges.val < m.maxSuccessfulCharges.val) :
    chargeChecks env m now used amount ≠ .error (.err .chargeCountExceeded) := by
  unfold chargeChecks
  refine Tx.bind_ne_error ?_ fun _ hactive => ?_
  · cases effectiveStatus m now <;> simp [requireActive]
  have hcount := hopen (requireActive_ok.mp hactive)
  -- the window, the merchant's authorization, the replay guard, the amount
  refine Tx.bind_ne_error (by simp) fun _ _ => ?_
  refine Tx.bind_ne_error (by simp) fun _ _ => ?_
  refine Tx.bind_ne_error (by simp [Env.requireAuth]) fun _ _ => ?_
  refine Tx.bind_ne_error (by simp) fun _ _ => ?_
  refine Tx.bind_ne_error (by simp) fun _ _ => ?_
  refine Tx.bind_ne_error ?_ fun _ _ => ?_
  · cases hrule : m.amountRule <;> simp [checkAmountRule]
  refine Tx.bind_ne_error ?_ fun _ _ => ?_
  · unfold checkInterval
    split
    · simp
    · exact Tx.bind_ne_error (by simp [checkedAddU64, orOverflow]) fun _ _ => by simp
  refine Tx.bind_ne_error ?_ fun _ _ => ?_
  · -- the one step that answers it
    unfold checkCount
    simp only [ne_eq, Tx.rejectIf_error, MachineInt.le_def]
    omega
  refine Tx.bind_ne_error ?_ fun _ _ => ?_
  · unfold billingPeriod
    refine Tx.bind_ne_error (by simp [checkedSubU64, orOverflow]) fun _ _ => ?_
    refine Tx.bind_ne_error ?_ fun _ _ => ?_
    · unfold divU64
      split <;> simp
    refine Tx.bind_ne_error (by simp [checkedMulU64, orOverflow]) fun _ _ => ?_
    exact Tx.bind_ne_error (by simp [checkedAddU64, orOverflow]) fun _ _ h => by cases h
  refine Tx.bind_ne_error (by simp [checkedAddI128, orOverflow]) fun _ _ => ?_
  exact Tx.bind_ne_error (by simp) fun _ _ h => by cases h

/-- An effectively active record has not reached its count. -/
theorem MandateBooks.below_count_of_active {now : U64} {m : Mandate} {h : List PaymentReceipt}
    (hb : MandateBooks now m h) (hactive : effectiveStatus m now = .active)
    (hne : m.maxSuccessfulCharges.val ≠ 0) :
    m.successfulCharges.val < m.maxSuccessfulCharges.val := by
  have hopen : m.status ≠ .completed := by
    rw [(effectiveStatus_eq_active.mp hactive).1]
    decide
  have hle := hb.below_count hne
  have hcount : m.successfulCharges.val ≠ m.maxSuccessfulCharges.val :=
    fun heq => hopen (hb.completed_iff.mpr ⟨hne, heq⟩)
  omega

/-- **Every receipt is within its terms, the receipts are spaced and counted, and completion is
reaching the count.** In particular no charge is ever answered `ChargeCountExceeded`: the status
check is there first. -/
theorem charge_safety (hinj : Function.Injective host.sha256) (t₀ : U64) (tok₀ : T)
    (steps : List (Step T)) :
    let l := run host (genesis t₀ tok₀) steps
    (∀ {id : BytesN} {m : Mandate}, l.storage.getMandate id = some m →
      (∀ r ∈ l.storage.receiptsOf id,
        m.startAt.val ≤ r.timestamp.val ∧ r.timestamp.val < m.expiresAt.val ∧ 0 < r.amount.val ∧
        match m.amountRule with
        | .fixed amount => r.amount = amount
        | .variableUpTo maxPerCharge => r.amount.val ≤ maxPerCharge.val) ∧
      (∀ r₁ ∈ l.storage.receiptsOf id, ∀ r₂ ∈ l.storage.receiptsOf id, r₁ ≠ r₂ →
        r₁.timestamp.val + m.minIntervalSeconds.val ≤ r₂.timestamp.val ∨
        r₂.timestamp.val + m.minIntervalSeconds.val ≤ r₁.timestamp.val) ∧
      (m.maxSuccessfulCharges.val ≠ 0 →
        m.successfulCharges.val ≤ m.maxSuccessfulCharges.val) ∧
      (m.status = .completed ↔ m.maxSuccessfulCharges.val ≠ 0 ∧
        m.successfulCharges.val = m.maxSuccessfulCharges.val)) ∧
    ∀ (mandateId chargeId invoiceHash : BytesN) (amount : I128) (authorized : List Address),
      (invoke host ⟨.charge mandateId chargeId amount invoiceHash, authorized⟩ l).1
        ≠ .error (.err .chargeCountExceeded) := by
  intro l
  have hbooks : Books host l := books_run hinj t₀ tok₀ steps
  constructor
  · intro id m hm
    have hb := hbooks.mandate hm
    refine ⟨fun r hr => ?_, fun r₁ h₁ r₂ h₂ hne => (hb.spaced.apart h₁ h₂ hne).symm,
      hb.below_count, hb.completed_iff⟩
    have hallows := hb.each r hr
    refine ⟨hallows.started, hallows.unexpired, hallows.positive, ?_⟩
    have hadmitted : m.amountRule.Admits r.amount := hallows.admitted
    cases hrule : m.amountRule with
    | fixed amount => rwa [hrule] at hadmitted
    | variableUpTo maxPerCharge => rwa [hrule] at hadmitted
  · -- an active mandate has charges left, so step 10 never refuses
    intro mandateId chargeId invoiceHash amount authorized h
    cases chargeFailure_of_error h with
    | checks m _ hm hanswer =>
        refine chargeChecks_ne_countExceeded (fun hactive hne => ?_) hanswer
        exact (hbooks.mandate hm).below_count_of_active hactive hne

theorem charge_safety_mock :
    (run mockHost mockStart mockRun).storage.hasUsedCharge mockId ⟨1⟩ = true ∧
    ∀ (mandateId chargeId invoiceHash : BytesN) (amount : I128) (authorized : List Address),
      (invoke mockHost ⟨.charge mandateId chargeId amount invoiceHash, authorized⟩
        (run mockHost mockStart mockRun)).1 ≠ .error (.err .chargeCountExceeded) :=
  ⟨by decide, (charge_safety encodeDigest_injective _ _ mockRun).2⟩

end

end Paymap.Registry
