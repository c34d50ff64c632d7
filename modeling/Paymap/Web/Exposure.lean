import Paymap.Registry.Record
import Paymap.Web.MandateTerms

set_option autoImplicit false

/-! # The disclosed exposure is a bound

The checkout shows the payer a closed form over the whole life of a mandate:
`min (perCharge * count) (cap * periods)`. It is never exceeded. Every charge is at most `perCharge`,
and there are at most `count` of them; every receipt falls into one of the periods that begin before
the mandate expires, and none of these collects more than `cap`.
-/

namespace Paymap.Registry

/-! ## What the books bound -/

section

variable {now : U64} {m : Mandate} {h : List PaymentReceipt}

theorem MandateBooks.total_nonneg (hb : MandateBooks now m h) : 0 ≤ m.totalCollected.val := by
  rw [hb.total_eq]
  exact List.sum_nonneg (List.forall_mem_map.mpr fun r hr => (hb.each r hr).positive.le)

/-- Each charge collects at most the most that a charge can. -/
theorem MandateBooks.total_le_count (hb : MandateBooks now m h) :
    m.totalCollected.val ≤ m.amountRule.perChargeCap.val * m.successfulCharges.val := by
  have hsum := List.sum_le_card_nsmul (h.map fun r => r.amount.val) m.amountRule.perChargeCap.val
    (List.forall_mem_map.mpr fun r hr => (hb.each r hr).admitted.le_cap)
  rw [List.length_map, nsmul_eq_mul, mul_comm] at hsum
  rw [hb.total_eq, hb.count_eq]
  exact hsum

/-- `n` periods that last until the mandate expires collect at most `n` times the cap. -/
theorem MandateBooks.total_le_periods (hb : MandateBooks now m h) {n : ℕ}
    (hn : m.expiresAt.val - m.startAt.val ≤ n * m.periodSeconds.val) :
    m.totalCollected.val ≤ m.maxPerPeriod.val * n := by
  have hpoints : ∀ r ∈ h,
      m.terms.periodOf r ∈ History.gridPoints m.startAt.val m.periodSeconds.val n := by
    intro r hr
    have hstarted : m.startAt.val ≤ r.timestamp.val := (hb.each r hr).started
    have hunexpired : r.timestamp.val < m.expiresAt.val := (hb.each r hr).unexpired
    have hcovered : r.timestamp.val < m.startAt.val + n * m.periodSeconds.val := by omega
    exact History.gridFloor_mem_gridPoints _ hb.terms.period_pos hstarted hcovered
  have hcap : 0 ≤ m.maxPerPeriod.val := hb.terms.cap_pos.le.trans hb.terms.cap_le
  have htotal := hb.capped.total_le hpoints
  rw [nsmul_eq_mul, mul_comm] at htotal
  rw [hb.total_eq]
  refine htotal.trans (mul_le_mul_of_nonneg_left ?_ hcap)
  exact_mod_cast History.card_gridPoints_le _ _ n

end

/-- A created record is there for good, with the terms it was created with. -/
theorem created_run {T : Type} {host : Host T} (hinj : Function.Injective host.sha256)
    {l : Ledger T} (hb : Books host l) {input : MandateInput} {authorized : List Address}
    {id : BytesN} (hcreated : (invoke host ⟨.createMandate input, authorized⟩ l).1
      = .ok (.mandateId id)) (after : List (Step T)) :
    ∃ m, (run host (exec host l (.call ⟨.createMandate input, authorized⟩)) after).storage.getMandate
        id = some m ∧ m.terms = (newMandate id l.timestamp input).terms := by
  obtain ⟨l', hinvoke, heffect⟩ := exists_effect hcreated
  have hexec : exec host l (.call ⟨.createMandate input, authorized⟩) = l' :=
    congrArg Prod.snd hinvoke
  have hb' := books_exec hinj hb (.call ⟨.createMandate input, authorized⟩)
  rw [hexec] at hb' ⊢
  cases heffect with
  | created _ _ _ _ =>
      have hstored : (createdLedger host l input).storage.getMandate (host.inputId input)
          = some (newMandate (host.inputId input) l.timestamp input) := by
        rw [getMandate_createdLedger, if_pos rfl]
      exact record_run hinj (fun _ hterms hmove => hmove.terms_eq.trans hterms) hb' hstored rfl after

end Paymap.Registry

namespace Paymap.Web

open Registry

/-! ## The bound -/

/-- The terms of a contract input, for an asset with these decimals. -/
def MandateTerms.ofInput (input : MandateInput) (assetDecimals : ℤ) : MandateTerms where
  assetAddress := input.asset
  assetDecimals := assetDecimals
  amountRule := Client.toDomainAmountRule input.amountRule
  maxPerPeriod := input.maxPerPeriod.val
  periodSeconds := input.periodSeconds.val
  minIntervalSeconds := input.minIntervalSeconds.val
  maxSuccessfulCharges := input.maxSuccessfulCharges.val
  startAt := input.startAt.val
  expiresAt := input.expiresAt.val

theorem perChargeCeiling_toDomain (rule : AmountRule) :
    perChargeCeiling (Client.toDomainAmountRule rule) = rule.perChargeCap.val := by
  cases rule with
  | fixed amount => rfl
  | variableUpTo maxPerCharge => rfl

/-- The terms of a record. -/
def MandateTerms.ofTerms (t : Terms) (assetDecimals : ℤ) : MandateTerms where
  assetAddress := t.asset
  assetDecimals := assetDecimals
  amountRule := Client.toDomainAmountRule t.amountRule
  maxPerPeriod := t.maxPerPeriod.val
  periodSeconds := t.periodSeconds.val
  minIntervalSeconds := t.minIntervalSeconds.val
  maxSuccessfulCharges := t.maxSuccessfulCharges.val
  startAt := t.startAt.val
  expiresAt := t.expiresAt.val

theorem MandateTerms.ofInput_eq_ofTerms {t : Terms} {id : BytesN} {now : U64} {input : MandateInput}
    (h : t = (newMandate id now input).terms) (assetDecimals : ℤ) :
    MandateTerms.ofInput input assetDecimals = MandateTerms.ofTerms t assetDecimals := by
  rw [h]
  rfl

/-- Valid terms have an exposure: whatever is within the bound of the periods, and within that of the
charges when they are counted. -/
theorem exists_exposure {t : Terms} (hv : t.Valid) (assetDecimals : ℤ) :
    ∃ (n : ℕ) (exposure : ℤ), t.expiresAt.val - t.startAt.val ≤ n * t.periodSeconds.val ∧
      computeMaxExposure (.ofTerms t assetDecimals) = .ok exposure ∧
      ∀ x, x ≤ t.maxPerPeriod.val * n →
        (t.maxSuccessfulCharges.val ≠ 0 →
          x ≤ t.amountRule.perChargeCap.val * t.maxSuccessfulCharges.val) → x ≤ exposure := by
  have hpos : 0 < (MandateTerms.ofTerms t assetDecimals).periodSeconds := hv.period_pos
  have hlt : (MandateTerms.ofTerms t assetDecimals).startAt
      < (MandateTerms.ofTerms t assetDecimals).expiresAt := hv.start_lt
  obtain ⟨periods, hcovers, hexposure⟩ := computeMaxExposure_eq hpos hlt
  have hlasts := hcovers.covers
  -- at least one period begins before the mandate expires
  have hsome : 0 < periods := (mul_pos_iff_of_pos_right hpos).mp (by omega)
  obtain ⟨n, rfl⟩ := Int.eq_ofNat_of_zero_le hsome.le
  refine ⟨n, _, hlasts, hexposure, fun x hperiods hcount => ?_⟩
  by_cases hunlimited : t.maxSuccessfulCharges.val = 0
  · rw [if_pos (show (MandateTerms.ofTerms t assetDecimals).maxSuccessfulCharges = 0 from hunlimited)]
    exact hperiods
  · rw [if_neg (show (MandateTerms.ofTerms t assetDecimals).maxSuccessfulCharges ≠ 0 from hunlimited)]
    refine le_min ?_ hperiods
    have hceiling : perChargeCeiling (MandateTerms.ofTerms t assetDecimals).amountRule
        = t.amountRule.perChargeCap.val := perChargeCeiling_toDomain t.amountRule
    rw [hceiling]
    exact hcount hunlimited

/-- The exposure is a bound on the books. -/
theorem exposure_of_books {now : U64} {m : Mandate} {h : List PaymentReceipt}
    (hb : MandateBooks now m h) (assetDecimals : ℤ) :
    ∃ exposure, computeMaxExposure (.ofTerms m.terms assetDecimals) = .ok exposure ∧
      m.totalCollected.val ≤ exposure := by
  obtain ⟨n, exposure, hlasts, hexposure, hbound⟩ := exists_exposure hb.terms assetDecimals
  refine ⟨exposure, hexposure, hbound _ (hb.total_le_periods hlasts) fun hne => ?_⟩
  have hbelow := hb.below_count hne
  exact hb.total_le_count.trans (mul_le_mul_of_nonneg_left hbelow hb.terms.cap_pos.le)

/-- **The disclosed exposure is a true bound.** Whatever happens after a mandate is created, and
whenever, it has collected at most the exposure of its terms, which is at most the allowance that the
checkout asks for. -/
theorem collected_le_exposure {T : Type} {host : Host T} (hinj : Function.Injective host.sha256)
    (t₀ : U64) (tok₀ : T) (before after : List (Step T)) {input : MandateInput}
    {authorized : List Address} {id : BytesN}
    (hcreated : (invoke host ⟨.createMandate input, authorized⟩
      (run host (genesis t₀ tok₀) before)).1 = .ok (.mandateId id)) (assetDecimals : ℤ) :
    ∃ m exposure allowance,
      (run host (exec host (run host (genesis t₀ tok₀) before)
        (.call ⟨.createMandate input, authorized⟩)) after).storage.getMandate id = some m ∧
      computeMaxExposure (.ofInput input assetDecimals) = .ok exposure ∧
      computeBoundedAllowance exposure = .ok allowance ∧
      m.totalCollected.val ≤ exposure ∧ exposure ≤ allowance.total := by
  have hbefore : Books host (run host (genesis t₀ tok₀) before) := books_run hinj t₀ tok₀ before
  obtain ⟨m, hm, hterms⟩ := created_run hinj hbefore hcreated after
  have hbooks : Books host (run host (exec host (run host (genesis t₀ tok₀) before)
      (.call ⟨.createMandate input, authorized⟩)) after) :=
    Runs.run_invariant (P := Books host) (fun _ step h => books_exec hinj h step)
      (books_exec hinj hbefore _) after
  have hb := hbooks.mandate hm
  obtain ⟨exposure, hexposure, hle⟩ := exposure_of_books hb assetDecimals
  rw [← MandateTerms.ofInput_eq_ofTerms hterms] at hexposure
  have hnonneg : 0 ≤ exposure := hb.total_nonneg.trans hle
  obtain ⟨allowance, hallowance, htotal, -⟩ := computeBoundedAllowance_eq hnonneg
  exact ⟨m, exposure, allowance, hm, hexposure, hallowance, hle, by omega⟩

/-- What the first run has collected of the mandate is within its exposure. -/
theorem collected_le_exposure_mock :
    ∃ m exposure allowance,
      (run mockHost (exec mockHost mockStart mockCreation)
        [.call (mockCharge ⟨1⟩ (.lit 5 (by decide))), .call mockRefund]).storage.getMandate mockId
          = some m ∧
      computeMaxExposure (.ofInput mockInput 7) = .ok exposure ∧
      computeBoundedAllowance exposure = .ok allowance ∧
      m.totalCollected.val ≤ exposure ∧ exposure ≤ allowance.total :=
  collected_le_exposure encodeDigest_injective 0 mockFunds [] _ rfl 7

end Paymap.Web
