import Paymap.Registry.Record

set_option autoImplicit false

/-! # How a mandate is completed

The cap of a mandate never changes, and its count only goes up, by one with each charge. So a single
charge completes it: the one made when one was missing (`completed_exec`).
-/

namespace Paymap.Registry

section

variable {T : Type} {host : Host T} {l : Ledger T} {id : BytesN}

/-- What the steps of a run keep of a record. -/
structure Mandate.Advances (m m' : Mandate) : Prop where
  cap_eq : m'.maxSuccessfulCharges = m.maxSuccessfulCharges
  count_le : m.successfulCharges.val ≤ m'.successfulCharges.val
  completed : m.status = .completed → m'.status = .completed

theorem Mandate.Advances.refl (m : Mandate) : m.Advances m := ⟨rfl, le_rfl, fun h => h⟩

theorem Mandate.Advances.trans {m₁ m₂ m₃ : Mandate} (h : m₁.Advances m₂) (h' : m₂.Advances m₃) :
    m₁.Advances m₃ :=
  ⟨h'.cap_eq.trans h.cap_eq, h.count_le.trans h'.count_le, fun hdone => h'.completed (h.completed hdone)⟩

/-- What is read of a mandate is its record, up to the status that an expiry gives it. -/
theorem advances_of_getMandate {m : Mandate} (h : getMandate l id = .ok m) :
    ∃ stored, l.storage.getMandate id = some stored ∧ m.Advances stored := by
  unfold getMandate at h
  obtain ⟨stored, hstored, hret⟩ := Tx.bind_ok.mp h
  cases hret
  refine ⟨stored, okOr_ok.mp hstored, rfl, le_rfl, fun hdone => ?_⟩
  change effectiveStatus stored l.timestamp = .completed at hdone
  unfold effectiveStatus at hdone
  split at hdone
  · split at hdone <;> cases hdone
  · split at hdone <;> cases hdone
  · exact hdone

theorem RecordStep.advances {l' : Ledger T} {m m' : Mandate} {step : Step T}
    (h : RecordStep host id l m step l' m') : m.Advances m' := by
  have hdone : m.status = .completed → m'.status = .completed := by
    intro hdone
    rw [h.eq_of_terminal (.inr hdone), hdone]
  cases h with
  | kept => exact .refl m
  | statusChanged => exact ⟨rfl, le_rfl, hdone⟩
  | charged chargeId amount invoiceHash authorized period collected l' m' hactive _ ha =>
      have hcount := ha.count_eq
      exact ⟨congrArg Terms.maxSuccessfulCharges ha.terms_eq, by omega, hdone⟩

theorem advances_exec {m : Mandate} (hb : Books host l) (hm : l.storage.getMandate id = some m)
    (step : Step T) :
    ∃ m', (exec host l step).storage.getMandate id = some m' ∧ m.Advances m' := by
  obtain ⟨m', hm', hmove⟩ := recordStep_exec hb hm step
  exact ⟨m', hm', hmove.advances⟩

/-- What a charge does to the count of its mandate. -/
structure Mandate.Counts (m m' : Mandate) : Prop where
  active : m.status = .active
  cap_eq : m'.maxSuccessfulCharges = m.maxSuccessfulCharges
  count_eq : m'.successfulCharges.val = m.successfulCharges.val + 1
  below : m.maxSuccessfulCharges.val ≠ 0 →
    m.successfulCharges.val < m.maxSuccessfulCharges.val
  completed_iff : m'.status = .completed ↔ m'.maxSuccessfulCharges.val ≠ 0 ∧
    m'.successfulCharges.val = m'.maxSuccessfulCharges.val

/-- **A successful charge counts.** -/
theorem counts_of_payment (hb : Books host l) {c : Call} {r : PaymentReceipt}
    (h : (invoke host c l).1 = .ok (.payment r)) :
    ∃ m m', l.storage.getMandate r.mandateId = some m ∧
      (invoke host c l).2.storage.getMandate r.mandateId = some m' ∧ m.Counts m' := by
  obtain ⟨op, authorized⟩ := c
  obtain ⟨l', hl', heffect⟩ := exists_effect h
  rw [hl']
  cases heffect with
  | charged mandateId chargeId amount invoiceHash m period collected t m' hm hc _ ha =>
      have hactive := (effectiveStatus_eq_active.mp hc.active).1
      refine ⟨m, m', hm, ?_, hactive, congrArg Terms.maxSuccessfulCharges ha.terms_eq, ha.count_eq,
        hc.below_count, (ha.completed_iff hactive).1⟩
      have hid : m'.id = mandateId := (congrArg Terms.id ha.terms_eq).trans (hb.mandate_id hm)
      rw [getMandate_chargedLedger]
      exact if_pos hid.symm

/-- **A mandate is completed by the charge that was missing.** -/
theorem completed_exec {m' : Mandate} (hb : Books host l) (step : Step T)
    (hm' : (exec host l step).storage.getMandate id = some m') (hdone : m'.status = .completed) :
    l.storage.getMandate id = some m' ∨
      ∃ m c r, l.storage.getMandate id = some m ∧ m.Counts m' ∧ step = .call c ∧
        (invoke host c l).1 = .ok (.payment r) ∧ r.mandateId = id := by
  have hmoved := moved_exec host l step
  generalize hl' : exec host l step = l' at hmoved hm'
  cases hmoved with
  | closed t now _ => exact .inl hm'
  | tokens t => exact .inl hm'
  | rejected c f _ => exact .inl hm'
  | done c v l' hout heffect =>
      obtain ⟨op, authorized⟩ := c
      cases heffect with
      | created input _ _ _ =>
          rw [getMandate_createdLedger] at hm'
          split at hm'
          · -- a new record is active
            obtain rfl := Option.some.inj hm'
            cases hdone
          · exact .inl hm'
      | statusChanged op mandateId m₁ _ _ _ =>
          rw [getMandate_statusLedger] at hm'
          split at hm'
          · obtain rfl := Option.some.inj hm'
            cases op <;> cases hdone
          · exact .inl hm'
      | charged mandateId chargeId amount invoiceHash m₁ period collected t m₂ hm₁ hc _ ha =>
          rw [getMandate_chargedLedger] at hm'
          split at hm'
          · rename_i hid
            obtain rfl := Option.some.inj hm'
            have hid₂ : m₂.id = mandateId :=
              (congrArg Terms.id ha.terms_eq).trans (hb.mandate_id hm₁)
            have hpayment : (invoke host ⟨.charge mandateId chargeId amount invoiceHash,
                authorized⟩ l).1 = .ok (.payment (newReceipt host m₂ mandateId chargeId amount
                  invoiceHash l.timestamp)) := congrArg Prod.fst hout
            obtain ⟨m, m', hm, hm', hcounts⟩ := counts_of_payment hb hpayment
            have hsame : m' = m₂ := by
              rw [hout] at hm'
              refine (Option.some.inj (hm'.symm.trans ?_))
              rw [getMandate_chargedLedger]
              exact if_pos hid₂.symm
            subst hsame
            exact .inr ⟨m, _, _, (hid.trans hid₂) ▸ hm, hcounts, rfl, hpayment,
              (hid.trans hid₂).symm⟩
          · exact .inl hm'
      | refunded mandateId paymentId amount refundId m₁ payment total t _ _ _ _ => exact .inl hm'

end

end Paymap.Registry
