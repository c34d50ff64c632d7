import Paymap.Registry.Books
import Paymap.Token.Mock

set_option autoImplicit false

/-! # The life of a record

Once created, a record moves in two ways only: its payer sets the status, or its merchant charges it
while it is effectively active. `RecordStep` is the list of these moves, `recordStep_exec` says
every step of a run is one of them for every stored record, and `record_run` is the induction over
runs. What follows is collected at the end: the terms never change, terminal records are frozen,
expiry is final up to revocation, and no receipt is added while a record is paused or after it is
revoked.
-/

namespace Paymap.Registry

section

variable {T : Type} {host : Host T} {id : BytesN}

/-! ## The moves -/

/-- How a step may move the record stored under `id`: from `m` in `l` to `m'` in `l'`. -/
inductive RecordStep (host : Host T) (id : BytesN) (l : Ledger T) (m : Mandate) :
    Step T → Ledger T → Mandate → Prop where
  | kept (step : Step T) (l' : Ledger T)
      (receipts : l'.storage.receiptsOf id = l.storage.receiptsOf id) :
      RecordStep host id l m step l' m
  | statusChanged (op : StatusOp) (authorized : List Address) (l' : Ledger T)
      (outcome : invoke host ⟨.changeStatus op id, authorized⟩ l = (.ok .unit, l'))
      (payer_auth : m.payer ∈ authorized)
      (allowed : op.check (effectiveStatus m l.timestamp) = .ok ())
      (receipts : l'.storage.receiptsOf id = l.storage.receiptsOf id) :
      RecordStep host id l m (.call ⟨.changeStatus op id, authorized⟩) l'
        { m with status := op.target }
  | charged (chargeId : BytesN) (amount : I128) (invoiceHash : BytesN) (authorized : List Address)
      (period : BillingPeriod) (collected : I128) (l' : Ledger T) (m' : Mandate)
      (active : effectiveStatus m l.timestamp = .active)
      (merchant_auth : m.merchant ∈ authorized)
      (accounted : Accounted m period collected amount l.timestamp m') :
      RecordStep host id l m (.call ⟨.charge id chargeId amount invoiceHash, authorized⟩) l' m'

/-- **Every step moves every stored record by one of the moves.** -/
theorem recordStep_exec {l : Ledger T} {m : Mandate} (hb : Books host l)
    (hm : l.storage.getMandate id = some m) (step : Step T) :
    ∃ m', (exec host l step).storage.getMandate id = some m' ∧
      RecordStep host id l m step (exec host l step) m' := by
  have hmoved := moved_exec host l step
  generalize exec host l step = l' at hmoved
  cases hmoved with
  | closed t now _ => exact ⟨m, hm, .kept _ _ rfl⟩
  | tokens t => exact ⟨m, hm, .kept _ _ rfl⟩
  | rejected c f _ => exact ⟨m, hm, .kept _ _ rfl⟩
  | done c v l' hout heffect =>
      obtain ⟨op, authorized⟩ := c
      cases heffect with
      | created input _ hfresh _ =>
          -- the new record gets a key that was free, so it is not this one
          have hne : id ≠ host.inputId input := by
            rintro rfl
            cases hfresh.symm.trans hm
          refine ⟨m, ?_, .kept _ _ rfl⟩
          rw [getMandate_createdLedger, if_neg hne, hm]
      | statusChanged op mandateId m₁ hm₁ hauth hallowed =>
          have hid := hb.mandate_id hm₁
          by_cases heq : mandateId = id
          · subst heq
            obtain rfl : m₁ = m := Option.some.inj (hm₁.symm.trans hm)
            refine ⟨{ m₁ with status := op.target }, ?_,
              .statusChanged op authorized _ hout hauth hallowed rfl⟩
            rw [getMandate_statusLedger, if_pos hid.symm]
          · refine ⟨m, ?_, .kept _ _ rfl⟩
            rw [getMandate_statusLedger, if_neg fun h => heq (hid.symm.trans h.symm), hm]
      | charged mandateId chargeId amount invoiceHash m₁ period collected t m' hm₁ hc _ ha =>
          have hid : m'.id = mandateId :=
            (congrArg Terms.id ha.terms_eq).trans (hb.mandate_id hm₁)
          have hfresh := hb.getPayment_eq_none hc.unused
          by_cases heq : mandateId = id
          · subst heq
            obtain rfl : m₁ = m := Option.some.inj (hm₁.symm.trans hm)
            refine ⟨m', ?_, .charged chargeId amount invoiceHash authorized period collected _ m'
              hc.active hc.merchant_auth ha⟩
            rw [getMandate_chargedLedger, if_pos hid.symm]
          · refine ⟨m, ?_, .kept _ _ ?_⟩
            · rw [getMandate_chargedLedger, if_neg fun h => heq (hid.symm.trans h.symm), hm]
            · exact (receiptsOf_chargedLedger hfresh id).trans (if_neg heq)
      | refunded mandateId paymentId amount refundId m₁ payment total t _ _ _ _ =>
          exact ⟨m, hm, .kept _ _ rfl⟩

/-- What every move preserves of a record holds at the end of every run. -/
theorem record_run (hinj : Function.Injective host.sha256) {Q : Ledger T → Mandate → Prop}
    (hstep : ∀ {l m step m'}, Books host l → Q l m →
      RecordStep host id l m step (exec host l step) m' → Q (exec host l step) m')
    {l : Ledger T} {m : Mandate} (hb : Books host l) (hm : l.storage.getMandate id = some m)
    (hq : Q l m) (steps : List (Step T)) :
    ∃ m', (run host l steps).storage.getMandate id = some m' ∧ Q (run host l steps) m' := by
  induction steps generalizing l m with
  | nil => exact ⟨m, hm, hq⟩
  | cons step steps ih =>
      obtain ⟨m', hm', hmove⟩ := recordStep_exec hb hm step
      exact ih (books_exec hinj hb step) hm' (hstep hb hq hmove)

/-! ## What the moves preserve -/

theorem RecordStep.terms_eq {l l' : Ledger T} {m m' : Mandate} {step : Step T}
    (h : RecordStep host id l m step l' m') : m'.terms = m.terms := by
  cases h with
  | kept step l' _ => rfl
  | statusChanged op authorized l' _ _ _ _ => rfl
  | charged chargeId amount invoiceHash authorized period collected l' m' _ _ ha =>
      exact ha.terms_eq

/-- `expired` is never stored. -/
theorem RecordStep.not_expired {l l' : Ledger T} {m m' : Mandate} {step : Step T}
    (h : RecordStep host id l m step l' m') (hm : m.status ≠ .expired) : m'.status ≠ .expired := by
  cases h with
  | kept step l' _ => exact hm
  | statusChanged op authorized l' _ _ _ _ => cases op <;> exact nofun
  | charged chargeId amount invoiceHash authorized period collected l' m' hactive _ ha =>
      exact (ha.completed_iff (effectiveStatus_eq_active.mp hactive).1).2

/-- A revoked or completed record is frozen. -/
theorem RecordStep.eq_of_terminal {l l' : Ledger T} {m m' : Mandate} {step : Step T}
    (h : RecordStep host id l m step l' m') (hdone : m.status = .revoked ∨ m.status = .completed) :
    m' = m := by
  have heffective : effectiveStatus m l.timestamp = m.status :=
    effectiveStatus_terminal hdone.symm
  cases h with
  | kept step l' _ => rfl
  | statusChanged op authorized l' _ _ hallowed _ =>
      rw [heffective, StatusOp.check_ok] at hallowed
      rcases hallowed with ⟨-, hst⟩ | ⟨-, hst⟩ | ⟨-, hne, hne'⟩
      · rcases hdone with hdone | hdone <;> rw [hdone] at hst <;> cases hst
      · rcases hdone with hdone | hdone <;> rw [hdone] at hst <;> cases hst
      · rcases hdone with hdone | hdone
        · exact absurd hdone hne
        · exact absurd hdone hne'
  | charged chargeId amount invoiceHash authorized period collected l' m' hactive _ _ =>
      rw [heffective] at hactive
      rcases hdone with hdone | hdone <;> rw [hdone] at hactive <;> cases hactive

/-- The clock of a run never goes back. -/
theorem timestamp_le_exec (host : Host T) (l : Ledger T) (step : Step T) :
    l.timestamp.val ≤ (exec host l step).timestamp.val := by
  have hmoved := moved_exec host l step
  generalize exec host l step = l' at hmoved
  cases hmoved with
  | closed t now hle => exact hle
  | tokens t => exact le_rfl
  | rejected c f _ => exact le_rfl
  | done c v l' _ heffect =>
      generalize c.op = op at heffect
      cases heffect <;> exact le_rfl

/-- What `get_mandate` reports as expired: a record that is not terminal, at or after its expiry. -/
theorem effectiveStatus_eq_expired {m : Mandate} {now : U64} (hm : m.status ≠ .expired) :
    effectiveStatus m now = .expired ↔
      (m.status = .active ∨ m.status = .paused) ∧ m.expiresAt.val ≤ now.val := by
  unfold effectiveStatus
  cases hst : m.status with
  | active => by_cases h : now ≥ m.expiresAt <;> simp_all [MachineInt.le_def]
  | paused => by_cases h : now ≥ m.expiresAt <;> simp_all [MachineInt.le_def]
  | revoked => simp
  | completed => simp
  | expired => exact absurd hst hm

/-- Expiry is final: from an expired record the only move is to revoke it. -/
theorem RecordStep.expired_or_revoked {l : Ledger T} {m m' : Mandate} {step : Step T}
    (h : RecordStep host id l m step (exec host l step) m') (hm : m.status ≠ .expired)
    (hend : effectiveStatus m l.timestamp = .expired ∨ m.status = .revoked) :
    effectiveStatus m' (exec host l step).timestamp = .expired ∨ m'.status = .revoked := by
  have hclock := timestamp_le_exec host l step
  generalize exec host l step = l' at h hclock
  rcases hend with hexpired | hrevoked
  · cases h with
    | kept step l' _ =>
        obtain ⟨hopen, hle⟩ := (effectiveStatus_eq_expired hm).mp hexpired
        exact Or.inl ((effectiveStatus_eq_expired hm).mpr ⟨hopen, hle.trans hclock⟩)
    | statusChanged op authorized l' _ _ hallowed _ =>
        rw [hexpired, StatusOp.check_ok] at hallowed
        rcases hallowed with ⟨-, hst⟩ | ⟨-, hst⟩ | ⟨rfl, -, -⟩
        · cases hst
        · cases hst
        · exact Or.inr rfl
    | charged chargeId amount invoiceHash authorized period collected l' m' hactive _ _ =>
        rw [hexpired] at hactive
        cases hactive
  · obtain rfl := h.eq_of_terminal (Or.inl hrevoked)
    exact Or.inr hrevoked

/-- Only an effectively active record gets a receipt. -/
theorem RecordStep.receiptsOf_eq {l l' : Ledger T} {m m' : Mandate} {step : Step T}
    (h : RecordStep host id l m step l' m') (hm : m.status ≠ .active) :
    l'.storage.receiptsOf id = l.storage.receiptsOf id := by
  cases h with
  | kept step l' hreceipts => exact hreceipts
  | statusChanged op authorized l' _ _ _ hreceipts => exact hreceipts
  | charged chargeId amount invoiceHash authorized period collected l' m' hactive _ _ =>
      exact absurd (effectiveStatus_eq_active.mp hactive).1 hm

/-! ## Whole runs -/

/-- A successful call of `op`. -/
def Entry.Succeeds (e : Entry T) (op : Op) : Prop := e.call.op = op ∧ ∃ v, e.outcome = .ok v

theorem mem_log_cons {l : Ledger T} {step : Step T} {steps : List (Step T)} {e : Entry T} :
    e ∈ log host l (step :: steps) ↔
      e ∈ log host l [step] ∨ e ∈ log host (exec host l step) steps := by
  have happend := log_append host l [step] steps
  rw [List.singleton_append] at happend
  rw [happend, List.mem_append]
  rfl

/-- Paused or revoked. -/
def Mandate.Closed (m : Mandate) : Prop := m.status = .paused ∨ m.status = .revoked

theorem Mandate.Closed.ne_active {m : Mandate} (h : m.Closed) : m.status ≠ .active := by
  rcases h with h | h <;> rw [h] <;> decide

/-- Only a successful resume opens a closed record. -/
theorem RecordStep.closed {l : Ledger T} {m m' : Mandate} {step : Step T}
    (h : RecordStep host id l m step (exec host l step) m') (hclosed : m.Closed)
    (hresume : ∀ e ∈ log host l [step], ¬ e.Succeeds (.resumeMandate id)) : m'.Closed := by
  generalize exec host l step = l' at h
  cases h with
  | kept step l' _ => exact hclosed
  | statusChanged op authorized l' hout _ _ _ =>
      cases op with
      | pause => exact Or.inl rfl
      | revoke => exact Or.inr rfl
      | resume =>
          refine absurd ⟨rfl, .unit, ?_⟩ (hresume _ List.mem_cons_self)
          exact congrArg Prod.fst hout
  | charged chargeId amount invoiceHash authorized period collected l' m' hactive _ _ =>
      exact absurd (effectiveStatus_eq_active.mp hactive).1 hclosed.ne_active

/-- **No receipt while paused.** Until a resume succeeds, a closed record stays closed and gets no
receipt. -/
theorem closed_run (hinj : Function.Injective host.sha256) {l : Ledger T} {m : Mandate}
    (hb : Books host l) (hm : l.storage.getMandate id = some m) (hclosed : m.Closed)
    {steps : List (Step T)}
    (hresume : ∀ e ∈ log host l steps, ¬ e.Succeeds (.resumeMandate id)) :
    (∃ m', (run host l steps).storage.getMandate id = some m' ∧ m'.Closed) ∧
    (run host l steps).storage.receiptsOf id = l.storage.receiptsOf id := by
  induction steps generalizing l m with
  | nil => exact ⟨⟨m, hm, hclosed⟩, rfl⟩
  | cons step steps ih =>
      obtain ⟨m', hm', hmove⟩ := recordStep_exec hb hm step
      have hclosed' : m'.Closed :=
        hmove.closed hclosed fun e he => hresume e (mem_log_cons.mpr (Or.inl he))
      obtain ⟨hend, hrest⟩ := ih (books_exec hinj hb step) hm' hclosed'
        fun e he => hresume e (mem_log_cons.mpr (Or.inr he))
      exact ⟨hend, hrest.trans (hmove.receiptsOf_eq hclosed.ne_active)⟩

/-- **A revoked record stays as it is, and gets no receipt.** -/
theorem revoked_run (hinj : Function.Injective host.sha256) {l : Ledger T} {m : Mandate}
    (hb : Books host l) (hm : l.storage.getMandate id = some m) (hrevoked : m.status = .revoked)
    (steps : List (Step T)) :
    (run host l steps).storage.getMandate id = some m ∧
    (run host l steps).storage.receiptsOf id = l.storage.receiptsOf id := by
  induction steps generalizing l with
  | nil => exact ⟨hm, rfl⟩
  | cons step steps ih =>
      obtain ⟨m', hm', hmove⟩ := recordStep_exec hb hm step
      obtain rfl := hmove.eq_of_terminal (Or.inl hrevoked)
      obtain ⟨hend, hrest⟩ := ih (books_exec hinj hb step) hm'
      exact ⟨hend, hrest.trans (hmove.receiptsOf_eq (by rw [hrevoked]; decide))⟩

/-- A successful status operation leaves its target as the stored status. -/
theorem status_of_changed {l : Ledger T} (hb : Books host l) {op : StatusOp}
    {authorized : List Address} {v : Value}
    (h : (invoke host ⟨.changeStatus op id, authorized⟩ l).1 = .ok v) :
    ∃ m, (invoke host ⟨.changeStatus op id, authorized⟩ l).2.storage.getMandate id = some m ∧
      m.status = op.target := by
  obtain ⟨l', hl', heffect⟩ := exists_effect h
  rw [hl']
  cases heffect with
  | statusChanged _ _ m hm _ _ =>
      refine ⟨{ m with status := op.target }, ?_, rfl⟩
      rw [getMandate_statusLedger, if_pos (hb.mandate_id hm).symm]

/-- **Lifecycle safety.** For a record stored at some point of a run, and any continuation: its
stored status is not `expired`; its terms never change, and nothing of it once it is revoked or
completed; it is never created again; once `get_mandate` reports it expired, later reports are
expired or revoked; after a successful pause it gets no receipt before a successful resume, and
after a successful revocation none ever. -/
theorem lifecycle_safety (hinj : Function.Injective host.sha256) (t₀ : U64) (tok₀ : T)
    (before after : List (Step T)) {m : Mandate}
    (hm : (run host (genesis t₀ tok₀) before).storage.getMandate id = some m) :
    let l := run host (genesis t₀ tok₀) before
    let l' := run host l after
    m.status ≠ .expired ∧
    (∃ m', l'.storage.getMandate id = some m' ∧ m'.terms = m.terms ∧
      (m.status = .revoked ∨ m.status = .completed → m' = m)) ∧
    (∀ (input : MandateInput) (authorized : List Address) (v : Value), host.inputId input = id →
      (invoke host ⟨.createMandate input, authorized⟩ l').1 ≠ .ok v) ∧
    (∀ m₁, getMandate l id = .ok m₁ → m₁.status = .expired →
      ∃ m₂, getMandate l' id = .ok m₂ ∧ (m₂.status = .expired ∨ m₂.status = .revoked)) ∧
    (∀ (authorized : List Address) (v : Value),
      let paused := invoke host ⟨.pauseMandate id, authorized⟩ l
      paused.1 = .ok v → (∀ e ∈ log host paused.2 after, ¬ e.Succeeds (.resumeMandate id)) →
      (run host paused.2 after).storage.receiptsOf id = paused.2.storage.receiptsOf id) ∧
    (∀ (authorized : List Address) (v : Value),
      let revoked := invoke host ⟨.revokeMandate id, authorized⟩ l
      revoked.1 = .ok v →
      (run host revoked.2 after).storage.receiptsOf id = revoked.2.storage.receiptsOf id) := by
  intro l l'
  have hb : Books host l := books_run hinj t₀ tok₀ before
  have hnot : m.status ≠ .expired := (hb.mandate hm).not_expired
  -- one induction for what the moves preserve of the record
  obtain ⟨m', hm', hterms, hfrozen, hnot', hend⟩ := record_run hinj
    (Q := fun l₁ m₁ => m₁.terms = m.terms ∧
      (m.status = .revoked ∨ m.status = .completed → m₁ = m) ∧ m₁.status ≠ .expired ∧
      (effectiveStatus m l.timestamp = .expired →
        effectiveStatus m₁ l₁.timestamp = .expired ∨ m₁.status = .revoked))
    (fun {l₁ m₁ step m₂} hb₁ hq hmove => by
      obtain ⟨hterms, hfrozen, hnot₁, hend⟩ := hq
      refine ⟨hmove.terms_eq.trans hterms, fun hdone => ?_, hmove.not_expired hnot₁,
        fun hexpired => hmove.expired_or_revoked hnot₁ (hend hexpired)⟩
      obtain rfl := hfrozen hdone
      exact hmove.eq_of_terminal hdone)
    hb hm ⟨rfl, fun _ => rfl, hnot, Or.inl⟩ after
  refine ⟨hnot, ⟨m', hm', hterms, hfrozen⟩, ?_, ?_, ?_, ?_⟩
  · intro input authorized v hid hok
    obtain ⟨_, -, heffect⟩ := exists_effect hok
    cases heffect with
    | created _ _ hfresh _ =>
        rw [hid, hm'] at hfresh
        cases hfresh
  · intro m₁ hm₁ hexpired
    rw [getMandate_of_stored hm] at hm₁
    cases hm₁
    refine ⟨_, getMandate_of_stored hm', ?_⟩
    rcases hend hexpired with hexpired' | hrevoked
    · exact Or.inl hexpired'
    · exact Or.inr ((effectiveStatus_terminal (Or.inr hrevoked)).trans hrevoked)
  · intro authorized v paused hok hresume
    obtain ⟨m₁, hm₁, hst⟩ := status_of_changed hb hok
    exact (closed_run hinj (books_exec hinj hb (.call _)) hm₁ (Or.inl hst) hresume).2
  · intro authorized v revoked hok
    obtain ⟨m₁, hm₁, hst⟩ := status_of_changed hb hok
    exact (revoked_run hinj (books_exec hinj hb (.call _)) hm₁ hst after).2

end

/-- A charge that is asked for while the mandate is paused leaves no receipt. -/
theorem lifecycle_safety_mock :
    let l := run mockHost mockStart mockRun
    let paused := invoke mockHost ⟨.pauseMandate mockId, [⟨1⟩]⟩ l
    (run mockHost paused.2 [.close (.lit 50 (by decide)),
      .call (mockCharge ⟨2⟩ (.lit 3 (by decide)))]).storage.receiptsOf mockId
        = paused.2.storage.receiptsOf mockId := by
  obtain ⟨m, hm⟩ : ∃ m, (run mockHost mockStart mockRun).storage.getMandate mockId = some m :=
    Option.isSome_iff_exists.mp (by decide)
  refine (lifecycle_safety encodeDigest_injective _ mockFunds mockRun _ hm).2.2.2.2.1 [⟨1⟩] .unit
    rfl ?_
  intro e he
  obtain rfl := List.mem_singleton.mp he
  rintro ⟨hop, -⟩
  cases hop

end Paymap.Registry
