import Paymap.Registry.Money
import Paymap.Registry.Record

set_option autoImplicit false

/-! # Authorization provenance

Who has agreed to what a call moves. The parties of a transfer are read from stored records, written
by earlier calls of others; here they are traced back through the run. A record has exactly one
origin, a successful creation its payer authorised (`exists_creation`), and the terms are still
those. That the record is active when it is charged means that no revocation succeeded since, and
that every pause that did was followed by a resume (`inForce_of_active`).

The result is stated of balances: whatever a call takes out of an account, the account agreed to.
-/

namespace Paymap.Registry

section

variable {T : Type} {host : Host T}

/-! ## Origin -/

/-- **Every record comes from a successful creation that its payer authorised**, and has the terms
of that creation. -/
theorem exists_creation (hinj : Function.Injective host.sha256) {t₀ : U64} {tok₀ : T}
    {steps : List (Step T)} {id : BytesN} {m : Mandate}
    (hm : (run host (genesis t₀ tok₀) steps).storage.getMandate id = some m) :
    ∃ before input authorized since,
      steps = before ++ .call ⟨.createMandate input, authorized⟩ :: since ∧
      (invoke host ⟨.createMandate input, authorized⟩ (run host (genesis t₀ tok₀) before)).1
        = .ok (.mandateId id) ∧
      input.payer ∈ authorized ∧
      ∃ now, m.terms = (newMandate id now input).terms := by
  induction steps using List.reverseRecOn generalizing m with
  | nil => cases hm
  | append_singleton steps step ih =>
      rw [run, Runs.run_concat] at hm
      have hb := books_run hinj t₀ tok₀ steps
      cases hold : (run host (genesis t₀ tok₀) steps).storage.getMandate id with
      | some m₀ =>
          -- the record was there: its origin is, and the terms have not changed
          obtain ⟨before, input, authorized, since, rfl, hout, hauth, now, hterms⟩ := ih hold
          obtain ⟨m', hm', hmove⟩ := recordStep_exec hb hold step
          obtain rfl : m' = m := Option.some.inj (hm'.symm.trans hm)
          refine ⟨before, input, authorized, since ++ [step], by simp, hout, hauth, now, ?_⟩
          exact hmove.terms_eq.trans hterms
      | none =>
          -- the record is new: this step is its origin
          have hmoved := moved_exec host (run host (genesis t₀ tok₀) steps) step
          generalize hl' : exec host (run host (genesis t₀ tok₀) steps) step = l' at hmoved
          change (exec host (run host (genesis t₀ tok₀) steps) step).storage.getMandate id
            = some m at hm
          rw [hl'] at hm
          cases hmoved with
          | closed t now _ => cases hold.symm.trans hm
          | tokens t => cases hold.symm.trans hm
          | rejected c f _ => cases hold.symm.trans hm
          | done c v l' hout heffect =>
              obtain ⟨op, authorized⟩ := c
              have hset : ∀ m₁ : Mandate, ((run host (genesis t₀ tok₀) steps).storage.setMandate
                  m₁).getMandate id = some m → id = m₁.id ∧ m₁ = m := by
                intro m₁ h
                rw [Storage.getMandate_setMandate, hold] at h
                split at h
                · rename_i heq; exact ⟨heq, Option.some.inj h⟩
                · cases h
              cases heffect with
              | created input hauth _ _ =>
                  obtain ⟨rfl, rfl⟩ := hset _ hm
                  exact ⟨steps, input, authorized, [], rfl, congrArg Prod.fst hout, hauth, _, rfl⟩
              | statusChanged op mandateId m₁ hm₁ _ _ =>
                  obtain ⟨heq, -⟩ := hset _ hm
                  rw [heq, show Mandate.id _ = m₁.id from rfl, hb.mandate_id hm₁, hm₁] at hold
                  cases hold
              | charged mandateId chargeId amount invoiceHash m₁ period collected t m' hm₁ _ _ ha =>
                  obtain ⟨heq, -⟩ := hset _ hm
                  have hid : m'.id = mandateId :=
                    (congrArg Terms.id ha.terms_eq).trans (hb.mandate_id hm₁)
                  rw [heq, hid, hm₁] at hold
                  cases hold
              | refunded mandateId paymentId amount refundId m₁ payment total t _ _ _ _ =>
                  cases hold.symm.trans hm

/-! ## In force -/

/-- Over `steps` from `l` no revocation of the mandate succeeds, and every successful pause is
followed by a successful resume. -/
structure InForce (host : Host T) (id : BytesN) (l : Ledger T) (steps : List (Step T)) : Prop where
  not_revoked : ∀ s₁ authorized s₂ v,
    steps = s₁ ++ .call ⟨.revokeMandate id, authorized⟩ :: s₂ →
    (invoke host ⟨.revokeMandate id, authorized⟩ (run host l s₁)).1 ≠ .ok v
  resumed : ∀ s₁ authorized s₂ v,
    steps = s₁ ++ .call ⟨.pauseMandate id, authorized⟩ :: s₂ →
    (invoke host ⟨.pauseMandate id, authorized⟩ (run host l s₁)).1 = .ok v →
    ∃ e ∈ log host (invoke host ⟨.pauseMandate id, authorized⟩ (run host l s₁)).2 s₂,
      e.Succeeds (.resumeMandate id)

/-- An active record has been in force since any earlier point. -/
theorem inForce_of_active (hinj : Function.Injective host.sha256) {l : Ledger T}
    (hb : Books host l) {id : BytesN} {steps : List (Step T)} {m : Mandate}
    (hm : (run host l steps).storage.getMandate id = some m) (hactive : m.status = .active) :
    InForce host id l steps := by
  have hbooks : ∀ s₁, Books host (run host l s₁) := fun s₁ =>
    Runs.run_invariant (P := Books host) (fun _ step h => books_exec hinj h step) hb s₁
  constructor
  · -- a revoked record stays revoked
    rintro s₁ authorized s₂ v rfl hok
    obtain ⟨m₁, hm₁, hst⟩ := status_of_changed (hbooks s₁) hok
    have hend := (revoked_run hinj (books_exec hinj (hbooks s₁) (.call _)) hm₁ hst s₂).1
    rw [run, Runs.run_append, Runs.run_cons] at hm
    obtain rfl : m = m₁ := Option.some.inj (hm.symm.trans hend)
    rw [hactive] at hst
    cases hst
  · -- a paused record without a resume stays closed
    rintro s₁ authorized s₂ v rfl hok
    obtain ⟨m₁, hm₁, hst⟩ := status_of_changed (hbooks s₁) hok
    by_contra hnone
    push Not at hnone
    obtain ⟨⟨m₂, hm₂, hclosed⟩, -⟩ := closed_run hinj (books_exec hinj (hbooks s₁) (.call _)) hm₁
      (Or.inl hst) hnone
    rw [run, Runs.run_append, Runs.run_cons] at hm
    obtain rfl : m = m₂ := Option.some.inj (hm.symm.trans hm₂)
    exact hclosed.ne_active hactive

/-! ## Who agreed to what a call moves -/

variable {view : Holdings T}

/-- Where a transfer takes money: at its source. -/
theorem Moves.decreased {t t' : T} {asset source dest : Address} {amount : Int}
    (h : Moves view t t' asset source dest amount) (hpos : 0 < amount) {a x : Address}
    (hlt : view.balanceOf t' a x < view.balanceOf t a x) : asset = a ∧ source = x := by
  have hx := h a x
  by_cases hs : a = asset ∧ x = source
  · exact ⟨hs.1.symm, hs.2.symm⟩
  · rw [if_neg hs] at hx
    split at hx <;> omega

/-- The call `c`, made after the run `before`, is a charge that takes `amount` of `asset` out of
`x`: under a mandate `x` authorised the creation of, for this merchant, asset and a rule that admits
the amount, in force since; and the merchant, who gets the money, authorised the charge. -/
def AgreedCharge (host : Host T) (view : Holdings T) (start : Ledger T) (before : List (Step T))
    (c : Call) (asset x : Address) : Prop :=
  ∃ id chargeId amount invoiceHash pre input authorized since,
    c.op = .charge id chargeId amount invoiceHash ∧
    before = pre ++ .call ⟨.createMandate input, authorized⟩ :: since ∧
    (invoke host ⟨.createMandate input, authorized⟩ (run host start pre)).1
      = .ok (.mandateId id) ∧
    x ∈ authorized ∧ input.payer = x ∧ input.asset = asset ∧ input.amountRule.Admits amount ∧
    InForce host id (invoke host ⟨.createMandate input, authorized⟩ (run host start pre)).2 since ∧
    input.merchant ∈ c.authorized ∧
    Moves view (run host start before).token (invoke host c (run host start before)).2.token asset x
      input.merchant amount.val

/-- The call `c` is a refund that takes money of `asset` out of `x`: `x` authorised it, and the
money goes to the payer of the stored payment that `x` is the merchant of. -/
def AgreedRefund (host : Host T) (view : Holdings T) (l : Ledger T) (c : Call)
    (asset x : Address) : Prop :=
  ∃ mandateId paymentId amount refundId payment,
    c.op = .refund mandateId paymentId amount refundId ∧
    l.storage.getPayment paymentId = some payment ∧
    payment.merchant = x ∧ payment.asset = asset ∧ x ∈ c.authorized ∧
    Moves view l.token (invoke host c l).2.token asset x payment.payer amount.val

/-- Whatever a call takes out of an account, the account agreed to. -/
theorem agreed_of_decreased (hinj : Function.Injective host.sha256) (hf : Faithful view host.token)
    (t₀ : U64) (tok₀ : T) (before : List (Step T)) (c : Call) {asset x : Address}
    (hlt : view.balanceOf (invoke host c (run host (genesis t₀ tok₀) before)).2.token asset x
      < view.balanceOf (run host (genesis t₀ tok₀) before).token asset x) :
    AgreedCharge host view (genesis t₀ tok₀) before c asset x ∨
      AgreedRefund host view (run host (genesis t₀ tok₀) before) c asset x := by
  have hb := books_run hinj t₀ tok₀ before
  obtain ⟨op, authorized⟩ := c
  cases hout : (invoke host ⟨op, authorized⟩ (run host (genesis t₀ tok₀) before)).1 with
  | error f =>
      rw [invoke_error hout] at hlt
      exact absurd hlt (lt_irrefl _)
  | ok v =>
      obtain ⟨l', hl', heffect⟩ := exists_effect hout
      rw [hl'] at hlt
      cases heffect with
      | created input _ _ _ => exact absurd hlt (lt_irrefl _)
      | statusChanged op mandateId m _ _ _ => exact absurd hlt (lt_irrefl _)
      | charged mandateId chargeId amount invoiceHash m period collected t m' hm hc hpaid ha =>
          have hmoves := (hpaid.moves hf (hb.mandate hm).terms.payer_ne).1
          obtain ⟨rfl, rfl⟩ := hmoves.decreased hc.positive hlt
          obtain ⟨pre, input, auth₀, since, hsplit, hcreated, hpayer, now, hterms⟩ :=
            exists_creation hinj hm
          -- the terms the charge reads are those of the creation
          have hpayer_eq : m.payer = input.payer := congrArg Terms.payer hterms
          have hmerchant_eq : m.merchant = input.merchant := congrArg Terms.merchant hterms
          have hasset_eq : m.asset = input.asset := congrArg Terms.asset hterms
          have hrule_eq : m.amountRule = input.amountRule := congrArg Terms.amountRule hterms
          have hpre := books_run hinj t₀ tok₀ pre
          have hforce : InForce host mandateId
              (invoke host ⟨.createMandate input, auth₀⟩ (run host (genesis t₀ tok₀) pre)).2
              since := by
            subst hsplit
            rw [run, Runs.run_append, Runs.run_cons] at hm
            exact inForce_of_active hinj (books_exec hinj hpre (.call _)) hm
              (effectiveStatus_eq_active.mp hc.active).1
          refine Or.inl ⟨mandateId, chargeId, amount, invoiceHash, pre, input, auth₀, since, rfl,
            hsplit, hcreated, ?_, hpayer_eq.symm, hasset_eq.symm, ?_, hforce, ?_, ?_⟩
          · rw [hpayer_eq]
            exact hpayer
          · rw [← hrule_eq]
            exact hc.admitted
          · rw [← hmerchant_eq]
            exact hc.merchant_auth
          · rw [hl', ← hmerchant_eq]
            exact hmoves
      | refunded mandateId paymentId amount refundId m payment total t hm hp hc hpaid =>
          have hmoves := (hpaid.moves hf (hb.payer_ne hp)).1
          obtain ⟨rfl, rfl⟩ := hmoves.decreased hc.positive hlt
          -- the merchant who signed is the merchant of the receipt
          have hallows := (hb.mandate hm).each payment
            (mem_receiptsOf.mpr ⟨⟨paymentId, hp⟩, hc.belongs⟩)
          refine Or.inr ⟨mandateId, paymentId, amount, refundId, payment, rfl, hp, rfl, rfl, ?_, ?_⟩
          · rw [hallows.merchant_eq]
            exact hc.merchant_auth
          · rw [hl']
            exact hmoves

/-- The stored status changes to paused, to revoked or from paused to active only in a call of the
payer for exactly that. -/
theorem status_provenance {l : Ledger T} (hb : Books host l) (step : Step T) {id : BytesN}
    {m m' : Mandate} (hm : l.storage.getMandate id = some m)
    (hm' : (exec host l step).storage.getMandate id = some m') (hne : m'.status ≠ m.status) :
    (m'.status = .paused → ∃ authorized, step = .call ⟨.pauseMandate id, authorized⟩ ∧
      m.payer ∈ authorized) ∧
    (m'.status = .active → m.status = .paused ∧
      ∃ authorized, step = .call ⟨.resumeMandate id, authorized⟩ ∧ m.payer ∈ authorized) ∧
    (m'.status = .revoked → ∃ authorized, step = .call ⟨.revokeMandate id, authorized⟩ ∧
      m.payer ∈ authorized) := by
  obtain ⟨m₁, hm₁, hmove⟩ := recordStep_exec hb hm step
  obtain rfl : m₁ = m' := Option.some.inj (hm₁.symm.trans hm')
  have hnot := (hb.mandate hm).not_expired
  generalize exec host l step = l' at hmove
  cases hmove with
  | kept step l' _ => exact absurd rfl hne
  | statusChanged op authorized l' _ hauth hallowed _ =>
      cases op with
      | pause => exact ⟨fun _ => ⟨authorized, rfl, hauth⟩, nofun, nofun⟩
      | revoke => exact ⟨nofun, nofun, fun _ => ⟨authorized, rfl, hauth⟩⟩
      | resume =>
          refine ⟨nofun, fun _ => ⟨?_, authorized, rfl, hauth⟩, nofun⟩
          rcases StatusOp.check_ok.mp hallowed with ⟨hop, -⟩ | ⟨-, hst⟩ | ⟨hop, -⟩
          · cases hop
          · -- a record that is effectively paused is stored as paused
            unfold effectiveStatus at hst
            split at hst
            · split at hst <;> cases hst
            · assumption
            · exact hst
          · cases hop
  | charged chargeId amount invoiceHash authorized period collected l' m' hactive _ ha =>
      -- a charge leaves the status active or completes it
      have hstatus := ha.status_eq
      have hactive := (effectiveStatus_eq_active.mp hactive).1
      split at hstatus
      · rw [hstatus]
        exact ⟨nofun, nofun, nofun⟩
      · exact absurd hstatus hne

/-- **Authorization provenance.** In every run with faithful tokens: what a call takes out of an
account is a charge the account agreed to, or a refund it authorised that goes to the payer of the
payment; paused, active after a pause, and revoked are entered only by calls the payer authorised;
and no call takes anything from an account that has authorised no call. -/
theorem provenance (hinj : Function.Injective host.sha256) (hf : Faithful view host.token)
    (t₀ : U64) (tok₀ : T) (before : List (Step T)) :
    let l := run host (genesis t₀ tok₀) before
    (∀ (c : Call) (asset x : Address),
      view.balanceOf (invoke host c l).2.token asset x < view.balanceOf l.token asset x →
      AgreedCharge host view (genesis t₀ tok₀) before c asset x ∨
        AgreedRefund host view l c asset x) ∧
    (∀ (step : Step T) (id : BytesN) (m m' : Mandate), l.storage.getMandate id = some m →
      (exec host l step).storage.getMandate id = some m' → m'.status ≠ m.status →
      (m'.status = .paused → ∃ authorized, step = .call ⟨.pauseMandate id, authorized⟩ ∧
        m.payer ∈ authorized) ∧
      (m'.status = .active → m.status = .paused ∧
        ∃ authorized, step = .call ⟨.resumeMandate id, authorized⟩ ∧ m.payer ∈ authorized) ∧
      (m'.status = .revoked → ∃ authorized, step = .call ⟨.revokeMandate id, authorized⟩ ∧
        m.payer ∈ authorized)) ∧
    ∀ (c : Call) (x : Address), (∀ c', .call c' ∈ before ++ [.call c] → x ∉ c'.authorized) →
      ∀ asset, view.balanceOf l.token asset x
        ≤ view.balanceOf (invoke host c l).2.token asset x := by
  intro l
  have hagreed : ∀ c asset x,
      view.balanceOf (invoke host c l).2.token asset x < view.balanceOf l.token asset x →
      AgreedCharge host view (genesis t₀ tok₀) before c asset x ∨
        AgreedRefund host view l c asset x :=
    fun c _ _ => agreed_of_decreased hinj hf t₀ tok₀ before c
  refine ⟨hagreed, fun step id m m' => status_provenance (books_run hinj t₀ tok₀ before) step,
    fun c x hquiet asset => ?_⟩
  -- a loss is one that the account agreed to, by a call that it has authorised
  by_contra hlt
  rcases hagreed c asset x (not_le.mp hlt) with h | h
  · obtain ⟨_, _, _, _, pre, input, authorized, since, _, rfl, _, hx, _⟩ := h
    refine hquiet ⟨.createMandate input, authorized⟩ ?_ hx
    exact List.mem_append_left _ (List.mem_append_right _ List.mem_cons_self)
  · obtain ⟨_, _, _, _, _, _, _, _, _, hx, _⟩ := h
    exact hquiet c (List.mem_append_right _ List.mem_cons_self) hx

end

theorem provenance_mock :
    AgreedCharge mockHost mockHoldings mockStart [mockCreation]
      (mockCharge ⟨1⟩ (.lit 5 (by decide))) ⟨3⟩ ⟨1⟩ := by
  have h := (@provenance MockToken mockHost mockHoldings encodeDigest_injective mockToken_faithful
    (.lit 0 (by decide)) mockFunds [mockCreation]).1 (mockCharge ⟨1⟩ (.lit 5 (by decide))) ⟨3⟩ ⟨1⟩
    (by decide)
  refine h.resolve_right ?_
  rintro ⟨_, _, _, _, _, hop, -⟩
  cases hop

end Paymap.Registry
