import Paymap.Lib.Agreements
import Paymap.Registry.Policy
import Paymap.Registry.RefundBooks

set_option autoImplicit false

/-! # The registry keeps standing agreements

What the contract is for, in the terms of `Agreements`: a mandate is an agreement between its payer and
its merchant, and its receipts are the payments under it. `Storage.agreements` reads the agreements off
the storage. The counters, the stored period, the status `completed` and the replay guards are not part
of them: they follow from the payments.

The registry refines the agreements (`registry_refines`). It accepts a call when the agreement allows the
operation and the tokens and the counters let it through, for no other reason, and then does to the
agreements what the operation does. What holds of every account that can be reached holds of the
mandates, without another look at the contract (`mandate_windows`).
-/

namespace Paymap.Registry

open History (gridFloor)

/-! ## Mandates as agreements -/

/-- The amounts a rule lets through. -/
def AmountRule.amounts : AmountRule → Set ℤ
  | .fixed amount => {n | n = amount.val}
  | .variableUpTo maxPerCharge => {n | n ≤ maxPerCharge.val}

theorem AmountRule.mem_amounts {rule : AmountRule} {amount : I128} :
    amount.val ∈ rule.amounts ↔ rule.Admits amount := by
  cases rule with
  | fixed fixedAmount => exact MachineInt.val_inj
  | variableUpTo maxPerCharge => exact Iff.rfl

theorem AmountRule.isGreatest_amounts (rule : AmountRule) :
    IsGreatest rule.amounts rule.perChargeCap.val := by
  cases rule with
  | fixed fixedAmount => exact isGreatest_singleton
  | variableUpTo maxPerCharge => exact isGreatest_Iic

/-- How many charges there may be; `0` means any number. -/
def chargeLimit (maxSuccessfulCharges : U32) : Option ℕ :=
  if maxSuccessfulCharges.val = 0 then none else some maxSuccessfulCharges.val.toNat

theorem chargeLimit_eq_some {max : U32} {n : ℕ} :
    chargeLimit max = some n ↔ max.val ≠ 0 ∧ (n : ℤ) = max.val := by
  have hlo := max.lo_le
  unfold chargeLimit
  by_cases h : max.val = 0
  · simp [h]
  · rw [if_neg h, Option.some.injEq]
    omega

def Terms.agreement (t : Terms) : Agreements.Terms Address Address where
  payer := t.payer
  payee := t.merchant
  asset := t.asset
  rule := t.amountRule.amounts
  cap := t.maxPerPeriod.val
  period := t.periodSeconds.val
  interval := t.minIntervalSeconds.val
  start := t.startAt.val
  stop := t.expiresAt.val
  limit := chargeLimit t.maxSuccessfulCharges

/-- What the payer of `input` agrees to. -/
def MandateInput.agreement (input : MandateInput) : Agreements.Terms Address Address where
  payer := input.payer
  payee := input.merchant
  asset := input.asset
  rule := input.amountRule.amounts
  cap := input.maxPerPeriod.val
  period := input.periodSeconds.val
  interval := input.minIntervalSeconds.val
  start := input.startAt.val
  stop := input.expiresAt.val
  limit := chargeLimit input.maxSuccessfulCharges

/-- **`validate_input` lets through the sound agreements that are not over yet.** -/
theorem validInput_iff {now : U64} {input : MandateInput} :
    ValidInput now input ↔ input.agreement.Sound ∧ now.val < input.agreement.stop := by
  have hgreatest := input.amountRule.isGreatest_amounts
  constructor
  · intro h
    refine ⟨?_, h.now_lt⟩
    exact
      { most := ⟨_, hgreatest, h.perChargeCap_pos, h.cap_le⟩
        period_pos := h.period_pos
        interval_nonneg := input.minIntervalSeconds.lo_le
        start_lt := h.start_lt
        parties := h.payer_ne
        limit_pos := by
          intro hlimit
          obtain ⟨hne, heq⟩ := chargeLimit_eq_some.mp hlimit
          exact hne heq.symm }
  · rintro ⟨hsound, hnow⟩
    -- the cap of a charge is the greatest amount of the rule
    obtain ⟨most, hmost, hpos, hle⟩ := hsound.most
    obtain rfl := hmost.unique hgreatest
    exact ⟨hpos, hle, hsound.period_pos, hsound.start_lt, hnow, hsound.parties⟩

/-- `completed` and `expired` are nothing that somebody has done to the agreement. -/
def MandateStatus.standing : MandateStatus → Agreements.Standing
  | .active | .completed | .expired => .running
  | .paused => .suspended
  | .revoked => .withdrawn

def StatusOp.standing : StatusOp → Agreements.Standing
  | .pause => .suspended
  | .resume => .running
  | .revoke => .withdrawn

theorem StatusOp.standing_target (op : StatusOp) : op.target.standing = op.standing := by
  cases op <;> rfl

abbrev AgreedPayment := Agreements.Payment BytesN BytesN BytesN

abbrev AgreedAccount := Agreements.Account Address Address BytesN BytesN BytesN

abbrev Agreed := Agreements.State BytesN Address Address BytesN BytesN BytesN

namespace Storage

/-- A receipt, with the refunds of it. -/
def payment (s : Storage) (r : PaymentReceipt) : AgreedPayment :=
  ⟨r.chargeId, r.paymentId, r.amount.val, r.timestamp.val,
    (s.refundsOf r.paymentId).map fun q => (q.refundId, q.amount.val)⟩

def account (s : Storage) (m : Mandate) : AgreedAccount :=
  ⟨m.terms.agreement, m.status.standing, (s.receiptsOf m.id).map s.payment⟩

def agreements (s : Storage) : Agreed := fun id => (s.getMandate id).map s.account

end Storage

/-- What a call asks of the agreements. -/
def Op.agreed {T : Type} (host : Host T) :
    Op → Agreements.Op BytesN Address Address BytesN BytesN BytesN
  | .createMandate input => .sign (host.inputId input) input.agreement
  | .changeStatus .pause mandateId => .suspend mandateId
  | .changeStatus .resume mandateId => .resume mandateId
  | .changeStatus .revoke mandateId => .withdraw mandateId
  | .charge mandateId chargeId amount _ =>
      .collect mandateId chargeId (host.derivePaymentId mandateId chargeId) amount.val
  | .refund mandateId paymentId amount refundId => .refund mandateId paymentId refundId amount.val

/-- What a call needs besides: the tokens move the money, and the two counters have room. -/
def Willing {T : Type} (host : Host T) (l : Ledger T) (c : Call) : Prop :=
  match c.op with
  | .createMandate _ => True
  | .changeStatus _ _ => True
  | .charge mandateId _ amount _ => ∀ m, l.storage.getMandate mandateId = some m →
      (∃ t, ChargePaid (host.env c.authorized) l.token m amount t) ∧
      (l.storage.receiptsOf mandateId).length < 4294967295 ∧
      ((l.storage.receiptsOf mandateId).map fun r => r.amount.val).sum + amount.val
        ≤ 170141183460469231731687303715884105727
  | .refund _ paymentId amount _ => ∀ p, l.storage.getPayment paymentId = some p →
      ∃ t, RefundPaid (host.env c.authorized) l.token p amount t

/-! ## What the account says of the record -/

theorem effectiveStatus_eq_paused {m : Mandate} {now : U64} :
    effectiveStatus m now = .paused ↔ m.status = .paused ∧ now.val < m.expiresAt.val := by
  unfold effectiveStatus
  cases m.status with
  | active => by_cases h : now ≥ m.expiresAt <;> simp [h]
  | paused => simp [MachineInt.le_def]
  | _ => simp

/-- Revoked and completed are what is stored; time does not bring them about. -/
theorem effectiveStatus_open {m : Mandate} {now : U64} :
    (effectiveStatus m now ≠ .revoked ∧ effectiveStatus m now ≠ .completed) ↔
      m.status ≠ .revoked ∧ m.status ≠ .completed := by
  unfold effectiveStatus
  cases m.status with
  | active => by_cases h : now ≥ m.expiresAt <;> simp [h]
  | paused => by_cases h : now ≥ m.expiresAt <;> simp [h]
  | _ => simp

section

variable {s : Storage} {m : Mandate} {now : U64}

theorem MandateBooks.exhausted_iff (hb : MandateBooks now m (s.receiptsOf m.id)) :
    (s.account m).Exhausted ↔ m.status = .completed := by
  have hcount := hb.count_eq
  rw [hb.completed_iff]
  unfold Agreements.Account.Exhausted Storage.account
  rw [List.length_map]
  show chargeLimit m.maxSuccessfulCharges = some _ ↔ _
  rw [chargeLimit_eq_some]
  constructor
  · rintro ⟨hne, heq⟩
    exact ⟨hne, by omega⟩
  · rintro ⟨hne, heq⟩
    exact ⟨hne, by omega⟩

theorem MandateBooks.live_iff (hb : MandateBooks now m (s.receiptsOf m.id)) :
    (s.account m).Live now.val ↔ effectiveStatus m now = .active := by
  have hexpired := hb.not_expired
  rw [effectiveStatus_eq_active]
  constructor
  · rintro ⟨hrunning, hopen, hunlapsed⟩
    rw [hb.exhausted_iff] at hopen
    refine ⟨?_, not_le.mp hunlapsed⟩
    change m.status.standing = .running at hrunning
    cases hstatus : m.status with
    | active => rfl
    | completed => exact absurd hstatus hopen
    | expired => exact absurd hstatus hexpired
    | paused => rw [hstatus] at hrunning; cases hrunning
    | revoked => rw [hstatus] at hrunning; cases hrunning
  · rintro ⟨hactive, hnow⟩
    refine ⟨?_, ?_, not_le.mpr hnow⟩
    · show m.status.standing = .running
      rw [hactive]
      rfl
    · rw [hb.exhausted_iff, hactive]
      simp

theorem resumable_iff : (s.account m).standing = .suspended ∧ ¬ (s.account m).Lapsed now.val ↔
    effectiveStatus m now = .paused := by
  rw [effectiveStatus_eq_paused]
  have hstanding : (s.account m).standing = .suspended ↔ m.status = .paused := by
    show m.status.standing = .suspended ↔ _
    cases m.status <;> simp [MandateStatus.standing]
  exact and_congr hstanding not_le

theorem MandateBooks.revocable_iff (hb : MandateBooks now m (s.receiptsOf m.id)) :
    (s.account m).standing ≠ .withdrawn ∧ ¬ (s.account m).Exhausted ↔
      effectiveStatus m now ≠ .revoked ∧ effectiveStatus m now ≠ .completed := by
  rw [hb.exhausted_iff, effectiveStatus_open]
  refine and_congr (not_congr ?_) Iff.rfl
  show m.status.standing = .withdrawn ↔ _
  cases m.status <;> simp [MandateStatus.standing]

theorem account_collectedAround (s : Storage) (m : Mandate) (now : ℤ) :
    (s.account m).collectedAround now
      = m.terms.collectedIn (s.receiptsOf m.id)
          (gridFloor m.startAt.val m.periodSeconds.val now) := by
  unfold Agreements.Account.collectedAround History.bucketSum Terms.collectedIn Storage.account
  rw [List.filter_map, List.map_map]
  rfl

/-- What is paid back of a payment is what the registry has added up. -/
theorem RefundBooks.refunded_eq (hr : RefundBooks s) (r : PaymentReceipt) :
    (s.payment r).refunded = (s.getRefundedTotal r.paymentId).val := by
  rw [hr.total_eq]
  unfold Agreements.Payment.refunded Storage.payment
  rw [List.map_map]
  rfl

end

/-! ## What is allowed is what is accepted -/

section

variable {T : Type} {host : Host T} {l : Ledger T}

/-- The account of a stored mandate. -/
theorem agreements_eq_some {s : Storage} {id : BytesN} {a : AgreedAccount} :
    s.agreements id = some a ↔ ∃ m, s.getMandate id = some m ∧ s.account m = a := by
  unfold Storage.agreements
  rw [Option.map_eq_some_iff]

theorem mem_payments {s : Storage} {m : Mandate} {p : AgreedPayment} :
    p ∈ (s.account m).payments ↔ ∃ r ∈ s.receiptsOf m.id, s.payment r = p := List.mem_map

/-- No payment has the key exactly when the replay guard is clear. -/
theorem Books.unused_iff (hinj : Function.Injective host.sha256) (hb : Books host l) {m : Mandate}
    (chargeId : BytesN) : (∀ p ∈ (l.storage.account m).payments, p.key ≠ chargeId) ↔
      ¬ l.storage.hasUsedCharge m.id chargeId := by
  constructor
  · intro h hused
    obtain ⟨r, hr⟩ := (hb.used_iff m.id chargeId).mp hused
    obtain ⟨hmid, hcid⟩ := Host.derivePaymentId_inj hinj (hb.payment_id hr).2
    have hmem : r ∈ l.storage.receiptsOf m.id := mem_receiptsOf.mpr ⟨⟨_, hr⟩, hmid.symm⟩
    exact h _ (mem_payments.mpr ⟨r, hmem, rfl⟩) hcid.symm
  · intro hunused p hp hkey
    obtain ⟨r, hr, rfl⟩ := mem_payments.mp hp
    obtain ⟨⟨pid, hpid⟩, hmid⟩ := mem_receiptsOf.mp hr
    obtain ⟨-, rfl⟩ := hb.payment_id hpid
    change r.chargeId = chargeId at hkey
    rw [hmid, hkey] at hpid
    exact hunused ((hb.used_iff m.id chargeId).mpr ⟨r, hpid⟩)

/-- While the replay guard is clear, no payment has the id the charge would give it. -/
theorem Books.unnamed (hb : Books host l) {m : Mandate} {chargeId : BytesN}
    (hunused : ¬ l.storage.hasUsedCharge m.id chargeId) :
    ∀ p ∈ (l.storage.account m).payments, p.id ≠ host.derivePaymentId m.id chargeId := by
  intro p hp hid
  obtain ⟨r, hr, rfl⟩ := mem_payments.mp hp
  obtain ⟨⟨pid, hpid⟩, -⟩ := mem_receiptsOf.mp hr
  obtain ⟨hrid, -⟩ := hb.payment_id hpid
  change r.paymentId = _ at hid
  have hnone := hb.getPayment_eq_none (by simpa using hunused)
  rw [← hid, hrid, hpid] at hnone
  cases hnone

theorem MandateBooks.spaced_iff {now : U64} {m : Mandate}
    (hb : MandateBooks now m (l.storage.receiptsOf m.id)) {t : U64} :
    (∀ p ∈ (l.storage.account m).payments, p.time + m.minIntervalSeconds.val ≤ t.val) ↔
      ∀ last, m.lastChargedAt = some last → last.val + m.minIntervalSeconds.val ≤ t.val := by
  constructor
  · intro h last hlast
    have hlatest := hb.latest
    rw [hlast] at hlatest
    obtain ⟨⟨r, hr, htime⟩, -⟩ := hlatest
    have hle := h _ (mem_payments.mpr ⟨r, hr, rfl⟩)
    change r.timestamp.val + _ ≤ _ at hle
    dsimp only at htime
    omega
  · intro h p hp
    obtain ⟨r, hr, rfl⟩ := mem_payments.mp hp
    exact hb.interval_le h r hr

/-- What the policy asks of the record and the receipts is what makes an amount collectible. -/
theorem Books.collectible_iff (hinj : Function.Injective host.sha256) (hb : Books host l)
    {m : Mandate} (hm : l.storage.getMandate m.id = some m) (authorized : List Address)
    (chargeId : BytesN) (amount : I128) :
    ChargePolicy host l authorized m.id chargeId amount m ↔
      m.merchant ∈ authorized ∧
      (l.storage.account m).Collectible l.timestamp.val chargeId
        (host.derivePaymentId m.id chargeId) amount.val ∧
      (∃ t, ChargePaid (host.env authorized) l.token m amount t) ∧
      (∃ n : U32, n.val = m.successfulCharges.val + 1) ∧
      ∃ x : I128, x.val = m.totalCollected.val + amount.val := by
  have hmb := hb.mandate hm
  have hwithin : ∀ {period : BillingPeriod}, billingPeriod m l.timestamp = .ok period →
      (effectivePeriodCollected m period).val
        = (l.storage.account m).collectedAround l.timestamp.val := by
    intro period hperiod
    rw [hmb.effectivePeriodCollected_eq hperiod, account_collectedAround]
  constructor
  · intro hp
    obtain ⟨period, hperiod⟩ := exists_billingPeriod hmb.terms.period_pos hp.started
    have hcap := (below_cap_iff hmb hperiod).mp hp.below_cap
    rw [hwithin hperiod] at hcap
    refine ⟨hp.merchant_auth, ?_, hp.paid, hp.count_fits, hp.total_fits⟩
    exact
      { live := hmb.live_iff.mpr hp.active
        started := hp.started
        unused := (hb.unused_iff hinj chargeId).mpr hp.unused
        unnamed := hb.unnamed hp.unused
        positive := hp.positive
        admitted := AmountRule.mem_amounts.mpr hp.admitted
        spaced := hmb.spaced_iff.mpr hp.spaced
        within := hcap }
  · rintro ⟨hauth, hc, hpaid, hcount, htotal⟩
    have hactive := hmb.live_iff.mp hc.live
    obtain ⟨period, hperiod⟩ := exists_billingPeriod hmb.terms.period_pos hc.started
    have hcap := hc.within
    rw [← hwithin hperiod] at hcap
    exact
      { stored := hm
        active := hactive
        started := hc.started
        unexpired := (effectiveStatus_eq_active.mp hactive).2
        merchant_auth := hauth
        unused := (hb.unused_iff hinj chargeId).mp hc.unused
        positive := hc.positive
        admitted := AmountRule.mem_amounts.mp hc.admitted
        spaced := hmb.spaced_iff.mp hc.spaced
        below_count := by
          -- the limit is not reached, or the record were completed
          intro hne
          have hle := hmb.below_count hne
          have hopen := hc.live.open'
          rw [hmb.exhausted_iff, hmb.completed_iff] at hopen
          have hlt : m.successfulCharges.val ≠ m.maxSuccessfulCharges.val :=
            fun heq => hopen ⟨hne, heq⟩
          omega
        below_cap := (below_cap_iff hmb hperiod).mpr hcap
        paid := hpaid
        count_fits := hcount
        total_fits := htotal }

/-! ## The verdicts -/

theorem accepted_iff_effect {c : Call} :
    (∃ v, (invoke host c l).1 = .ok v) ↔ ∃ v l', Effect host c.authorized l c.op v l' := by
  constructor
  · rintro ⟨v, hv⟩
    obtain ⟨l', -, heffect⟩ := exists_effect hv
    exact ⟨v, l', heffect⟩
  · rintro ⟨v, l', heffect⟩
    exact ⟨v, congrArg Prod.fst (invoke_ok.mpr heffect)⟩

theorem agreements_eq_none {s : Storage} {id : BytesN} :
    s.agreements id = none ↔ s.getMandate id = none := Option.map_eq_none_iff

theorem create_accepted_iff (input : MandateInput) (authorized : List Address) :
    (∃ v, (invoke host ⟨.createMandate input, authorized⟩ l).1 = .ok v) ↔
      Agreements.Allows l.timestamp.val (· ∈ authorized) l.storage.agreements
        (.sign (host.inputId input) input.agreement) := by
  rw [accepted_iff_effect]
  constructor
  · rintro ⟨v, l', heffect⟩
    cases heffect with
    | created _ hauth hfresh hvalid =>
        obtain ⟨hsound, hnow⟩ := validInput_iff.mp hvalid
        exact .sign _ _ (agreements_eq_none.mpr hfresh) hauth hsound hnow
  · intro h
    cases h with
    | sign _ _ hfresh hauth hsound hnow =>
        exact ⟨_, _, .created input hauth (agreements_eq_none.mp hfresh)
          (validInput_iff.mpr ⟨hsound, hnow⟩)⟩

theorem status_accepted_iff {op : StatusOp} {id : BytesN} {authorized : List Address} :
    (∃ v, (invoke host ⟨.changeStatus op id, authorized⟩ l).1 = .ok v) ↔
      ∃ m, l.storage.getMandate id = some m ∧ m.payer ∈ authorized ∧
        op.check (effectiveStatus m l.timestamp) = .ok () := by
  rw [accepted_iff_effect]
  constructor
  · rintro ⟨v, l', heffect⟩
    cases heffect with
    | statusChanged _ _ m hm hauth hallowed => exact ⟨m, hm, hauth, hallowed⟩
  · rintro ⟨m, hm, hauth, hallowed⟩
    exact ⟨_, _, .statusChanged op id m hm hauth hallowed⟩

theorem Books.pause_accepted_iff (hb : Books host l) (id : BytesN) (authorized : List Address) :
    (∃ v, (invoke host ⟨.changeStatus .pause id, authorized⟩ l).1 = .ok v) ↔
      Agreements.Allows l.timestamp.val (· ∈ authorized) l.storage.agreements (.suspend id) := by
  rw [status_accepted_iff]
  constructor
  · rintro ⟨m, hm, hauth, hallowed⟩
    obtain rfl := hb.mandate_id hm
    have hactive : effectiveStatus m l.timestamp = .active := by
      simpa using StatusOp.check_ok.mp hallowed
    exact .suspend _ _ (agreements_eq_some.mpr ⟨m, hm, rfl⟩) hauth
      ((hb.mandate hm).live_iff.mpr hactive)
  · intro h
    cases h with
    | suspend _ a ha hauth hlive =>
        obtain ⟨m, hm, rfl⟩ := agreements_eq_some.mp ha
        obtain rfl := hb.mandate_id hm
        have hactive := (hb.mandate hm).live_iff.mp hlive
        exact ⟨m, hm, hauth, StatusOp.check_ok.mpr (.inl ⟨rfl, hactive⟩)⟩

theorem Books.resume_accepted_iff (hb : Books host l) (id : BytesN) (authorized : List Address) :
    (∃ v, (invoke host ⟨.changeStatus .resume id, authorized⟩ l).1 = .ok v) ↔
      Agreements.Allows l.timestamp.val (· ∈ authorized) l.storage.agreements (.resume id) := by
  rw [status_accepted_iff]
  constructor
  · rintro ⟨m, hm, hauth, hallowed⟩
    obtain rfl := hb.mandate_id hm
    have hpaused : effectiveStatus m l.timestamp = .paused := by
      simpa using StatusOp.check_ok.mp hallowed
    obtain ⟨hsuspended, hunlapsed⟩ := (resumable_iff (s := l.storage)).mpr hpaused
    exact .resume _ _ (agreements_eq_some.mpr ⟨m, hm, rfl⟩) hauth hsuspended hunlapsed
  · intro h
    cases h with
    | resume _ a ha hauth hsuspended hunlapsed =>
        obtain ⟨m, hm, rfl⟩ := agreements_eq_some.mp ha
        have hpaused := resumable_iff.mp ⟨hsuspended, hunlapsed⟩
        exact ⟨m, hm, hauth, StatusOp.check_ok.mpr (.inr (.inl ⟨rfl, hpaused⟩))⟩

theorem Books.revoke_accepted_iff (hb : Books host l) (id : BytesN) (authorized : List Address) :
    (∃ v, (invoke host ⟨.changeStatus .revoke id, authorized⟩ l).1 = .ok v) ↔
      Agreements.Allows l.timestamp.val (· ∈ authorized) l.storage.agreements (.withdraw id) := by
  rw [status_accepted_iff]
  constructor
  · rintro ⟨m, hm, hauth, hallowed⟩
    obtain rfl := hb.mandate_id hm
    have hopen : effectiveStatus m l.timestamp ≠ .revoked ∧
        effectiveStatus m l.timestamp ≠ .completed := by
      simpa using StatusOp.check_ok.mp hallowed
    obtain ⟨hstanding, hopen⟩ := (hb.mandate hm).revocable_iff.mpr hopen
    exact .withdraw _ _ (agreements_eq_some.mpr ⟨m, hm, rfl⟩) hauth hstanding hopen
  · intro h
    cases h with
    | withdraw _ a ha hauth hstanding hopen =>
        obtain ⟨m, hm, rfl⟩ := agreements_eq_some.mp ha
        obtain rfl := hb.mandate_id hm
        have hopen := (hb.mandate hm).revocable_iff.mp ⟨hstanding, hopen⟩
        exact ⟨m, hm, hauth, StatusOp.check_ok.mpr (.inr (.inr ⟨rfl, hopen⟩))⟩

/-- The counters have room exactly when the receipts leave it. -/
theorem MandateBooks.room_iff {m : Mandate} {h : List PaymentReceipt} {amount : I128}
    (hb : MandateBooks l.timestamp m h) (hpos : 0 < amount.val) :
    ((∃ n : U32, n.val = m.successfulCharges.val + 1) ∧
        ∃ x : I128, x.val = m.totalCollected.val + amount.val) ↔
      h.length < 4294967295 ∧ (h.map fun r => r.amount.val).sum + amount.val
        ≤ 170141183460469231731687303715884105727 := by
  have hcount := hb.count_eq
  have htotal := hb.total_eq
  have hlo := m.totalCollected.lo_le
  constructor
  · rintro ⟨⟨n, hn⟩, x, hx⟩
    have hn' := n.le_hi
    have hx' := x.le_hi
    omega
  · rintro ⟨hlength, hsum⟩
    exact ⟨⟨⟨m.successfulCharges.val + 1, by omega, by omega⟩, rfl⟩,
      ⟨m.totalCollected.val + amount.val, by omega, by omega⟩, rfl⟩

theorem Books.charge_accepted_iff_collect (hinj : Function.Injective host.sha256) (hb : Books host l)
    (id chargeId invoiceHash : BytesN) (amount : I128) (authorized : List Address) :
    (∃ v, (invoke host ⟨.charge id chargeId amount invoiceHash, authorized⟩ l).1 = .ok v) ↔
      Agreements.Allows l.timestamp.val (· ∈ authorized) l.storage.agreements
        (.collect id chargeId (host.derivePaymentId id chargeId) amount.val) ∧
      Willing host l ⟨.charge id chargeId amount invoiceHash, authorized⟩ := by
  rw [charge_accepted_iff_policy hb]
  constructor
  · rintro ⟨m, hp⟩
    have hm := hp.stored
    obtain rfl := hb.mandate_id hm
    obtain ⟨hauth, hc, hpaid, hroom⟩ :=
      (hb.collectible_iff hinj hm authorized chargeId amount).mp hp
    have hroom := ((hb.mandate hm).room_iff hc.positive).mp hroom
    refine ⟨.collect _ _ _ _ _ (agreements_eq_some.mpr ⟨m, hm, rfl⟩) hauth hc, fun m' hm' => ?_⟩
    obtain rfl := Option.some.inj (hm.symm.trans hm')
    exact ⟨hpaid, hroom⟩
  · rintro ⟨hallowed, hwilling⟩
    cases hallowed with
    | collect _ _ _ _ a ha hauth hc =>
        obtain ⟨m, hm, rfl⟩ := agreements_eq_some.mp ha
        obtain rfl := hb.mandate_id hm
        obtain ⟨hpaid, hroom⟩ := hwilling m hm
        have hroom := ((hb.mandate hm).room_iff hc.positive).mpr hroom
        have hpolicy := (hb.collectible_iff hinj hm authorized chargeId amount).mpr
          ⟨hauth, hc, hpaid, hroom⟩
        exact ⟨m, hpolicy⟩

/-- No refund of any payment has the reference exactly when it is unused. -/
theorem unreferenced_iff (hb : FullBooks host l) (refundId : BytesN) :
    l.storage.agreements.Unreferenced refundId ↔ ¬ l.storage.hasUsedRefund refundId := by
  obtain ⟨hb, hr⟩ := hb
  constructor
  · intro h hused
    obtain ⟨r, hrefund⟩ := (hr.used_iff refundId).mp hused
    obtain ⟨p, hp⟩ := hr.payment hrefund
    obtain ⟨m, hm⟩ := hb.payment_mandate hp
    have hid := hb.mandate_id hm
    have hmem : p ∈ l.storage.receiptsOf m.id := mem_receiptsOf.mpr ⟨⟨_, hp⟩, hid.symm⟩
    have hpid := (hb.payment_id hp).1
    have hrmem : r ∈ l.storage.refundsOf p.paymentId :=
      mem_refundsOf.mpr ⟨⟨_, hrefund⟩, hpid.symm⟩
    refine h p.mandateId _ (agreements_eq_some.mpr ⟨m, hm, rfl⟩) _ (mem_payments.mpr ⟨p, hmem, rfl⟩)
      (r.refundId, r.amount.val) (List.mem_map.mpr ⟨r, hrmem, rfl⟩) ?_
    exact hr.refund_id hrefund
  · rintro hunused id a ha p hp q hq rfl
    obtain ⟨m, -, rfl⟩ := agreements_eq_some.mp ha
    obtain ⟨receipt, -, rfl⟩ := mem_payments.mp hp
    obtain ⟨r, hrmem, rfl⟩ := List.mem_map.mp hq
    obtain ⟨⟨rid, hrid⟩, -⟩ := mem_refundsOf.mp hrmem
    obtain rfl := hr.refund_id hrid
    exact hunused ((hr.used_iff r.refundId).mpr ⟨r, hrid⟩)

theorem FullBooks.refund_accepted_iff (hb : FullBooks host l) (id paymentId refundId : BytesN)
    (amount : I128) (authorized : List Address) :
    (∃ v, (invoke host ⟨.refund id paymentId amount refundId, authorized⟩ l).1 = .ok v) ↔
      Agreements.Allows l.timestamp.val (· ∈ authorized) l.storage.agreements
        (.refund id paymentId refundId amount.val) ∧
      Willing host l ⟨.refund id paymentId amount refundId, authorized⟩ := by
  have hfresh := unreferenced_iff hb refundId
  obtain ⟨hb, hr⟩ := hb
  rw [accepted_iff_effect]
  constructor
  · rintro ⟨v, l', heffect⟩
    cases heffect with
    | refunded _ _ _ _ m payment total t hm hp hc hpaid =>
        obtain rfl := hb.mandate_id hm
        obtain ⟨hpid, -⟩ := hb.payment_id hp
        have hmem : payment ∈ l.storage.receiptsOf m.id :=
          mem_receiptsOf.mpr ⟨⟨_, hp⟩, hc.belongs⟩
        have hcovered : (l.storage.payment payment).refunded + amount.val ≤ payment.amount.val := by
          rw [hr.refunded_eq, hpid, ← hc.total_eq]
          exact hc.covered
        refine ⟨.refund _ _ _ _ _ _ (agreements_eq_some.mpr ⟨m, hm, rfl⟩) hc.merchant_auth
          (mem_payments.mpr ⟨payment, hmem, rfl⟩) hpid (hfresh.mpr (by simp [hc.unused]))
          hc.positive hcovered, fun p hp' => ?_⟩
        obtain rfl := Option.some.inj (hp.symm.trans hp')
        exact ⟨t, hpaid⟩
  · rintro ⟨hallowed, hwilling⟩
    cases hallowed with
    | refund _ _ _ _ a p ha hauth hpaid hname hunreferenced hpos hcovered =>
        obtain ⟨m, hm, rfl⟩ := agreements_eq_some.mp ha
        obtain rfl := hb.mandate_id hm
        obtain ⟨payment, hmem, rfl⟩ := mem_payments.mp hpaid
        obtain ⟨⟨pid, hp⟩, hbelongs⟩ := mem_receiptsOf.mp hmem
        obtain ⟨hpid, -⟩ := hb.payment_id hp
        change payment.paymentId = paymentId at hname
        obtain rfl := hname.symm.trans hpid
        obtain ⟨t, ht⟩ := hwilling payment hp
        change (l.storage.payment payment).refunded + amount.val ≤ payment.amount.val at hcovered
        rw [hr.refunded_eq, hname] at hcovered
        -- the new total is not more than the payment, so it fits
        have hlo := (l.storage.getRefundedTotal paymentId).lo_le
        have hhi := payment.amount.le_hi
        let total : I128 :=
          ⟨(l.storage.getRefundedTotal paymentId).val + amount.val, by omega, by omega⟩
        have hunused : l.storage.hasUsedRefund refundId = false := by
          simpa using hfresh.mp hunreferenced
        exact ⟨_, _, .refunded m.id paymentId amount refundId m payment total t hm hp
          ⟨hbelongs, hauth, hunused, hpos, rfl, hcovered⟩ ht⟩

/-- **A call is accepted when the agreement allows it and the tokens and the counters let it through**,
and never otherwise. -/
theorem FullBooks.accepted_iff (hinj : Function.Injective host.sha256) (hb : FullBooks host l)
    (c : Call) : (∃ v, (invoke host c l).1 = .ok v) ↔
      Agreements.Allows l.timestamp.val (· ∈ c.authorized) l.storage.agreements (c.op.agreed host) ∧
        Willing host l c := by
  obtain ⟨op, authorized⟩ := c
  cases op with
  | createMandate input => exact (create_accepted_iff input authorized).trans (and_true _).symm.to_iff
  | changeStatus op id =>
      cases op with
      | pause => exact (hb.1.pause_accepted_iff id authorized).trans (and_true _).symm.to_iff
      | resume => exact (hb.1.resume_accepted_iff id authorized).trans (and_true _).symm.to_iff
      | revoke => exact (hb.1.revoke_accepted_iff id authorized).trans (and_true _).symm.to_iff
  | charge id chargeId amount invoiceHash =>
      exact hb.1.charge_accepted_iff_collect hinj id chargeId invoiceHash amount authorized
  | refund id paymentId amount refundId =>
      exact hb.refund_accepted_iff id paymentId refundId amount authorized

/-! ## What an accepted call does to the agreements -/

theorem agreements_created (hb : FullBooks host l) {input : MandateInput}
    (hfresh : l.storage.getMandate (host.inputId input) = none) :
    (createdLedger host l input).storage.agreements
      = Agreements.after l.timestamp.val l.storage.agreements
          (.sign (host.inputId input) input.agreement) := by
  funext id
  show ((createdLedger host l input).storage.getMandate id).map l.storage.account
    = Function.update l.storage.agreements (host.inputId input) _ id
  rw [getMandate_createdLedger]
  by_cases hid : id = host.inputId input
  · subst hid
    rw [if_pos rfl, Function.update_self, Option.map_some]
    have hnil := hb.1.receiptsOf_eq_nil hfresh
    unfold Storage.account
    rw [show (newMandate (host.inputId input) l.timestamp input).id = host.inputId input from rfl,
      hnil]
    rfl
  · rw [if_neg hid, Function.update_of_ne hid]
    rfl

theorem agreements_statusChanged (hb : FullBooks host l) {op : StatusOp} {id : BytesN} {m : Mandate}
    (hm : l.storage.getMandate id = some m) :
    (statusLedger op l id m).storage.agreements
      = l.storage.agreements.modify id fun a => { a with standing := op.standing } := by
  obtain rfl := hb.1.mandate_id hm
  funext id
  show ((statusLedger op l m.id m).storage.getMandate id).map l.storage.account
    = Function.update l.storage.agreements m.id _ id
  rw [getMandate_statusLedger]
  by_cases hid : id = m.id
  · subst hid
    rw [if_pos rfl, Function.update_self, agreements_eq_some.mpr ⟨m, hm, rfl⟩, Option.map_some,
      Option.map_some, ← op.standing_target]
    rfl
  · rw [if_neg hid, Function.update_of_ne hid]
    rfl

theorem agreements_charged (hb : FullBooks host l) {m m' : Mandate} {authorized : List Address}
    {chargeId invoiceHash : BytesN} {amount collected : I128} {period : BillingPeriod} {t : T}
    (hm : l.storage.getMandate m.id = some m)
    (hc : Chargeable authorized m l.timestamp (l.storage.hasUsedCharge m.id chargeId) amount period
      collected) (ha : Accounted m period collected amount l.timestamp m') :
    (chargedLedger l m' period (newReceipt host m' m.id chargeId amount invoiceHash l.timestamp)
        t).storage.agreements
      = Agreements.after l.timestamp.val l.storage.agreements
          (.collect m.id chargeId (host.derivePaymentId m.id chargeId) amount.val) := by
  set r := newReceipt host m' m.id chargeId amount invoiceHash l.timestamp
  set l' := chargedLedger l m' period r t
  have hfresh : l.storage.getPayment r.paymentId = none := hb.1.getPayment_eq_none hc.unused
  have hid' : m'.id = m.id := by rw [ha.frame]
  have hpayment : l'.storage.payment = l.storage.payment := rfl
  have hnew : l.storage.payment r
      = ⟨chargeId, host.derivePaymentId m.id chargeId, amount.val, l.timestamp.val, []⟩ := by
    unfold Storage.payment
    rw [hb.2.refundsOf_eq_nil hfresh]
    rfl
  -- completion is nothing to the standing
  have hstanding : m'.status.standing = m.status.standing := by
    have hactive := (effectiveStatus_eq_active.mp hc.active).1
    rw [ha.status_eq, hactive]
    split <;> rfl
  funext id
  show (l'.storage.getMandate id).map l'.storage.account
    = Function.update l.storage.agreements m.id _ id
  rw [getMandate_chargedLedger, hid']
  by_cases hid : id = m.id
  · subst hid
    rw [if_pos rfl, Function.update_self, agreements_eq_some.mpr ⟨m, hm, rfl⟩, Option.map_some,
      Option.map_some]
    have hreceipts : l'.storage.receiptsOf m.id = r :: l.storage.receiptsOf m.id :=
      (receiptsOf_chargedLedger hfresh m.id).trans (if_pos rfl)
    unfold Storage.account
    rw [hid', hreceipts, ha.terms_eq, hstanding, hpayment, List.map_cons, hnew]
  · rw [if_neg hid, Function.update_of_ne hid]
    show (l.storage.getMandate id).map _ = (l.storage.getMandate id).map _
    refine Option.map_congr fun m₁ hm₁ => ?_
    have hid₁ := hb.1.mandate_id hm₁
    unfold Storage.account
    rw [receiptsOf_chargedLedger hfresh, if_neg fun h => hid (hid₁.symm.trans h.symm), hpayment]

theorem agreements_refunded (hb : FullBooks host l) {m : Mandate} {authorized : List Address}
    {paymentId refundId : BytesN} {payment : PaymentReceipt} {amount total : I128} {t : T}
    (hm : l.storage.getMandate m.id = some m)
    (hp : l.storage.getPayment paymentId = some payment)
    (hc : Refundable authorized m m.id payment (l.storage.hasUsedRefund refundId)
      (l.storage.getRefundedTotal paymentId) amount total) :
    (refundedLedger l payment m.id (newRefundReceipt refundId paymentId amount l.timestamp) total
        t).storage.agreements
      = Agreements.after l.timestamp.val l.storage.agreements
          (.refund m.id paymentId refundId amount.val) := by
  set q := newRefundReceipt refundId paymentId amount l.timestamp
  set l' := refundedLedger l payment m.id q total t
  have hfresh : l.storage.getRefund q.refundId = none := hb.2.getRefund_eq_none hc.unused
  have hpayment : ∀ r, l'.storage.payment r
      = (l.storage.payment r).refund paymentId refundId amount.val := by
    intro r
    unfold Storage.payment Agreements.Payment.refund
    rw [refundsOf_refundedLedger hfresh]
    by_cases hpid : r.paymentId = paymentId
    · rw [if_pos (show q.paymentId = r.paymentId from hpid.symm)]
      exact (if_pos hpid).symm
    · rw [if_neg (show q.paymentId ≠ r.paymentId from Ne.symm hpid)]
      exact (if_neg hpid).symm
  have hmap : ∀ receipts : List PaymentReceipt, receipts.map l'.storage.payment
      = (receipts.map l.storage.payment).map
          (Agreements.Payment.refund paymentId refundId amount.val) := by
    intro receipts
    rw [List.map_map]
    exact List.map_congr_left fun r _ => hpayment r
  funext id
  show (l.storage.getMandate id).map l'.storage.account
    = Function.update l.storage.agreements m.id _ id
  by_cases hid : id = m.id
  · subst hid
    rw [Function.update_self, agreements_eq_some.mpr ⟨m, hm, rfl⟩, hm, Option.map_some,
      Option.map_some]
    unfold Storage.account
    rw [hmap]
    rfl
  · rw [Function.update_of_ne hid]
    refine Option.map_congr fun m₁ hm₁ => ?_
    have hid₁ := hb.1.mandate_id hm₁
    have hother : ∀ r ∈ l.storage.receiptsOf m₁.id, l'.storage.payment r = l.storage.payment r := by
      intro r hr
      -- the payment is of the other mandate
      have hne : r.paymentId ≠ paymentId := by
        intro heq
        obtain ⟨⟨pid, hpid⟩, hmid⟩ := mem_receiptsOf.mp hr
        rw [← (hb.1.payment_id hpid).1, heq, hp] at hpid
        obtain rfl := Option.some.inj hpid
        exact hid (hid₁.symm.trans (hmid.symm.trans hc.belongs))
      rw [hpayment]
      exact if_neg hne
    unfold Storage.account
    exact congrArg _ (List.map_congr_left hother)

/-- **An accepted call does to the agreements what its operation does.** -/
theorem agreements_effect (hb : FullBooks host l) {authorized : List Address} {op : Op} {v : Value}
    {l' : Ledger T} (h : Effect host authorized l op v l') :
    l'.storage.agreements
      = Agreements.after l.timestamp.val l.storage.agreements (op.agreed host) := by
  cases h with
  | created input hauth hfresh hvalid => exact agreements_created hb hfresh
  | statusChanged op id m hm hauth hallowed =>
      rw [agreements_statusChanged hb hm]
      cases op <;> rfl
  | charged id chargeId amount invoiceHash m period collected t m' hm hc hpaid ha =>
      obtain rfl := hb.1.mandate_id hm
      exact agreements_charged hb hm hc ha
  | refunded id paymentId amount refundId m payment total t hm hp hc hpaid =>
      obtain rfl := hb.1.mandate_id hm
      exact agreements_refunded hb hm hp hc

/-! ## Runs -/

/-- A step of a run is an allowed operation, a rejected call or the passing of time. -/
theorem reaches_exec (hinj : Function.Injective host.sha256) (hb : FullBooks host l)
    (h : Agreements.Reaches l.timestamp.val l.storage.agreements) (step : Step T) :
    Agreements.Reaches (exec host l step).timestamp.val (exec host l step).storage.agreements := by
  have hmoved := moved_exec host l step
  generalize exec host l step = l' at hmoved
  cases hmoved with
  | closed t now hle => exact h.wait now.val hle
  | tokens t => exact h
  | rejected c f houtcome => exact h
  | done c v l' houtcome heffect =>
      have hallowed := (hb.accepted_iff hinj c).mp ⟨v, congrArg Prod.fst houtcome⟩
      have htime : l'.timestamp = l.timestamp := by
        generalize c.op = op at heffect
        cases heffect <;> rfl
      rw [htime, agreements_effect hb heffect]
      exact h.act _ _ hallowed.1

theorem reaches_run (hinj : Function.Injective host.sha256) (t₀ : U64) (tok₀ : T)
    (steps : List (Step T)) : Agreements.Reaches (run host (genesis t₀ tok₀) steps).timestamp.val
      (run host (genesis t₀ tok₀) steps).storage.agreements := by
  have hinv : FullBooks host (run host (genesis t₀ tok₀) steps) ∧
      Agreements.Reaches (run host (genesis t₀ tok₀) steps).timestamp.val
        (run host (genesis t₀ tok₀) steps).storage.agreements := by
    apply Runs.run_invariant (P := fun l => FullBooks host l ∧
      Agreements.Reaches l.timestamp.val l.storage.agreements)
    · rintro l step ⟨hb, h⟩
      exact ⟨fullBooks_exec hinj l step hb, reaches_exec hinj hb h step⟩
    · exact ⟨fullBooks_genesis host t₀ tok₀, .start _⟩
  exact hinv.2

/-- **The registry refines the agreements.** In every state of every run, whatever the tokens do:
what is agreed has come about by allowed operations; a call is accepted exactly when the agreement
allows it and the tokens and the counters let it through; and it then does to the agreements what
the operation does, and nothing to them when it is refused. -/
theorem registry_refines (hinj : Function.Injective host.sha256) (t₀ : U64) (tok₀ : T)
    (steps : List (Step T)) :
    let l := run host (genesis t₀ tok₀) steps
    Agreements.Reaches l.timestamp.val l.storage.agreements ∧
    ∀ c : Call,
      ((∃ v, (invoke host c l).1 = .ok v) ↔
        Agreements.Allows l.timestamp.val (· ∈ c.authorized) l.storage.agreements
          (c.op.agreed host) ∧ Willing host l c) ∧
      (∀ v, (invoke host c l).1 = .ok v → (invoke host c l).2.storage.agreements
        = Agreements.after l.timestamp.val l.storage.agreements (c.op.agreed host)) ∧
      ∀ f, (invoke host c l).1 = .error f →
        (invoke host c l).2.storage.agreements = l.storage.agreements := by
  intro l
  have hb : FullBooks host l := fullBooks_run hinj t₀ tok₀ steps
  refine ⟨reaches_run hinj t₀ tok₀ steps, fun c => ⟨hb.accepted_iff hinj c, ?_, ?_⟩⟩
  · intro v hv
    obtain ⟨l', houtcome, heffect⟩ := exists_effect hv
    rw [houtcome]
    exact agreements_effect hb heffect
  · intro f hf
    rw [invoke_error hf]

/-- **What the caps mean for any stretch of time.** In every state of every run, the receipts of a
mandate in a window, wherever it begins, add up to at most the period cap for each period of the mandate
that the window meets (no more than one beyond those its length has room for), and to at most the cap of a
charge for each charge that the interval leaves room for; and they lie the interval apart. -/
theorem mandate_windows (hinj : Function.Injective host.sha256) (t₀ : U64) (tok₀ : T)
    (steps : List (Step T)) {id : BytesN} {m : Mandate}
    (hm : (run host (genesis t₀ tok₀) steps).storage.getMandate id = some m) (from' : ℤ)
    {length : ℤ} (hlen : 0 < length) :
    let h := History.inWindow (fun r : PaymentReceipt => r.timestamp.val) from' length
      ((run host (genesis t₀ tok₀) steps).storage.receiptsOf id)
    let periods := (History.bucketsMet m.startAt.val m.periodSeconds.val (max from' m.startAt.val)
      (min (from' + length) m.expiresAt.val)).card
    (h.map fun r => r.amount.val).sum ≤ periods * m.maxPerPeriod.val ∧
      periods ≤ (length - 1) / m.periodSeconds.val + 2 ∧
      (0 < m.minIntervalSeconds.val → (h.map fun r => r.amount.val).sum
        ≤ ((length - 1) / m.minIntervalSeconds.val + 1) * m.amountRule.perChargeCap.val) ∧
      (h ≠ [] → (h.length - 1 : ℤ) * m.minIntervalSeconds.val ≤ length - 1) := by
  intro h periods
  set s := (run host (genesis t₀ tok₀) steps).storage
  have hbooks := books_run hinj t₀ tok₀ steps
  obtain rfl := hbooks.mandate_id hm
  have horderly := Agreements.reaches_orderly (reaches_run hinj t₀ tok₀ steps)
    (agreements_eq_some.mpr ⟨m, hm, rfl⟩)
  obtain ⟨hsum, hmost, hcount⟩ := horderly.window from' hlen
  -- the payments of the window are the receipts of the window
  have hwindow : History.inWindow Agreements.Payment.time from' length (s.account m).payments
      = h.map s.payment := by
    unfold History.inWindow Storage.account
    rw [List.filter_map]
    rfl
  rw [hwindow] at hsum hmost hcount
  rw [List.map_map] at hsum hmost
  rw [List.length_map] at hcount
  refine ⟨hsum, ?_, hmost _ m.amountRule.isGreatest_amounts, fun hne => hcount (by simpa using hne)⟩
  have hsub : History.bucketsMet m.startAt.val m.periodSeconds.val (max from' m.startAt.val)
      (min (from' + length) m.expiresAt.val)
        ⊆ History.bucketsMet m.startAt.val m.periodSeconds.val from' (from' + length) :=
    History.bucketsMet_subset _ (le_max_left _ _) (min_le_left _ _)
  calc (periods : ℤ)
      ≤ (History.bucketsMet m.startAt.val m.periodSeconds.val from' (from' + length)).card :=
        Int.ofNat_le.mpr (Finset.card_le_card hsub)
    _ ≤ (length - 1) / m.periodSeconds.val + 2 :=
        History.card_bucketsMet_le _ (hbooks.mandate hm).terms.period_pos from' hlen

end

/-! ## The mock deployment -/

theorem registry_refines_mock :
    Agreements.Allows (run mockHost mockStart [mockCreation]).timestamp.val (· ∈ [⟨2⟩])
      (run mockHost mockStart [mockCreation]).storage.agreements
      ((mockCharge ⟨1⟩ (.lit 5 (by decide))).op.agreed mockHost) :=
  have h := (registry_refines (T := MockToken) encodeDigest_injective 0 mockFunds [mockCreation]).2
    (mockCharge ⟨1⟩ (.lit 5 (by decide)))
  (h.1.mp ⟨_, rfl⟩).1

theorem mandate_windows_mock :
    ∃ m, (run mockHost mockStart mockRun).storage.getMandate mockId = some m ∧
      ((History.inWindow (fun r : PaymentReceipt => r.timestamp.val) (-3) 150
        ((run mockHost mockStart mockRun).storage.receiptsOf mockId)).map fun r => r.amount.val).sum
          ≤ (149 / m.minIntervalSeconds.val + 1) * m.amountRule.perChargeCap.val := by
  obtain ⟨m, hm⟩ : ∃ m, (run mockHost mockStart mockRun).storage.getMandate mockId = some m :=
    Option.isSome_iff_exists.mp (by decide)
  have hinterval : ∀ m ∈ (run mockHost mockStart mockRun).storage.getMandate mockId,
      0 < m.minIntervalSeconds.val := by decide
  exact ⟨m, hm, (mandate_windows encodeDigest_injective _ _ mockRun hm (-3) (by decide)).2.2.1
    (hinterval m hm)⟩

end Paymap.Registry
