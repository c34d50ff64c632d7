import Paymap.Registry.Collectible
import Paymap.Registry.Money
import Paymap.Token.Expiring
import Paymap.Web.CheckoutFlow

set_option autoImplicit false

/-! # One allowance for all mandates

The payer allows the registry an amount of an asset, and every mandate of the payer in that asset is
collected out of it. `runApprove` of a checkout sets it to zero and then to the bounded allowance of the
mandate that was just created, as if there were no other. So what earlier mandates were to be paid from is
gone, unless the new allowance has room for what they may still collect (`Collectible`); and a charge that
comes between the two approvals finds nothing.

`Covers` is the condition on the steps of a run under which no charge is starved.
-/

namespace Paymap.Web.SharedAllowance

open CheckoutFlow (Request Transaction)
open Registry

/-! ## Checkouts -/

/-- How far the checkout has come that is under way. -/
inductive Checkout where
  | none
  /-- The mandate is there. -/
  | created (id : BytesN) (input : MandateInput)
  /-- The allowance has been set to zero, and will be read again. -/
  | reset (id : BytesN) (input : MandateInput)
  /-- The allowance was zero when it was read. -/
  | cleared (input : MandateInput)
deriving DecidableEq

structure State (T : Type) where
  ledger : Ledger T
  checkout : Checkout

/-- The steps of a checkout, and anything else that happens on the chain. -/
inductive Action (T : Type) where
  | create (input : MandateInput)
  | reset (latestLedger nowUnixSeconds : ℤ)
  | confirm
  | approve (latestLedger nowUnixSeconds : ℤ)
  | other (step : Step T)

/-- `allowance.total` of the page, `none` where it throws. -/
def allowanceTotal (input : MandateInput) : Option ℤ :=
  match computeMaxExposure (.ofInput input 0) >>= computeBoundedAllowance with
  | .ok allowance => some allowance.total
  | .error _ => none

section

variable {T : Type} (host : Host T)

/-- `gateway.queryAllowance`. -/
def queryAllowance (input : MandateInput) (l : Ledger T) : Option ℤ :=
  (host.token.allowance l.token input.asset input.payer host.currentContractAddress).map fun answer =>
    answer.1.val

variable (approveToken : Approve T)

/-- `gateway.approve`, `none` unless the approval is made. -/
def approve (input : MandateInput) (amount latestLedger nowUnixSeconds : ℤ) (l : Ledger T) :
    Option (Ledger T) := do
  let liveUntilLedger :=
    Stellar.computeApprovalLiveUntilLedger latestLedger nowUnixSeconds input.expiresAt.val
  let transaction ← (Request.approve
    ⟨input.payer, input.asset, host.currentContractAddress, amount, liveUntilLedger⟩).encode
  match transaction.apply host approveToken l with
  | (.ok _, l') => some l'
  | (.error _, _) => none

def createMandate (input : MandateInput) (l : Ledger T) : State T :=
  let applied := (Transaction.createMandate input).apply host approveToken l
  match applied.1 with
  | .ok (.mandateId id) => ⟨applied.2, .created id input⟩
  | _ => ⟨applied.2, .none⟩

/-- There is nothing to reset when the allowance is zero. -/
def resetAllowance (id : BytesN) (input : MandateInput) (latestLedger nowUnixSeconds : ℤ)
    (l : Ledger T) : State T :=
  match queryAllowance host input l with
  | some currentAllowance =>
      if 0 < currentAllowance then
        match approve host approveToken input 0 latestLedger nowUnixSeconds l with
        | some l' => ⟨l', .reset id input⟩
        | none => ⟨l, .created id input⟩
      else ⟨l, .cleared input⟩
  | none => ⟨l, .created id input⟩

/-- When the allowance is not zero, the sequence begins again. -/
def confirmZero (id : BytesN) (input : MandateInput) (l : Ledger T) : State T :=
  match queryAllowance host input l with
  | some confirmedZero => if confirmedZero ≠ 0 then ⟨l, .created id input⟩ else ⟨l, .cleared input⟩
  | none => ⟨l, .reset id input⟩

def setAllowance (input : MandateInput) (latestLedger nowUnixSeconds : ℤ) (l : Ledger T) : State T :=
  match allowanceTotal input with
  | some total =>
      match approve host approveToken input total latestLedger nowUnixSeconds l with
      | some l' => ⟨l', .none⟩
      | none => ⟨l, .cleared input⟩
  | none => ⟨l, .cleared input⟩

variable (payer asset : Address)

/-- The payer makes one checkout after the other, all in the asset; a step that is not due does nothing. -/
def exec (s : State T) : Action T → State T
  | .create input =>
      match s.checkout with
      | .none =>
          if input.payer = payer ∧ input.asset = asset then
            createMandate host approveToken input s.ledger
          else s
      | _ => s
  | .reset latestLedger nowUnixSeconds =>
      match s.checkout with
      | .created id input =>
          resetAllowance host approveToken id input latestLedger nowUnixSeconds s.ledger
      | _ => s
  | .confirm =>
      match s.checkout with
      | .reset id input => confirmZero host id input s.ledger
      | _ => s
  | .approve latestLedger nowUnixSeconds =>
      match s.checkout with
      | .cleared input => setAllowance host approveToken input latestLedger nowUnixSeconds s.ledger
      | _ => s
  | .other step => { s with ledger := Registry.exec host s.ledger step }

/-- No checkout has been made. -/
def start (t₀ : U64) (tok₀ : T) : State T := ⟨genesis t₀ tok₀, .none⟩

/-- The mandates of the payer in the asset, without the one whose approval is still to come. -/
def counted (pending : Option BytesN) (t : Terms) : Bool :=
  t.payer = payer && (t.asset = asset && some t.id ≠ pending)

/-- No checkout that is under way has a hand in what the mandate is paid from. -/
def Checkout.spares (id : BytesN) : Checkout → Bool
  | .none => true
  | .created id' _ => id ≠ id'
  | .reset _ _ => false
  | .cleared _ => false

/-- The allowance that the checkout is about to set is at least `owed`. -/
def Checkout.HasRoom (owed : ℤ) : Checkout → Prop
  | .cleared input => ∀ total ∈ allowanceTotal input, owed ≤ total
  | _ => True

instance (owed : ℤ) (checkout : Checkout) : Decidable (checkout.HasRoom owed) :=
  match checkout with
  | .cleared input => inferInstanceAs (Decidable (∀ total ∈ allowanceTotal input, owed ≤ total))
  | .none | .created _ _ | .reset _ _ => .isTrue trivial

/-- The charge passes every rule of the mandate. -/
def passesRules (l : Ledger T) (m : Mandate) (chargeId : BytesN) (amount : I128)
    (authorized : List Address) : Bool :=
  (chargeChecks (host.env authorized) m l.timestamp (l.storage.hasUsedCharge m.id chargeId) amount).isOk

/-- An approval has room for what all mandates of the payer may still collect. And a charge that passes
all rules of its mandate comes neither between the two approvals of a checkout nor, when the mandate is
that of the checkout, before them. -/
def Covers (s : State T) : Action T → Prop
  | .approve _ _ => s.checkout.HasRoom (outstanding (counted payer asset none) s.ledger)
  | .other (.call ⟨.charge id chargeId amount _, authorized⟩) =>
      ∀ m ∈ s.ledger.storage.getMandate id, m.payer = payer → m.asset = asset →
        passesRules host s.ledger m chargeId amount authorized = true → s.checkout.spares id = true
  | _ => True

instance (s : State T) (action : Action T) : Decidable (Covers host payer asset s action) :=
  match action with
  | .approve _ _ => inferInstanceAs (Decidable (s.checkout.HasRoom _))
  | .other (.call ⟨.charge id chargeId amount _, authorized⟩) =>
      inferInstanceAs (Decidable (∀ m ∈ s.ledger.storage.getMandate id, m.payer = payer → m.asset = asset →
        passesRules host s.ledger m chargeId amount authorized = true → s.checkout.spares id = true))
  | .create _ | .reset _ _ | .confirm | .other (.close _) | .other (.token _)
  | .other (.call ⟨.createMandate _, _⟩) | .other (.call ⟨.changeStatus _ _, _⟩)
  | .other (.call ⟨.refund _ _ _ _, _⟩) => .isTrue trivial

variable (view : Approvals T)

/-- What the payer allows the registry. -/
def allowed (l : Ledger T) : ℤ := view.allowanceOf l.token asset payer host.currentContractAddress

/-- Apart from the checkouts, the payer neither changes the allowance nor creates mandates in the asset. -/
def Abides (s : State T) : Action T → Prop
  | .other (.token t) =>
      allowed host payer asset view { s.ledger with token := t } = allowed host payer asset view s.ledger
  | .other (.call ⟨.createMandate input, _⟩) => ¬ (input.payer = payer ∧ input.asset = asset)
  | _ => True

/-- A charge that passes all rules of a mandate of the payer is rejected with `InsufficientAllowance`, and
the allowance has not expired. -/
def Starved (s : State T) : Action T → Prop
  | .other (.call ⟨.charge id chargeId amount invoiceHash, authorized⟩) =>
      ∃ m ∈ s.ledger.storage.getMandate id, m.payer = payer ∧ m.asset = asset ∧
        passesRules host s.ledger m chargeId amount authorized = true ∧
        view.Lasts s.ledger.token asset payer host.currentContractAddress ∧
        (invoke host ⟨.charge id chargeId amount invoiceHash, authorized⟩ s.ledger).1
          = .error (.err .insufficientAllowance)
  | _ => False

end

/-! ## What a checkout leaves to be paid from -/

section

variable {T : Type} (host : Host T) (payer asset : Address) (view : Approvals T)

/-- There is enough allowance for what the counted mandates may still collect. -/
def Covered (pending : Option BytesN) (l : Ledger T) : Prop :=
  outstanding (counted payer asset pending) l ≤ max 0 (allowed host payer asset view l)

/-- What holds of the allowance at each point of a checkout. -/
inductive Stage (l : Ledger T) : Checkout → Prop where
  | none (covered : Covered host payer asset view none l) : Stage l .none
  | created {id : BytesN} {input : MandateInput} (mine : input.payer = payer ∧ input.asset = asset)
      (covered : Covered host payer asset view (some id) l) : Stage l (.created id input)
  | reset {id : BytesN} {input : MandateInput} (mine : input.payer = payer ∧ input.asset = asset)
      (zero : allowed host payer asset view l = 0) : Stage l (.reset id input)
  | cleared {input : MandateInput} (mine : input.payer = payer ∧ input.asset = asset) :
      Stage l (.cleared input)

structure Inv (s : State T) : Prop where
  books : Books host s.ledger
  stage : Stage host payer asset view s.ledger s.checkout

variable {host payer asset view} {l l' : Ledger T} {checkout : Checkout}

theorem passesRules_iff {m : Mandate} {chargeId : BytesN} {amount : I128} {authorized : List Address} :
    passesRules host l m chargeId amount authorized = true ↔ ∃ period collected,
      Chargeable authorized m l.timestamp (l.storage.hasUsedCharge m.id chargeId) amount period
        collected := by
  unfold passesRules
  constructor
  · intro h
    cases hchecks : chargeChecks (host.env authorized) m l.timestamp
        (l.storage.hasUsedCharge m.id chargeId) amount with
    | ok checked => exact ⟨checked.1, checked.2, chargeChecks_ok.mp hchecks⟩
    | error f =>
        rw [hchecks] at h
        cases h
  · rintro ⟨period, collected, hc⟩
    rw [chargeChecks_ok.mpr hc]
    rfl

/-- Nothing is spent, and nothing more is owed. -/
theorem Stage.keep (h : Stage host payer asset view l checkout)
    (hallowed : allowed host payer asset view l' = allowed host payer asset view l)
    (howed : ∀ pending, outstanding (counted payer asset pending) l'
      ≤ outstanding (counted payer asset pending) l) :
    Stage host payer asset view l' checkout := by
  have hcovered : ∀ pending, Covered host payer asset view pending l →
      Covered host payer asset view pending l' := by
    intro pending hold
    have hle := howed pending
    unfold Covered at hold ⊢
    rw [hallowed]
    omega
  cases h with
  | none covered => exact .none (hcovered _ covered)
  | created mine covered => exact .created mine (hcovered _ covered)
  | reset mine zero => exact .reset mine (hallowed.trans zero)
  | cleared mine => exact .cleared mine

/-- What a charge spends was owed, unless a checkout that is under way has a hand in it. -/
theorem Stage.charged (h : Stage host payer asset view l checkout) {m : Mandate} {amount : ℤ}
    (hmine : m.payer = payer ∧ m.asset = asset) (hspares : checkout.spares m.id = true)
    (hspent : allowed host payer asset view l' = allowed host payer asset view l - amount)
    (howed : ∀ pending, outstanding (counted payer asset pending) l'
      + (if counted payer asset pending m.terms then amount else 0)
        ≤ outstanding (counted payer asset pending) l) (hpos : 0 < amount) :
    Stage host payer asset view l' checkout := by
  have hcovered : ∀ pending, some m.id ≠ pending → Covered host payer asset view pending l →
      Covered host payer asset view pending l' := by
    intro pending hne hold
    have hcounted : counted payer asset pending m.terms = true := by
      simp [counted, Mandate.terms, hmine.1, hmine.2, hne]
    have hle := howed pending
    rw [if_pos hcounted] at hle
    unfold Covered at hold ⊢
    rw [hspent]
    omega
  cases h with
  | none covered => exact .none (hcovered _ (by simp) covered)
  | @created id input mine covered =>
      have hne : m.id ≠ id := by simpa [Checkout.spares] using hspares
      exact .created mine (hcovered _ (fun heq => hne (Option.some.inj heq)) covered)
  | reset mine zero => cases hspares
  | cleared mine => cases hspares

/-! ### Whatever happens on the chain -/

/-- A charge of a mandate of others is of no consequence. -/
theorem Stage.charged_other (h : Stage host payer asset view l checkout) {m : Mandate} {amount : ℤ}
    (hother : ¬ (m.payer = payer ∧ m.asset = asset))
    (hspends : Spends view.toHoldings l.token l'.token m.asset m.payer host.currentContractAddress amount)
    (howed : ∀ pending, outstanding (counted payer asset pending) l'
      + (if counted payer asset pending m.terms then amount else 0)
        ≤ outstanding (counted payer asset pending) l) (hpos : 0 < amount) :
    Stage host payer asset view l' checkout := by
  refine h.keep ?_ fun pending => ?_
  · have hsame := hspends asset payer host.currentContractAddress
    rw [if_neg fun heq => hother ⟨heq.2.1.symm, heq.1.symm⟩, sub_zero] at hsame
    exact hsame
  · have hle := howed pending
    split at hle <;> omega

theorem stage_step (hf : Faithful view.toHoldings host.token) {s : State T}
    (hinv : Inv host payer asset view s) {step : Step T}
    (habides : Abides host payer asset view s (.other step))
    (hcovers : Covers host payer asset s (.other step)) :
    Stage host payer asset view (Registry.exec host s.ledger step) s.checkout := by
  have hmoved := moved_exec host s.ledger step
  generalize Registry.exec host s.ledger step = l' at hmoved
  cases hmoved with
  | closed t now hle =>
      exact hinv.stage.keep rfl fun pending => hinv.books.outstanding_later hle
  | tokens t => exact hinv.stage.keep habides fun pending => (outstanding_congr ⟨rfl, rfl, rfl, rfl⟩).le
  | rejected c f _ => exact hinv.stage
  | done c v l' _ heffect =>
      obtain ⟨op, authorized⟩ := c
      cases heffect with
      | created input _ hfresh _ =>
          refine hinv.stage.keep rfl fun pending => ?_
          have hnot : counted payer asset pending
              (newMandate (host.inputId input) s.ledger.timestamp input).terms = false := by
            have hother : ¬ (input.payer = payer ∧ input.asset = asset) := habides
            simp only [counted, Mandate.terms, newMandate]
            grind
          rw [outstanding_created hfresh, owed, hnot]
          simp
      | statusChanged op mandateId m hm _ hallowed =>
          exact hinv.stage.keep rfl fun pending => hinv.books.outstanding_statusChanged hm hallowed
      | charged mandateId chargeId amount invoiceHash m period collected t m' hm hc hpaid ha =>
          have hspends := (hpaid.moves hf (hinv.books.mandate hm).terms.payer_ne).2
          have howed : ∀ pending, _ + (if counted payer asset pending m.terms then amount.val else 0)
              ≤ outstanding (counted payer asset pending) s.ledger := fun pending =>
            hinv.books.outstanding_charged hm hc ha
              (newReceipt host m' mandateId chargeId amount invoiceHash s.ledger.timestamp) t
          by_cases hmine : m.payer = payer ∧ m.asset = asset
          · obtain rfl := hinv.books.mandate_id hm
            have hspares : s.checkout.spares m.id = true := by
              exact hcovers m hm hmine.1 hmine.2 (passesRules_iff.mpr ⟨period, collected, hc⟩)
            refine hinv.stage.charged hmine hspares ?_ howed hc.positive
            have hspent := hspends asset payer host.currentContractAddress
            rw [if_pos ⟨hmine.2.symm, hmine.1.symm, rfl⟩] at hspent
            exact hspent
          · exact hinv.stage.charged_other hmine hspends howed hc.positive
      | refunded mandateId paymentId amount refundId m payment total t _ hp _ hpaid =>
          have hkept := (hpaid.moves hf (hinv.books.payer_ne hp)).2
          refine hinv.stage.keep (hkept _ _ _) fun pending => ?_
          exact (outstanding_congr (sameCharges_refunded _ _ _ _ _)).le

/-! ### The steps of a checkout -/

section

variable {approveToken : Approve T} {input : MandateInput}

/-- An approval that is made changes the allowance, and nothing that the registry stores. -/
theorem allowed_approve (hl : Lasting view host.token approveToken)
    (hmine : input.payer = payer ∧ input.asset = asset) {amount latestLedger nowUnixSeconds : ℤ}
    (h : approve host approveToken input amount latestLedger nowUnixSeconds l = some l') :
    allowed host payer asset view l' = amount ∧ SameCharges l l' := by
  obtain ⟨rfl, rfl⟩ := hmine
  obtain ⟨transaction, hencode, happly⟩ := Option.bind_eq_some_iff.mp h
  obtain ⟨x, hx, hencode⟩ := Option.bind_eq_some_iff.mp hencode
  obtain ⟨liveUntilLedger, -, hencode⟩ := Option.bind_eq_some_iff.mp hencode
  obtain rfl := Option.some.inj hencode
  simp only [Transaction.apply] at happly
  cases hmade : approveToken l.token input.asset input.payer host.currentContractAddress x
      liveUntilLedger with
  | none =>
      rw [hmade] at happly
      cases happly
  | some t =>
      rw [hmade] at happly
      obtain rfl := Option.some.inj happly
      have hallowed := (hl.approve_ok hmade).1 input.asset input.payer host.currentContractAddress
      rw [if_pos ⟨rfl, rfl, rfl⟩] at hallowed
      exact ⟨hallowed.trans (MachineInt.ofInt?_eq_some.mp hx), rfl, rfl, rfl, rfl⟩

/-- An allowance of zero is read as zero. -/
theorem queryAllowance_zero (hl : Lasting view host.token approveToken)
    (hmine : input.payer = payer ∧ input.asset = asset)
    (hzero : allowed host payer asset view l = 0) {answer : ℤ}
    (h : queryAllowance host input l = some answer) : answer = 0 := by
  obtain ⟨rfl, rfl⟩ := hmine
  obtain ⟨⟨x, t⟩, hanswer, rfl⟩ := Option.map_eq_some_iff.mp h
  have hx := hl.allowance_eq hanswer
  unfold allowed at hzero
  rw [hzero, ite_self] at hx
  exact hx

theorem createMandate_of_error {f : Failure}
    (h : (invoke host ⟨.createMandate input, [input.payer]⟩ l).1 = .error f) :
    createMandate host approveToken input l = ⟨l, .none⟩ := by
  have happly : (Transaction.createMandate input).apply host approveToken l = (.error f, l) :=
    Prod.ext h (invoke_error h)
  unfold createMandate
  rw [happly]

theorem createMandate_of_ok {id : BytesN}
    (h : invoke host ⟨.createMandate input, [input.payer]⟩ l = (.ok (.mandateId id), l')) :
    createMandate host approveToken input l = ⟨l', .created id input⟩ := by
  have happly : (Transaction.createMandate input).apply host approveToken l
      = (.ok (.mandateId id), l') := h
  unfold createMandate
  rw [happly]

/-- The mandate of the checkout is not counted before its approval. -/
theorem inv_createMandate (hinj : Function.Injective host.sha256)
    (hmine : input.payer = payer ∧ input.asset = asset) (hb : Books host l)
    (hcovered : Covered host payer asset view none l) :
    Inv host payer asset view (createMandate host approveToken input l) := by
  cases hout : (invoke host ⟨.createMandate input, [input.payer]⟩ l).1 with
  | error f =>
      rw [createMandate_of_error hout]
      exact ⟨hb, .none hcovered⟩
  | ok v =>
      obtain ⟨l', hinvoke, heffect⟩ := exists_effect hout
      have hb' := books_exec hinj hb (.call ⟨.createMandate input, [input.payer]⟩)
      have hexec : Registry.exec host l (.call ⟨.createMandate input, [input.payer]⟩) = l' :=
        congrArg Prod.snd hinvoke
      rw [hexec] at hb'
      cases heffect with
      | created _ _ hfresh _ =>
          rw [createMandate_of_ok hinvoke]
          refine ⟨hb', .created hmine ?_⟩
          have hnot : owed (counted payer asset (some (host.inputId input))) l.timestamp
              (newMandate (host.inputId input) l.timestamp input) = 0 := by
            unfold owed counted
            simp [Mandate.terms, newMandate]
          have hsame : outstanding (counted payer asset (some (host.inputId input))) l
              = outstanding (counted payer asset none) l := by
            refine outstanding_select fun id m hm => ?_
            have hne : m.id ≠ host.inputId input := by
              intro heq
              rw [← hb.mandate_id hm, heq, hfresh] at hm
              cases hm
            simp [counted, Mandate.terms, hne]
          unfold Covered
          rw [outstanding_created hfresh, hnot, hsame, zero_add]
          exact hcovered

variable {id : BytesN} {latestLedger nowUnixSeconds : ℤ}

theorem inv_resetAllowance (hl : Lasting view host.token approveToken)
    (hinv : Inv host payer asset view ⟨l, .created id input⟩) :
    Inv host payer asset view
      (resetAllowance host approveToken id input latestLedger nowUnixSeconds l) := by
  obtain ⟨hb, hstage⟩ := hinv
  have hmine : input.payer = payer ∧ input.asset = asset := by
    cases hstage with
    | created mine _ => exact mine
  unfold resetAllowance
  cases queryAllowance host input l with
  | none => exact ⟨hb, hstage⟩
  | some currentAllowance =>
      by_cases hpos : 0 < currentAllowance
      · simp only [if_pos hpos]
        cases happrove : approve host approveToken input 0 latestLedger nowUnixSeconds l with
        | none => exact ⟨hb, hstage⟩
        | some l' =>
            obtain ⟨hzero, hsame⟩ := allowed_approve hl hmine happrove
            exact ⟨hb.congr hsame, .reset hmine hzero⟩
      · simp only [if_neg hpos]
        exact ⟨hb, .cleared hmine⟩

theorem inv_confirmZero (hl : Lasting view host.token approveToken)
    (hinv : Inv host payer asset view ⟨l, .reset id input⟩) :
    Inv host payer asset view (confirmZero host id input l) := by
  obtain ⟨hb, hstage⟩ := hinv
  unfold confirmZero
  cases hquery : queryAllowance host input l with
  | none => exact ⟨hb, hstage⟩
  | some confirmedZero =>
      cases hstage with
      | reset mine zero =>
          obtain rfl := queryAllowance_zero hl mine zero hquery
          exact ⟨hb, .cleared mine⟩

/-- The new allowance has room for all mandates. -/
theorem inv_setAllowance (hl : Lasting view host.token approveToken)
    (hinv : Inv host payer asset view ⟨l, .cleared input⟩)
    (hroom : (Checkout.cleared input).HasRoom (outstanding (counted payer asset none) l)) :
    Inv host payer asset view
      (setAllowance host approveToken input latestLedger nowUnixSeconds l) := by
  obtain ⟨hb, hstage⟩ := hinv
  have hmine : input.payer = payer ∧ input.asset = asset := by
    cases hstage with
    | cleared mine => exact mine
  unfold setAllowance
  cases htotal : allowanceTotal input with
  | none => exact ⟨hb, hstage⟩
  | some total =>
      simp only
      cases happrove : approve host approveToken input total latestLedger nowUnixSeconds l with
      | none => exact ⟨hb, hstage⟩
      | some l' =>
          obtain ⟨hallowed, hsame⟩ := allowed_approve hl hmine happrove
          refine ⟨hb.congr hsame, .none ?_⟩
          have hroom := hroom total htotal
          unfold Covered
          rw [outstanding_congr hsame, hallowed]
          omega

theorem inv_exec (hinj : Function.Injective host.sha256) (hl : Lasting view host.token approveToken)
    {s : State T} {action : Action T} (habides : Abides host payer asset view s action)
    (hcovers : Covers host payer asset s action) (hinv : Inv host payer asset view s) :
    Inv host payer asset view (exec host approveToken payer asset s action) := by
  obtain ⟨l, checkout⟩ := s
  cases action with
  | create input =>
      cases checkout with
      | none =>
          by_cases hmine : input.payer = payer ∧ input.asset = asset
          · simp only [exec, if_pos hmine]
            cases hinv.stage with
            | none covered => exact inv_createMandate hinj hmine hinv.books covered
          · simp only [exec, if_neg hmine]
            exact hinv
      | _ => exact hinv
  | reset latestLedger nowUnixSeconds =>
      cases checkout with
      | created id input => exact inv_resetAllowance hl hinv
      | _ => exact hinv
  | confirm =>
      cases checkout with
      | reset id input => exact inv_confirmZero hl hinv
      | _ => exact hinv
  | approve latestLedger nowUnixSeconds =>
      cases checkout with
      | cleared input => exact inv_setAllowance hl hinv hcovers
      | _ => exact hinv
  | other step =>
      exact ⟨books_exec hinj hinv.books step, stage_step hl.faithful hinv habides hcovers⟩

end

/-! ### One mandate alone -/

/-- A mandate may collect at most what the checkout discloses of it. -/
theorem collectible_le_exposure {now created : U64} {m : Mandate} {h : List PaymentReceipt}
    {id : BytesN} {input : MandateInput} (hb : MandateBooks now m h)
    (hterms : m.terms = (newMandate id created input).terms) :
    ∃ exposure, computeMaxExposure (.ofInput input 0) = .ok exposure ∧
      0 ≤ exposure ∧ collectible m now ≤ exposure := by
  rw [MandateTerms.ofInput_eq_ofTerms hterms]
  obtain ⟨n, exposure, hlasts, hexposure, hbound⟩ := exists_exposure hb.terms 0
  change m.expiresAt.val - m.startAt.val ≤ n * m.periodSeconds.val at hlasts
  -- no more periods are left than there were
  have hleft : periodsLeft m now ≤ n := by
    have hfirst := hb.start_le_currentPeriod
    unfold periodsLeft
    refine Int.le_of_lt_add_one (Int.ediv_lt_of_lt_mul hb.period_pos ?_)
    rw [add_mul, one_mul]
    omega
  have hperiods : collectibleByPeriods m now ≤ m.maxPerPeriod.val * n := by
    have hmono := mul_le_mul_of_nonneg_left hleft hb.cap_pos.le
    have hcollected := hb.amountAt_nonneg
    unfold collectibleByPeriods
    omega
  have hcount : collectibleByCount m
      ≤ m.amountRule.perChargeCap.val * m.maxSuccessfulCharges.val := by
    have hcharges := m.successfulCharges.lo_le
    exact mul_le_mul_of_nonneg_left (by omega) hb.terms.cap_pos.le
  have hle : collectible m now ≤ exposure := by
    by_cases hlive : isLive m now
    · exact hbound _ ((collectible_le_byPeriods hlive).trans hperiods)
        fun hne => (collectible_le_byCount hlive hne).trans hcount
    · have hnone : collectible m now = 0 := if_neg hlive
      have hcap := mul_nonneg hb.cap_pos.le (Int.natCast_nonneg n)
      have hcharges := mul_nonneg hb.terms.cap_pos.le m.maxSuccessfulCharges.lo_le
      rw [hnone]
      exact hbound 0 hcap fun _ => hcharges
  exact ⟨exposure, hexposure, hb.collectible_nonneg.trans hle, hle⟩

/-- An approval has room for its mandate when the payer has no other that may be charged. -/
theorem hasRoom_of_alone (hb : Books host l) {id : BytesN} {m : Mandate} {input : MandateInput}
    {created : U64} (hm : l.storage.getMandate id = some m)
    (hterms : m.terms = (newMandate id created input).terms)
    (halone : ∀ id' m', l.storage.getMandate id' = some m' → id' ≠ id →
      counted payer asset none m'.terms = true → isLive m' l.timestamp = false) :
    (Checkout.cleared input).HasRoom (outstanding (counted payer asset none) l) := by
  intro total htotal
  obtain ⟨exposure, hexposure, hnonneg, hle⟩ := collectible_le_exposure (hb.mandate hm) hterms
  obtain ⟨allowance, hallowance, hfee, -⟩ := computeBoundedAllowance_eq hnonneg
  have hothers : ∀ m' ∈ FinMap.values (l.storage.mandates.erase id),
      owed (counted payer asset none) l.timestamp m' = 0 := by
    intro m' hm'
    obtain ⟨id', hid'⟩ := FinMap.mem_values.mp hm'
    obtain ⟨hne, hstored⟩ := FinMap.of_lookup_erase hid'
    unfold owed
    split
    · rename_i hcounted
      exact if_neg (by rw [halone id' m' hstored hne hcounted]; decide)
    · rfl
  have hsum : outstanding (counted payer asset none) l = owed (counted payer asset none) l.timestamp m := by
    unfold outstanding
    rw [((FinMap.values_perm hm).map _).sum_eq, List.map_cons, List.sum_cons,
      List.sum_eq_zero (List.forall_mem_map.mpr hothers), add_zero]
  have howed : owed (counted payer asset none) l.timestamp m ≤ exposure := by
    unfold owed
    split
    · exact hle
    · exact hnonneg
  have hshown : allowanceTotal input = some allowance.total := by
    unfold allowanceTotal
    rw [hexposure]
    show (match computeBoundedAllowance exposure with
      | .ok allowance => some allowance.total
      | .error _ => none) = _
    rw [hallowance]
  obtain rfl := Option.some.inj (hshown.symm.trans htotal)
  rw [hsum]
  omega

/-! ## No charge is starved -/

/-- A mandate that the checkout under way spares is covered. -/
theorem Stage.covers {id : BytesN} (h : Stage host payer asset view l checkout)
    (hspares : checkout.spares id = true) :
    ∃ pending, some id ≠ pending ∧ Covered host payer asset view pending l := by
  cases h with
  | none covered => exact ⟨Option.none, by simp, covered⟩
  | @created id' input mine covered =>
      have hne : id ≠ id' := by simpa [Checkout.spares] using hspares
      exact ⟨some id', fun heq => hne (Option.some.inj heq), covered⟩
  | reset mine zero => cases hspares
  | cleared mine => cases hspares

/-- What is covered can be charged. -/
theorem not_starved_of_inv {approveToken : Approve T} (hl : Lasting view host.token approveToken)
    {s : State T} {action : Action T} (hinv : Inv host payer asset view s)
    (hcovers : Covers host payer asset s action) : ¬ Starved host payer asset view s action := by
  intro hstarved
  unfold Starved at hstarved
  split at hstarved
  · rename_i id chargeId amount invoiceHash authorized
    obtain ⟨m, hm, rfl, rfl, hpasses, hlasts, houtcome⟩ := hstarved
    obtain ⟨pending, hne, hcovered⟩ := hinv.stage.covers (hcovers m hm rfl rfl hpasses)
    obtain ⟨period, collected, hc⟩ := passesRules_iff.mp hpasses
    obtain rfl := hinv.books.mandate_id hm
    have hpos := hc.positive
    have hroom := (hinv.books.mandate hm).amount_le_collectible hc
    have hcounted : counted m.payer m.asset pending m.terms = true := by
      simp [counted, Mandate.terms, hne]
    have howed := hinv.books.collectible_le_outstanding hm hcounted
    unfold Covered at hcovered
    -- so the allowance is enough, and the registry reads it as it is
    have henough : amount.val ≤ allowed host m.payer m.asset view s.ledger := by omega
    cases chargeFailure_of_error houtcome with
    | checks m' _ hm' hanswer =>
        obtain rfl := Option.some.inj (hm.symm.trans hm')
        rw [chargeChecks_ok.mpr hc] at hanswer
        cases hanswer
    | allowance m' x t hm' hanswer hlt =>
        obtain rfl := Option.some.inj (hm.symm.trans hm')
        have hx : x.val = allowed host m.payer m.asset view s.ledger :=
          (hl.allowance_eq hanswer).trans (if_pos hlasts)
        have hlt : x.val < amount.val := hlt
        omega
  · exact hstarved

end

/-- **No charge is starved** in a run in which the approvals have room for all mandates and no charge comes
while the allowance is being set. -/
theorem no_charge_starved {T : Type} {host : Host T} (hinj : Function.Injective host.sha256)
    {view : Approvals T} {approveToken : Approve T} (hl : Lasting view host.token approveToken)
    (payer asset : Address) (t₀ : U64) (tok₀ : T) (actions : List (Action T))
    (habides : ∀ q ∈ Runs.trace (exec host approveToken payer asset) (start t₀ tok₀) actions,
      Abides host payer asset view q.1 q.2)
    (hcovers : ∀ q ∈ Runs.trace (exec host approveToken payer asset) (start t₀ tok₀) actions,
      Covers host payer asset q.1 q.2) :
    ∀ q ∈ Runs.trace (exec host approveToken payer asset) (start t₀ tok₀) actions,
      ¬ Starved host payer asset view q.1 q.2 := by
  intro q hq
  have hstart : Inv host payer asset view (start t₀ tok₀) :=
    ⟨books_genesis host t₀ tok₀, .none (le_max_left 0 _)⟩
  have hinv : Inv host payer asset view q.1 :=
    Runs.trace_invariant_along (P := Inv host payer asset view)
      (C := fun s action => Abides host payer asset view s action ∧ Covers host payer asset s action)
      (fun s action h hinv => inv_exec hinj hl h.1 h.2 hinv) hstart
      (fun q hq => ⟨habides q hq, hcovers q hq⟩) hq
  exact not_starved_of_inv hl hinv (hcovers q hq)

/-! ### Two checkouts of one payer -/

def payerHost : Host ExpiringToken := ⟨⟨0⟩, ⟨0⟩, encodeDigest, expiringToken⟩

/-- Account `1` holds `100` and allows the registry nothing. -/
def payerFunds : ExpiringToken where
  tokens := { mockFunds with allowances := ∅ }
  sequence := 0
  liveUntil := ∅

/-- The checkout of a mandate, when something is allowed already. -/
def checkoutAgain (input : MandateInput) : List (Action ExpiringToken) :=
  [.create input, .reset 0 0, .confirm, .approve 0 0]

/-- The checkout of a mandate that may collect `15`, and then one that may collect `total`, at once. -/
def twoCheckouts (total : I128) : List (Action ExpiringToken) :=
  [.create mockInput, .reset 0 0, .approve 0 0] ++ checkoutAgain { mockInput with
    amountRule := .fixed total
    maxPerPeriod := total
    maxSuccessfulCharges := (MachineInt.ofInt? 1).getD 0
    clientNonce := ⟨8⟩ }

/-- A charge of `5` of the first mandate. -/
def laterCharge : Action ExpiringToken := .other (.call (mockCharge ⟨1⟩ ((MachineInt.ofInt? 5).getD 0)))

theorem abides_twoCheckouts (total : I128) :
    ∀ q ∈ Runs.trace (exec payerHost ExpiringToken.approve ⟨1⟩ ⟨3⟩) (start 0 payerFunds)
      (twoCheckouts total ++ [laterCharge]), Abides payerHost ⟨1⟩ ⟨3⟩ expiringApprovals q.1 q.2 := by
  intro q hq
  have hmem := Runs.mem_of_mem_trace hq
  obtain ⟨s, action⟩ := q
  simp only [twoCheckouts, checkoutAgain, laterCharge, List.mem_append, List.mem_cons,
    List.not_mem_nil, or_false] at hmem
  rcases hmem with ((rfl | rfl | rfl) | rfl | rfl | rfl | rfl) | rfl <;> trivial

/-- The second mandate is of `1`, for which `2` is approved. The first one can no longer be charged. -/
theorem earlier_mandate_starved :
    (∀ q ∈ Runs.trace (exec payerHost ExpiringToken.approve ⟨1⟩ ⟨3⟩) (start 0 payerFunds)
      (twoCheckouts ((MachineInt.ofInt? 1).getD 0) ++ [laterCharge]),
      Abides payerHost ⟨1⟩ ⟨3⟩ expiringApprovals q.1 q.2) ∧
    (Runs.run (exec payerHost ExpiringToken.approve ⟨1⟩ ⟨3⟩) (start 0 payerFunds)
      (twoCheckouts ((MachineInt.ofInt? 1).getD 0))).checkout = .none ∧
    Starved payerHost ⟨1⟩ ⟨3⟩ expiringApprovals
      (Runs.run (exec payerHost ExpiringToken.approve ⟨1⟩ ⟨3⟩) (start 0 payerFunds)
        (twoCheckouts ((MachineInt.ofInt? 1).getD 0))) laterCharge := by
  refine ⟨abides_twoCheckouts _, by decide, ?_⟩
  show ∃ m ∈ _, _ ∧ _ ∧ _ ∧ _ ∧ _
  decide

/-- The second mandate is of `1500`, and the `1515` that are approved have room for both. -/
theorem no_charge_starved_twice :
    ¬ Starved payerHost ⟨1⟩ ⟨3⟩ expiringApprovals
      (Runs.run (exec payerHost ExpiringToken.approve ⟨1⟩ ⟨3⟩) (start 0 payerFunds)
        (twoCheckouts ((MachineInt.ofInt? 1500).getD 0))) laterCharge := by
  have hcovers : ∀ q ∈ Runs.trace (exec payerHost ExpiringToken.approve ⟨1⟩ ⟨3⟩) (start 0 payerFunds)
      (twoCheckouts ((MachineInt.ofInt? 1500).getD 0) ++ [laterCharge]),
      Covers payerHost ⟨1⟩ ⟨3⟩ q.1 q.2 := by decide +kernel
  exact no_charge_starved encodeDigest_injective expiringToken_lasting ⟨1⟩ ⟨3⟩ 0 payerFunds _
    (abides_twoCheckouts _) hcovers _ (Runs.mem_trace_append_cons _ _ laterCharge [])

end Paymap.Web.SharedAllowance
