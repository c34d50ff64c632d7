import Mathlib.Logic.Equiv.List
import Paymap.Registry.Calls
import Paymap.Token.Spec

set_option autoImplicit false

/-! # The mock token

`mock-token/src/lib.rs`, the token the repository tests the registry against, as one `Token`: the
state of all deployed mock tokens is keyed by asset. `mint`, `approve` and `set_fail_transfers` are
not called by the registry; a run reaches their effects by a step of the tokens.

`mockToken_faithful`: it is a faithful token. (Moving an amount from an account to itself creates
money, because `move_balance` reads both balances before it writes either; a faithful token is not
asked about that.)
-/

namespace Paymap.Registry

structure MockToken where
  /-- `Balance(id)`, by asset. -/
  balances : FinMap (Address × Address) I128
  /-- `Allowance(from, spender)`, by asset. -/
  allowances : FinMap (Address × Address × Address) I128
  failTransfers : FinMap Address Bool

namespace MockToken

def balance (t : MockToken) (asset id : Address) : I128 :=
  (t.balances.lookup (asset, id)).getD 0

def allowance (t : MockToken) (asset source spender : Address) : I128 :=
  (t.allowances.lookup (asset, source, spender)).getD 0

def failTransfersEnabled (t : MockToken) (asset : Address) : Bool :=
  (t.failTransfers.lookup asset).getD false

/-- `a - b`, or a panic when it overflows or is negative. -/
def debit (a b : I128) : Option I128 := do
  let updated ← a.checkedSub b
  if updated.val < 0 then none else some updated

def moveBalance (t : MockToken) (asset source dest : Address) (amount : I128) :
    Option MockToken := do
  let updatedFrom ← debit (t.balance asset source) amount
  let updatedTo ← (t.balance asset dest).checkedAdd amount
  some { t with
    balances := (t.balances.insert (asset, source) updatedFrom).insert (asset, dest) updatedTo }

def transfer (t : MockToken) (auth : Address → Bool) (asset source dest : Address)
    (amount : I128) : Option MockToken :=
  if auth source = false ∨ amount.val ≤ 0 ∨ t.failTransfersEnabled asset then none
  else t.moveBalance asset source dest amount

def transferFrom (t : MockToken) (auth : Address → Bool) (asset spender source dest : Address)
    (amount : I128) : Option MockToken :=
  if auth spender = false ∨ amount.val ≤ 0 ∨ t.failTransfersEnabled asset then none
  else do
    let updatedAllowance ← debit (t.allowance asset source spender) amount
    let t := { t with
      allowances := t.allowances.insert (asset, source, spender) updatedAllowance }
    t.moveBalance asset source dest amount

end MockToken

def mockToken : Token MockToken where
  allowance t asset owner spender := some (t.allowance asset owner spender, t)
  balance t asset id := some (t.balance asset id, t)
  transferFrom := MockToken.transferFrom
  transfer := MockToken.transfer

def mockHoldings : Holdings MockToken where
  balanceOf t asset x := (t.balance asset x).val
  allowanceOf t asset owner spender := (t.allowance asset owner spender).val

/-! ## It is faithful -/

theorem MockToken.debit_eq_some {a b x : I128} (h : MockToken.debit a b = some x) :
    x.val = a.val - b.val := by
  obtain ⟨y, hy, hx⟩ := Option.bind_eq_some_iff.mp h
  split at hx
  · cases hx
  · cases hx
    exact MachineInt.ofInt?_eq_some.mp hy

theorem MockToken.moveBalance_moves {t t' : MockToken} {asset source dest : Address}
    {amount : I128} (h : t.moveBalance asset source dest amount = some t') (hne : source ≠ dest) :
    Moves mockHoldings t t' asset source dest amount.val ∧ t'.allowances = t.allowances := by
  obtain ⟨updatedFrom, hfrom, h⟩ := Option.bind_eq_some_iff.mp h
  obtain ⟨updatedTo, hto, h⟩ := Option.bind_eq_some_iff.mp h
  have hfrom := debit_eq_some hfrom
  have hto : updatedTo.val = _ := MachineInt.ofInt?_eq_some.mp hto
  cases h
  refine ⟨?_, rfl⟩
  intro a x
  simp only [mockHoldings, balance] at hfrom hto ⊢
  rw [FinMap.lookup_insert, FinMap.lookup_insert]
  by_cases ha : a = asset
  · subst ha
    by_cases hx : x = dest
    · subst hx
      simp [hto, hne.symm]
    · by_cases hs : x = source
      · subst hs
        simp [hfrom, hne]
      · simp [hx, hs]
  · simp [ha]

theorem mockToken_faithful : Faithful mockHoldings mockToken where
  allowance_ok h := by
    cases h; exact ⟨fun _ _ => rfl, fun _ _ _ => rfl⟩
  balance_ok h := by
    cases h; exact ⟨fun _ _ => rfl, fun _ _ _ => rfl⟩
  transferFrom_ok {t t' auth asset spender source dest amount} h hne := by
    change MockToken.transferFrom t auth asset spender source dest amount = some t' at h
    unfold MockToken.transferFrom at h
    split at h
    · cases h
    · obtain ⟨updated, hallowance, h⟩ := Option.bind_eq_some_iff.mp h
      have hallowance := MockToken.debit_eq_some hallowance
      obtain ⟨hmoves, hkeep⟩ := MockToken.moveBalance_moves h hne
      refine ⟨hmoves, ?_⟩
      intro a o s
      simp only [mockHoldings, MockToken.allowance]
      rw [hkeep, FinMap.lookup_insert]
      by_cases heq : (a, o, s) = (asset, source, spender)
      · cases heq
        simp [hallowance, MockToken.allowance]
      · rw [if_neg heq, if_neg (by simpa using heq)]
        simp
  transfer_ok {t t' auth asset source dest amount} h hne := by
    change MockToken.transfer t auth asset source dest amount = some t' at h
    unfold MockToken.transfer at h
    split at h
    · cases h
    · obtain ⟨hmoves, hkeep⟩ := MockToken.moveBalance_moves h hne
      refine ⟨hmoves, fun a o s => ?_⟩
      simp only [mockHoldings, MockToken.allowance]
      rw [hkeep]

/-! ## What it looks at -/

/-- The balances of the two parties, what the payer allows the registry, and the test switch. -/
def mockSees (registry : Address) (t : MockToken) (asset payer merchant : Address) :
    I128 × I128 × I128 × Bool :=
  (t.balance asset payer, t.balance asset merchant, t.allowance asset payer registry,
    t.failTransfersEnabled asset)

theorem MockToken.isSome_moveBalance (t : MockToken) (asset source dest : Address)
    (amount : I128) :
    (t.moveBalance asset source dest amount).isSome
      = ((debit (t.balance asset source) amount).isSome &&
        ((t.balance asset dest).checkedAdd amount).isSome) := by
  unfold moveBalance
  cases debit (t.balance asset source) amount with
  | none => rfl
  | some updatedFrom =>
      cases (t.balance asset dest).checkedAdd amount with
      | none => rfl
      | some updatedTo => rfl

theorem MockToken.isSome_transferFrom (t : MockToken) (auth : Address → Bool)
    (asset spender source dest : Address) (amount : I128) :
    (t.transferFrom auth asset spender source dest amount).isSome
      = if auth spender = false ∨ amount.val ≤ 0 ∨ t.failTransfersEnabled asset then false
        else (debit (t.allowance asset source spender) amount).isSome &&
          ((debit (t.balance asset source) amount).isSome &&
            ((t.balance asset dest).checkedAdd amount).isSome) := by
  unfold transferFrom
  split
  · rfl
  · cases debit (t.allowance asset source spender) amount with
    | none => rfl
    | some updatedAllowance => exact isSome_moveBalance _ asset source dest amount

theorem mockToken_dependsOn (registry : Address) :
    mockToken.DependsOn registry (mockSees registry) where
  allowance {t t' asset payer merchant} h := by
    have hallowance := congrArg (fun seen => seen.2.2.1) h
    exact .some ⟨hallowance, h⟩
  balance {t t' asset payer merchant id} hid h := by
    have hpayer := congrArg (fun seen => seen.1) h
    have hmerchant := congrArg (fun seen => seen.2.1) h
    rcases hid with rfl | rfl
    · exact .some ⟨hpayer, h⟩
    · exact .some ⟨hmerchant, h⟩
  transferFrom {t t' asset payer merchant} auth amount h := by
    simp only [mockSees, Prod.mk.injEq] at h
    obtain ⟨hpayer, hmerchant, hallowance, hswitch⟩ := h
    show (t.transferFrom auth asset registry payer merchant amount).isSome ↔
      (t'.transferFrom auth asset registry payer merchant amount).isSome
    rw [MockToken.isSome_transferFrom, MockToken.isSome_transferFrom, hpayer, hmerchant,
      hallowance, hswitch]
  transfer {t t' asset payer merchant} auth amount h := by
    simp only [mockSees, Prod.mk.injEq] at h
    obtain ⟨hpayer, hmerchant, -, hswitch⟩ := h
    show (t.transfer auth asset merchant payer amount).isSome ↔
      (t'.transfer auth asset merchant payer amount).isSome
    unfold MockToken.transfer
    rw [hswitch]
    split
    · rfl
    · rw [MockToken.isSome_moveBalance, MockToken.isSome_moveBalance, hpayer, hmerchant]

/-! ## A host to run on

And a first run: account `1` lets account `2` collect up to `5` of asset `3` at a time and `8` in
every `100` seconds, is charged `5`, and gets `3` of it back. -/

/-- A number for each hash preimage element. -/
def Val.code : Val → ℕ
  | .bytes b => 2 * b.word
  | .address a => 2 * a.id + 1

theorem Val.code_injective : Function.Injective Val.code := by
  intro v w h
  cases v with
  | bytes b =>
      cases w with
      | bytes b' =>
          obtain ⟨x⟩ := b; obtain ⟨y⟩ := b'
          have : x = y := by simpa [code] using h
          rw [this]
      | address a => simp only [code] at h; omega
  | address a =>
      cases w with
      | bytes b => simp only [code] at h; omega
      | address a' =>
          obtain ⟨x⟩ := a; obtain ⟨y⟩ := a'
          have : x = y := by simpa [code] using h
          rw [this]

/-- An injective digest that can be computed. -/
def encodeDigest (vals : List Val) : BytesN := ⟨Encodable.encode (vals.map Val.code)⟩

theorem encodeDigest_injective : Function.Injective encodeDigest := by
  intro v w h
  have hcode : Encodable.encode (v.map Val.code) = Encodable.encode (w.map Val.code) :=
    congrArg BytesN.word h
  exact List.map_injective_iff.mpr Val.code_injective (Encodable.encode_injective hcode)

/-- A registry deployed at address `0`, on mock tokens. -/
def mockHost : Host MockToken := ⟨⟨0⟩, ⟨0⟩, encodeDigest, mockToken⟩

/-- Account `1` holds `100` and allows the registry as much. -/
def mockFunds : MockToken where
  balances := (∅ : FinMap (Address × Address) I128).insert (⟨3⟩, ⟨1⟩) (.lit 100 (by decide))
  allowances := (∅ : FinMap (Address × Address × Address) I128).insert (⟨3⟩, ⟨1⟩, ⟨0⟩)
    (.lit 100 (by decide))
  failTransfers := ∅

def mockInput : MandateInput where
  payer := ⟨1⟩
  merchant := ⟨2⟩
  asset := ⟨3⟩
  amountRule := .variableUpTo (.lit 5 (by decide))
  maxPerPeriod := .lit 8 (by decide)
  periodSeconds := .lit 100 (by decide)
  minIntervalSeconds := .lit 10 (by decide)
  startAt := 0
  expiresAt := .lit 1000 (by decide)
  maxSuccessfulCharges := .lit 3 (by decide)
  metadataHash := ⟨0⟩
  clientNonce := ⟨7⟩

def mockId : BytesN := mockHost.inputId mockInput

/-- A charge by the merchant of the mandate. -/
def mockCharge (chargeId : BytesN) (amount : I128) : Call :=
  ⟨.charge mockId chargeId amount ⟨0⟩, [⟨2⟩]⟩

def mockCreation : Step MockToken := .call ⟨.createMandate mockInput, [⟨1⟩]⟩

/-- A refund of `3`, by the merchant, of the payment that charge `1` made. -/
def mockRefund : Call :=
  ⟨.refund mockId (mockHost.derivePaymentId mockId ⟨1⟩) (.lit 3 (by decide)) ⟨9⟩, [⟨2⟩]⟩

def mockRun : List (Step MockToken) :=
  [mockCreation, .call (mockCharge ⟨1⟩ (.lit 5 (by decide))), .call mockRefund]

/-- The registry signs none of the calls. -/
theorem mockRun_authorized (c : Call) (hc : .call c ∈ mockRun) :
    mockHost.currentContractAddress ∉ c.authorized := by
  simp only [mockRun, mockCreation, List.mem_cons, Step.call.injEq, List.not_mem_nil,
    or_false] at hc
  rcases hc with rfl | rfl | rfl <;> decide

def mockStart : Ledger MockToken := genesis 0 mockFunds

end Paymap.Registry
