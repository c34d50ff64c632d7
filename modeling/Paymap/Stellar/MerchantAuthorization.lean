import Paymap.Lib.Tx
import Paymap.Token.Mock

set_option autoImplicit false

/-! # The merchant's authorization of a charge

`packages/stellar/src/merchant-authorization.ts`: the invocation that a merchant is asked to authorize, and
what is checked of the entry that comes back. An entry is a tree of invocations with the credentials of the
address that authorizes them; on the chain it stands for the calls in the tree, and for no others.

The Stellar SDK is a parameter (`Sdk`): it reads entries, says what is in them, writes XDR, hashes, and
verifies signatures. What the check relies on is `Sdk.Documented`: the SDK shows the invocation that is in
the entry, the XDR of two invocations differs, and the preimage that a signature is over names network,
expiry and invocation. `Unforgeable` is what the signatures are for.

An accepted entry authorizes the call it was asked for and nothing else, and its signer has signed just that.
-/

namespace Paymap.Stellar

open Registry (Address BytesN)
open Tx (rejectIf)

/-! ## Entries -/

/-- A value of the contract's host; of the kinds a charge has no use for, only the XDR. -/
inductive ScVal where
  | bytes (value : BytesN)
  | i128 (value : I128)
  /-- The vector of no values. -/
  | emptyVec
  | other (xdr : List UInt8)
deriving DecidableEq

structure InvokeContractArgs where
  contractAddress : Address
  functionName : String
  args : List ScVal
deriving DecidableEq

inductive SorobanAuthorizedFunction where
  | contractFn (args : InvokeContractArgs)
  /-- The creation of a contract. -/
  | createContract (xdr : List UInt8)
deriving DecidableEq

inductive SorobanAuthorizedInvocation where
  | mk (function : SorobanAuthorizedFunction) (subInvocations : List SorobanAuthorizedInvocation)

def SorobanAuthorizedFunction.call? : SorobanAuthorizedFunction → Option InvokeContractArgs
  | .contractFn args => some args
  | .createContract _ => none

mutual

/-- The calls in the tree. -/
def SorobanAuthorizedInvocation.calls : SorobanAuthorizedInvocation → List InvokeContractArgs
  | .mk function subInvocations => function.call?.toList ++ callsOf subInvocations

def callsOf : List SorobanAuthorizedInvocation → List InvokeContractArgs
  | [] => []
  | invocation :: rest => invocation.calls ++ callsOf rest

end

inductive SorobanCredentials where
  | sourceAccount
  | address (address : Address) (nonce : ℤ) (signatureExpirationLedger : ℕ) (signature : ScVal)
deriving DecidableEq

structure SorobanAuthorizationEntry where
  credentials : SorobanCredentials
  rootInvocation : SorobanAuthorizedInvocation

/-- What the signature of an entry is over. -/
structure Preimage where
  networkId : List UInt8
  nonce : ℤ
  signatureExpirationLedger : ℕ
  invocation : SorobanAuthorizedInvocation

/-! ## The SDK -/

inductive CredentialType where
  | sourceAccount
  | address
  | other (name : String)
deriving DecidableEq

structure AuthEntrySignature where
  publicKey : Address
  signature : List UInt8
deriving DecidableEq

/-- `signatures` is `none` for a signer whose signatures are not of the standard form. -/
structure AuthEntrySigner where
  signatures : Option (List AuthEntrySignature)
deriving DecidableEq

structure AuthEntryInfo where
  credentialType : CredentialType
  address : Option Address
  signatureExpirationLedger : Option ℕ
  signers : List AuthEntrySigner
  invocation : SorobanAuthorizedInvocation

structure AuthEntryReadiness where
  ready : Bool
  expired : Bool
deriving DecidableEq

/-- What is used of the SDK, and `Buffer`. A function that may throw comes with the message. -/
structure Sdk where
  PublicKey : Type
  /-- `Buffer.from(text, "base64")`. -/
  bufferFrom : String → List UInt8
  fromXDR : List UInt8 → Except String SorobanAuthorizationEntry
  inspectAuthEntry : SorobanAuthorizationEntry → Except String AuthEntryInfo
  checkAuthEntryReadiness : SorobanAuthorizationEntry → ℕ → Except String AuthEntryReadiness
  /-- `nativeToScVal` with the type `i128`. -/
  nativeToI128 : ℤ → Except String I128
  /-- The XDR of an invocation, as it is compared. -/
  Xdr : Type
  decEqXdr : DecidableEq Xdr
  toXDR : SorobanAuthorizedInvocation → Xdr
  buildAuthorizationEntryPreimage :
    SorobanAuthorizationEntry → ℕ → (networkPassphrase : String) → Except String Preimage
  networkId : (networkPassphrase : String) → List UInt8
  /-- The hash of the XDR of a preimage. -/
  hash : Preimage → List UInt8
  fromPublicKey : Address → Except String PublicKey
  verify : PublicKey → (hash signature : List UInt8) → Bool

namespace Sdk

variable (sdk : Sdk)

instance : DecidableEq sdk.Xdr := sdk.decEqXdr

/-- What the documentation of the SDK says of it. -/
structure Documented : Prop where
  inspect {entry : SorobanAuthorizationEntry} {info : AuthEntryInfo} :
    sdk.inspectAuthEntry entry = .ok info → info.invocation = entry.rootInvocation
  native {n : ℤ} {value : I128} : sdk.nativeToI128 n = .ok value → value.val = n
  toXDR_injective : Function.Injective sdk.toXDR
  preimage {entry : SorobanAuthorizationEntry} {expiration : ℕ} {networkPassphrase : String}
    {preimage : Preimage} :
    sdk.buildAuthorizationEntryPreimage entry expiration networkPassphrase = .ok preimage →
      preimage.networkId = sdk.networkId networkPassphrase ∧
      preimage.signatureExpirationLedger = expiration ∧ preimage.invocation = entry.rootInvocation

/-- A signature that verifies is one that the holder of the key has made: `signed` is what the holder
of the key of each address has signed. -/
def Unforgeable (signed : Address → List UInt8 → Prop) : Prop :=
  ∀ {address : Address} {key : sdk.PublicKey} {hash signature : List UInt8},
    sdk.fromPublicKey address = .ok key → sdk.verify key hash signature = true → signed address hash

end Sdk

/-! ## The invocation -/

structure ChargeAuthorizationArgs where
  mandateId : BytesN
  chargeId : BytesN
  amount : ℤ
  invoiceHash : BytesN
deriving DecidableEq

structure ChargeAuthorizationContext where
  contractId : Address
  networkPassphrase : String
  merchantAddress : Address
deriving DecidableEq

/-- A call of `charge`. -/
def chargeCall (contractId : Address) (mandateId chargeId : BytesN) (amount : I128)
    (invoiceHash : BytesN) : InvokeContractArgs where
  contractAddress := contractId
  functionName := "charge"
  args := [.bytes mandateId, .bytes chargeId, .i128 amount, .bytes invoiceHash]

variable {sdk : Sdk}

def buildChargeAuthorizationInvocation (sdk : Sdk) (contractId : Address)
    (args : ChargeAuthorizationArgs) : Except String SorobanAuthorizedInvocation := do
  let amount ← sdk.nativeToI128 args.amount
  return .mk (.contractFn (chargeCall contractId args.mandateId args.chargeId amount args.invoiceHash)) []

/-- The entry that the merchant is asked to sign. -/
def createUnsignedChargeAuthorization (sdk : Sdk) (context : ChargeAuthorizationContext)
    (args : ChargeAuthorizationArgs) (signatureExpirationLedger : ℕ) (randomNonce : ℤ) :
    Except String SorobanAuthorizationEntry := do
  let rootInvocation ← buildChargeAuthorizationInvocation sdk context.contractId args
  return ⟨.address context.merchantAddress randomNonce signatureExpirationLedger .emptyVec,
    rootInvocation⟩

/-! ## The check -/

structure ValidateChargeAuthorizationInput where
  signedEntryXdr : String
  context : ChargeAuthorizationContext
  args : ChargeAuthorizationArgs
  currentLedgerSeq : ℕ
  expectedExpirationLedger : Option ℕ

/-- The ledger at which a signed entry that is not expired expires. -/
def readyUntil (info : AuthEntryInfo) (readiness : AuthEntryReadiness) : Except String ℕ :=
  match readiness.ready, info.signatureExpirationLedger with
  | true, some expiration => .ok expiration
  | _, _ =>
      .error (if readiness.expired then "Authorization has expired." else "Authorization is unsigned.")

/-- The one signature of the one signer. -/
def merchantSignature (merchantAddress : Address) (info : AuthEntryInfo) : Except String (List UInt8) :=
  match info.signers with
  | [⟨some [signature]⟩] =>
      if signature.publicKey = merchantAddress then .ok signature.signature
      else .error "Authorization must contain exactly one standard merchant signature."
  | _ => .error "Authorization must contain exactly one standard merchant signature."

def validateChargeAuthorization (sdk : Sdk) (input : ValidateChargeAuthorizationInput) :
    Except String ℕ := do
  let raw := sdk.bufferFrom input.signedEntryXdr
  rejectIf (raw.length = 0 ∨ 32768 < raw.length) "Signed authorization XDR has an invalid size."
  let entry ← sdk.fromXDR raw
  let info ← sdk.inspectAuthEntry entry
  let readiness ← sdk.checkAuthEntryReadiness entry input.currentLedgerSeq
  rejectIf (info.credentialType ≠ .address ∨ info.address ≠ some input.context.merchantAddress)
    "Authorization signer does not match the merchant."
  let expiration ← readyUntil info readiness
  rejectIf (input.expectedExpirationLedger.any fun expected => expiration ≠ expected)
    "Authorization expiry differs from the issued challenge."
  let expected ← buildChargeAuthorizationInvocation sdk input.context.contractId input.args
  rejectIf (sdk.toXDR info.invocation ≠ sdk.toXDR expected)
    "Authorization invocation does not match the charge request."
  let signature ← merchantSignature input.context.merchantAddress info
  let preimage ← sdk.buildAuthorizationEntryPreimage entry expiration input.context.networkPassphrase
  let key ← sdk.fromPublicKey input.context.merchantAddress
  rejectIf (sdk.verify key (sdk.hash preimage) signature = false) "Authorization signature is invalid."
  return expiration

/-! ## What is accepted -/

/-- The entry is for one call of `charge` with these arguments, and the merchant has signed it, for the
network and until the ledger. -/
structure Covers (sdk : Sdk) (signed : Address → List UInt8 → Prop)
    (context : ChargeAuthorizationContext) (args : ChargeAuthorizationArgs) (expiration : ℕ)
    (entry : SorobanAuthorizationEntry) : Prop where
  invocation : ∃ amount : I128, amount.val = args.amount ∧
    entry.rootInvocation = .mk (.contractFn
      (chargeCall context.contractId args.mandateId args.chargeId amount args.invoiceHash)) []
  signed : ∃ preimage : Preimage, preimage.networkId = sdk.networkId context.networkPassphrase ∧
    preimage.signatureExpirationLedger = expiration ∧ preimage.invocation = entry.rootInvocation ∧
    signed context.merchantAddress (sdk.hash preimage)

section

variable {signed : Address → List UInt8 → Prop} {context : ChargeAuthorizationContext}
  {args : ChargeAuthorizationArgs} {expiration : ℕ} {entry : SorobanAuthorizationEntry}

theorem buildChargeAuthorizationInvocation_ok (hdoc : sdk.Documented) {contractId : Address}
    {invocation : SorobanAuthorizedInvocation}
    (h : buildChargeAuthorizationInvocation sdk contractId args = .ok invocation) :
    ∃ amount : I128, amount.val = args.amount ∧ invocation = .mk (.contractFn
      (chargeCall contractId args.mandateId args.chargeId amount args.invoiceHash)) [] := by
  obtain ⟨amount, hamount, hinvocation⟩ := Tx.bind_ok.mp h
  exact ⟨amount, hdoc.native hamount, (Except.ok.inj hinvocation).symm⟩

/-- **The only call an entry authorizes** is the one it covers. -/
theorem Covers.calls (h : Covers sdk signed context args expiration entry) :
    ∃ amount : I128, amount.val = args.amount ∧ entry.rootInvocation.calls =
      [chargeCall context.contractId args.mandateId args.chargeId amount args.invoiceHash] := by
  obtain ⟨amount, hamount, hinvocation⟩ := h.invocation
  refine ⟨amount, hamount, ?_⟩
  rw [hinvocation, SorobanAuthorizedInvocation.calls, callsOf]
  rfl

theorem Covers.only (h : Covers sdk signed context args expiration entry) {contractId : Address}
    {mandateId chargeId invoiceHash : BytesN} {amount : I128}
    (hcall : chargeCall contractId mandateId chargeId amount invoiceHash
      ∈ entry.rootInvocation.calls) :
    contractId = context.contractId ∧ mandateId = args.mandateId ∧ chargeId = args.chargeId ∧
      amount.val = args.amount ∧ invoiceHash = args.invoiceHash := by
  obtain ⟨amount', hamount, hcalls⟩ := h.calls
  rw [hcalls, List.mem_singleton] at hcall
  simp only [chargeCall, InvokeContractArgs.mk.injEq, List.cons.injEq, ScVal.bytes.injEq,
    ScVal.i128.injEq] at hcall
  obtain ⟨hcontract, -, hmandate, hcharge, rfl, hinvoice, -⟩ := hcall
  exact ⟨hcontract, hmandate, hcharge, hamount, hinvoice⟩

/-- **What is accepted** covers what was asked for. -/
theorem covers_of_validate (hdoc : sdk.Documented) (hunforgeable : sdk.Unforgeable signed)
    {signedEntryXdr : String} {currentLedgerSeq expected : ℕ}
    (h : validateChargeAuthorization sdk
      ⟨signedEntryXdr, context, args, currentLedgerSeq, some expected⟩ = .ok expiration) :
    ∃ entry, sdk.fromXDR (sdk.bufferFrom signedEntryXdr) = .ok entry ∧
      Covers sdk signed context args expected entry := by
  obtain ⟨_, -, h⟩ := Tx.bind_ok.mp h
  obtain ⟨entry, hentry, h⟩ := Tx.bind_ok.mp h
  obtain ⟨info, hinfo, h⟩ := Tx.bind_ok.mp h
  obtain ⟨readiness, -, h⟩ := Tx.bind_ok.mp h
  obtain ⟨_, -, h⟩ := Tx.bind_ok.mp h
  obtain ⟨until', -, h⟩ := Tx.bind_ok.mp h
  obtain ⟨_, hissued, h⟩ := Tx.bind_ok.mp h
  obtain ⟨invocation, hbuild, h⟩ := Tx.bind_ok.mp h
  obtain ⟨_, hsame, h⟩ := Tx.bind_ok.mp h
  obtain ⟨signature, -, h⟩ := Tx.bind_ok.mp h
  obtain ⟨preimage, hpreimage, h⟩ := Tx.bind_ok.mp h
  obtain ⟨key, hkey, h⟩ := Tx.bind_ok.mp h
  obtain ⟨_, hverify, -⟩ := Tx.bind_ok.mp h
  rw [Tx.rejectIf_ok] at hissued hsame hverify
  -- the invocation in the entry is the one that was built
  have hroot : entry.rootInvocation = invocation := by
    rw [← hdoc.inspect hinfo]
    exact hdoc.toXDR_injective (not_not.mp hsame)
  have hexpires : until' = expected := by simpa using hissued
  obtain ⟨amount, hamount, hinvocation⟩ := buildChargeAuthorizationInvocation_ok hdoc hbuild
  obtain ⟨hnetwork, huntil, hcovers⟩ := hdoc.preimage hpreimage
  exact ⟨entry, hentry,
    { invocation := ⟨amount, hamount, hroot.trans hinvocation⟩
      signed := ⟨preimage, hnetwork, huntil.trans hexpires, hcovers,
        hunforgeable hkey (Bool.eq_true_of_not_eq_false hverify)⟩ }⟩

end

/-! ## An SDK for examples

It reads one entry, which merchant `2` has signed for a charge of `5`, and the hash of everything else is
another one. -/

mutual

def decEqInvocation :
    (a b : SorobanAuthorizedInvocation) → Decidable (a = b)
  | .mk f subs, .mk g subs' =>
      match decEq f g, decEqInvocations subs subs' with
      | isTrue hf, isTrue hsubs => isTrue (by rw [hf, hsubs])
      | isFalse hf, _ => isFalse (by simp [hf])
      | _, isFalse hsubs => isFalse (by simp [hsubs])

def decEqInvocations :
    (l l' : List SorobanAuthorizedInvocation) → Decidable (l = l')
  | [], [] => isTrue rfl
  | [], _ :: _ => isFalse (by simp)
  | _ :: _, [] => isFalse (by simp)
  | a :: l, b :: l' =>
      match decEqInvocation a b, decEqInvocations l l' with
      | isTrue hab, isTrue hl => isTrue (by rw [hab, hl])
      | isFalse hab, _ => isFalse (by simp [hab])
      | _, isFalse hl => isFalse (by simp [hl])

end

instance : DecidableEq SorobanAuthorizedInvocation := decEqInvocation

section

open Registry (mockId)

def mockContext : ChargeAuthorizationContext := ⟨⟨4⟩, "Test SDF Network", ⟨2⟩⟩

def mockArgs : ChargeAuthorizationArgs := ⟨mockId, ⟨1⟩, 5, ⟨6⟩⟩

def mockInvocation : SorobanAuthorizedInvocation :=
  .mk (.contractFn (chargeCall ⟨4⟩ mockId ⟨1⟩ ((MachineInt.ofInt? 5).getD 0) ⟨6⟩)) []

def mockEntry : SorobanAuthorizationEntry := ⟨.address ⟨2⟩ 0 1000 (.other [7]), mockInvocation⟩

def mockHash (preimage : Preimage) : List UInt8 :=
  if preimage.invocation = mockInvocation ∧ preimage.signatureExpirationLedger = 1000 ∧
      preimage.networkId = [1] then [9] else [0]

def mockSdk : Sdk where
  PublicKey := Address
  bufferFrom text := if text = "signed" then [1] else []
  fromXDR raw := if raw = [1] then .ok mockEntry else .error "XDR Read Error"
  inspectAuthEntry entry :=
    match entry.credentials with
    | .address address _ expiration (.other signature) => .ok
        ⟨.address, some address, some expiration, [⟨some [⟨address, signature⟩]⟩], entry.rootInvocation⟩
    | .address address _ expiration _ =>
        .ok ⟨.address, some address, some expiration, [], entry.rootInvocation⟩
    | .sourceAccount => .ok ⟨.sourceAccount, none, none, [], entry.rootInvocation⟩
  checkAuthEntryReadiness entry latestLedger :=
    match entry.credentials with
    | .address _ _ expiration (.other _) => .ok ⟨latestLedger < expiration, expiration ≤ latestLedger⟩
    | .address _ _ expiration _ => .ok ⟨false, expiration ≤ latestLedger⟩
    | .sourceAccount => .ok ⟨true, false⟩
  nativeToI128 n := (MachineInt.ofInt? n).elim (.error "out of range") .ok
  Xdr := SorobanAuthorizedInvocation
  decEqXdr := inferInstance
  toXDR invocation := invocation
  buildAuthorizationEntryPreimage entry expiration networkPassphrase :=
    match entry.credentials with
    | .address _ nonce _ _ =>
        .ok ⟨if networkPassphrase = "Test SDF Network" then [1] else [2], nonce, expiration,
          entry.rootInvocation⟩
    | .sourceAccount => .error "no address credentials"
  networkId networkPassphrase := if networkPassphrase = "Test SDF Network" then [1] else [2]
  hash := mockHash
  fromPublicKey address := .ok address
  verify key hash signature := key = ⟨2⟩ && hash = [9] && signature = [7]

/-- Merchant `2` has signed the hash of the one preimage. -/
def mockSigned (address : Address) (hash : List UInt8) : Prop := address = ⟨2⟩ ∧ hash = [9]

theorem mockSdk_documented : mockSdk.Documented where
  inspect {entry info} h := by
    change (match entry.credentials with
      | .address address _ expiration (.other signature) => Except.ok _
      | .address address _ expiration _ => Except.ok _
      | .sourceAccount => Except.ok _) = Except.ok info at h
    split at h <;> exact Except.ok.inj h ▸ rfl
  native {n value} h := by
    change (MachineInt.ofInt? n).elim (Except.error "out of range") Except.ok = .ok value at h
    cases hn : (MachineInt.ofInt? n : Option I128) with
    | none => rw [hn] at h; cases h
    | some v =>
        rw [hn] at h
        obtain rfl := Except.ok.inj h
        exact MachineInt.ofInt?_eq_some.mp hn
  toXDR_injective _ _ h := h
  preimage {entry expiration networkPassphrase preimage} h := by
    change (match entry.credentials with
      | .address _ nonce _ _ => Except.ok _
      | .sourceAccount => Except.error _) = Except.ok preimage at h
    split at h
    · obtain rfl := Except.ok.inj h
      exact ⟨rfl, rfl, rfl⟩
    · cases h

theorem mockSdk_unforgeable : mockSdk.Unforgeable mockSigned := by
  intro address key hash signature hkey hverify
  obtain rfl := Except.ok.inj hkey
  change (decide _ && decide _ && decide _) = true at hverify
  simp only [Bool.and_eq_true, decide_eq_true_eq] at hverify
  exact ⟨hverify.1.1, hverify.1.2⟩

example : validateChargeAuthorization mockSdk ⟨"signed", mockContext, mockArgs, 999, some 1000⟩
    = .ok 1000 := by rfl

end

end Paymap.Stellar
