import Paymap.Client.Domain
import Paymap.Lib.Hex

set_option autoImplicit false

/-! # Ids as texts

Outside the contract a 32-byte id is a text of 64 hexadecimal digits (`packages/contract-client/src/domain.ts`,
`packages/shared/src/types.ts`). Digits of either case are accepted, and `idToHex` writes lower case, so an
id has as many spellings as it has letters to spell, and one of them comes back from the chain.
-/

namespace Paymap.Client

open Registry (Address BytesN)

/-- `HexId32Schema`, and `ID_HEX_PATTERN`. -/
def IsHexId32 (text : String) : Prop :=
  text.toList.length = 64 ∧ ∀ c ∈ text.toList, Hex.IsDigit c

instance (text : String) : Decidable (IsHexId32 text) :=
  decidable_of_iff (text.toList.length = 64 ∧ text.toList.all (fun c => Hex.IsDigit c) = true)
    (by simp only [IsHexId32, List.all_eq_true, decide_eq_true_eq])

/-- No letter of the text is in upper case. -/
def IsLowerCase (text : String) : Prop := ∀ c ∈ text.toList, c.toLower = c

instance (text : String) : Decidable (IsLowerCase text) :=
  decidable_of_iff (text.toList.all (fun c => c.toLower = c) = true)
    (by simp only [IsLowerCase, List.all_eq_true, decide_eq_true_eq])

def idToHex (id : BytesN) : String := String.ofList (Hex.encode (Hex.bytes 32 id.word))

def hexToId (hex : String) : Option BytesN :=
  if IsHexId32 hex then some ⟨Hex.word (Hex.decode hex.toList)⟩ else none

section

variable {text : String} {id : BytesN}

theorem hexToId_eq_some (h : hexToId text = some id) :
    IsHexId32 text ∧ id = ⟨Hex.word (Hex.decode text.toList)⟩ := by
  unfold hexToId at h
  split at h
  · rename_i hhex
    exact ⟨hhex, (Option.some.inj h).symm⟩
  · cases h

/-- **A spelling survives the way to the chain and back** exactly when it is in lower case. -/
theorem idToHex_eq_iff (h : hexToId text = some id) : idToHex id = text ↔ IsLowerCase text := by
  obtain ⟨⟨hlength, hdigits⟩, rfl⟩ := hexToId_eq_some h
  have hbytes : Hex.bytes 32 (Hex.word (Hex.decode text.toList)) = Hex.decode text.toList :=
    Hex.bytes_word (Hex.encode_decode hdigits hlength).2
  have hback := Hex.encode_decode_iff hdigits (n := 32) hlength
  unfold idToHex
  rw [hbytes]
  constructor
  · intro heq
    have hchars := congrArg String.toList heq
    rw [String.toList_ofList] at hchars
    exact hback.mp hchars
  · intro hlower
    rw [hback.mpr hlower, String.ofList_toList]

theorem isLowerCase_idToHex (id : BytesN) : IsLowerCase (idToHex id) := by
  unfold IsLowerCase idToHex
  rw [String.toList_ofList]
  exact fun c hc => Hex.toLower_encode hc

end

structure PaymentReceipt where
  paymentId : String
  mandateId : String
  chargeId : String
  payer : Address
  merchant : Address
  asset : Address
  amount : ℤ
  invoiceHash : String
  timestamp : ℤ
deriving DecidableEq

def toDomainPaymentReceipt (receipt : Registry.PaymentReceipt) : PaymentReceipt where
  paymentId := idToHex receipt.paymentId
  mandateId := idToHex receipt.mandateId
  chargeId := idToHex receipt.chargeId
  payer := receipt.payer
  merchant := receipt.merchant
  asset := receipt.asset
  amount := receipt.amount.val
  invoiceHash := idToHex receipt.invoiceHash
  timestamp := receipt.timestamp.val

end Paymap.Client
