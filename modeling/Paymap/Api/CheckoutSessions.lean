import Paymap.Api.Linking

set_option autoImplicit false

/-! # Checkout sessions and the decimals of a mandate

The row that `POST /checkout-sessions` makes (`apps/api/src/routes/checkout-sessions.ts`), and the decimals
of the asset of a mandate (`apps/api/src/services/asset-decimals.ts`), which are those of the product of a
session that the mandate is linked to. The query has no order, so of several sessions the database picks
one.
-/

namespace Paymap.Api

open Linking (CheckoutSession)
open Registry (Address)
open Relayer (Time Uuid)

/-! ## The rows -/

structure ProductRow where
  merchantId : Uuid
  product : Product

/-- `CreateCheckoutSessionSchema`; the id of the product is there as a text, too. -/
structure CreateCheckoutSessionInput where
  productId : Uuid
  productIdText : String
  clientReference : Option String
  payerAddress : Option Address
  expiresAt : Option Time

def productNotFound (productIdText : String) : RouteError :=
  .api 404 "PRODUCT_NOT_FOUND" ("No product \"" ++ productIdText ++ "\" for this merchant.")

/-- The row that `POST /checkout-sessions` makes. -/
def newSession (merchantId : Uuid) (walletAddress : Address) (now : Time)
    (input : CreateCheckoutSessionInput) (product : Product) : CheckoutSession where
  merchantId := merchantId
  productId := input.productId
  clientReference := input.clientReference
  payerAddress := input.payerAddress
  expiresAt := input.expiresAt.getD (now + product.defaultDurationSeconds.toNat * 1000)
  status := .pending
  mandateId := none
  createdAt := now
  merchantWalletAddress := walletAddress
  productAssetAddress := product.assetAddress

def checkoutSessionOf (products : FinMap Uuid ProductRow) (merchantId : Uuid)
    (walletAddress : Address) (now : Time) (input : CreateCheckoutSessionInput) :
    Except RouteError CheckoutSession :=
  match products.lookup input.productId with
  | none => .error (productNotFound input.productIdText)
  | some row =>
      if row.merchantId = merchantId then
        .ok (newSession merchantId walletAddress now input row.product)
      else .error (productNotFound input.productIdText)

/-- A new session refers to a product and is not linked. -/
theorem checkoutSessionOf_ok {products : FinMap Uuid ProductRow} {merchantId : Uuid}
    {walletAddress : Address} {now : Time} {input : CreateCheckoutSessionInput}
    {session : CheckoutSession}
    (h : checkoutSessionOf products merchantId walletAddress now input = .ok session) :
    session.mandateId = none ∧ ∃ row, products.lookup session.productId = some row := by
  unfold checkoutSessionOf at h
  cases hrow : products.lookup input.productId with
  | none => rw [hrow] at h; cases h
  | some row =>
      simp only [hrow] at h
      split_ifs at h
      cases h
      exact ⟨rfl, row, hrow⟩

/-! ## The decimals of a mandate -/

/-- What is stored under `choice` among the rows with `p`, which come in no order. -/
def findFirst {κ β : Type} (choice : ℕ) (p : β → Bool) (rows : FinMap κ β) : Option β :=
  let matching := (FinMap.values rows).filter p
  matching[choice % matching.length]?

def mandateNotLinkedToProduct : RouteError :=
  .api 404 "MANDATE_NOT_LINKED_TO_PRODUCT"
    ("No checkout session for this merchant created this mandate " ++
      "— its asset's decimals are unknown.")

/-- The database picks by `choice`. -/
def resolveAssetDecimalsForMandate (choice : ℕ) (products : FinMap Uuid ProductRow)
    (sessions : FinMap String CheckoutSession) (merchantId : Uuid) (mandateId : String) :
    Except RouteError ℤ :=
  match findFirst choice (fun row => row.merchantId = merchantId ∧ row.mandateId = some mandateId)
      sessions with
  | none => .error mandateNotLinkedToProduct
  | some session =>
      match products.lookup session.productId with
      -- a session refers to a product
      | none => .error .unexpected
      | some row => .ok row.product.assetDecimals

/-! ## Looking up one row of several -/

section

variable {κ β : Type} [DecidableEq κ] {p : β → Bool} {rows : FinMap κ β} {b : β}

theorem findFirst_some {choice : ℕ} (h : findFirst choice p rows = some b) :
    p b = true ∧ ∃ k, rows.lookup k = some b := by
  have hmem := List.mem_filter.mp (List.mem_of_getElem? h)
  exact ⟨hmem.2, FinMap.mem_values.mp hmem.1⟩

/-- Any of the rows may be the one that is picked. -/
theorem exists_findFirst {k : κ} (hrow : rows.lookup k = some b) (hp : p b = true) :
    ∃ choice, findFirst choice p rows = some b := by
  have hmem : b ∈ (FinMap.values rows).filter p :=
    List.mem_filter.mpr ⟨FinMap.mem_values.mpr ⟨k, hrow⟩, hp⟩
  obtain ⟨i, hi, hget⟩ := List.getElem_of_mem hmem
  refine ⟨i, ?_⟩
  simp only [findFirst, Nat.mod_eq_of_lt hi]
  rw [List.getElem?_eq_getElem hi, hget]

end

end Paymap.Api
