import Paymap.Api.CheckoutSessions
import Paymap.Api.ExactlyOnce
import Paymap.Registry.Calls

set_option autoImplicit false

/-! # Refund requests

`POST /payments/:id/refunds` (`apps/api/src/routes/payments.ts`), the requests it makes and the chain
beside it. The route reads the payment, the decimals of its asset and the total refunded on the chain,
compares, and then has `runIdempotent` make the row. Each of these is a step of its own, so other
requests and refunds on the chain come between them.

A row of `RefundRequest` stays `scheduled`: nothing submits it yet. The total refunded in a row of
`Payment` stays 0, as only a confirmed refund is to change it.
-/

namespace Paymap.Api

open Idempotency
open Registry (BytesN Host Ledger)
open Relayer (ChargeRequestStatus Time Uuid)

/-! ## Rows -/

/-- The columns of `Payment` that the route reads. -/
structure PaymentRow where
  paymentId : BytesN
  merchantId : Uuid
  mandateId : BytesN
  amount : ℤ
  refundedTotal : ℤ
  deriving DecidableEq

structure RefundRequest where
  merchantId : Uuid
  paymentId : BytesN
  refundId : BytesN
  amount : ℤ
  status : ChargeRequestStatus
  deriving DecidableEq

/-- The columns the database fills in. -/
structure RefundRequestDefaults where
  id : Uuid
  createdAt : Time

structure RefundRequestResponse where
  id : Uuid
  paymentId : BytesN
  refundId : BytesN
  amount : String
  status : ChargeRequestStatus
  createdAt : Time

/-- The handler makes one row. -/
abbrev refundHandling : Handling where
  Statement := RefundRequest
  Answer _ := RefundRequestDefaults
  Error := RouteError
  Body := RefundRequestResponse
  Json := RefundRequestResponse
  toJson := some

def toRefundRequestResponse (row : RefundRequest) (defaults : RefundRequestDefaults) (decimals : ℤ) :
    Except RouteError RefundRequestResponse := do
  let amount ← responseAmount row.amount decimals
  return ⟨defaults.id, row.paymentId, row.refundId, amount, row.status, defaults.createdAt⟩

/-! ## The route -/

/-- A request, with the refund id that is drawn for it. -/
structure RefundPost where
  merchantId : Uuid
  idempotencyKey : String
  paymentId : BytesN
  amount : String
  requestHash : String
  refundId : BytesN

/-- A refund with what the route has read for it. -/
structure Accepted where
  post : RefundPost
  payment : PaymentRow
  decimals : ℤ
  amountBaseUnits : ℤ
  /-- The total on the chain, or in the row if that is larger. -/
  refundedTotal : ℤ

namespace Accepted

def row (a : Accepted) : RefundRequest where
  merchantId := a.post.merchantId
  paymentId := a.payment.paymentId
  refundId := a.post.refundId
  amount := a.amountBaseUnits
  status := .scheduled

def handler (a : Accepted) : Handler refundHandling :=
  .call a.row fun defaults? =>
    match defaults? with
    | none => .raise .unexpected
    | some defaults =>
        match toRefundRequestResponse a.row defaults a.decimals with
        | .ok response => .ret ⟨201, response⟩
        | .error e => .raise e

def call (a : Accepted) : Call refundHandling :=
  ⟨(a.post.merchantId, a.post.idempotencyKey), a.post.requestHash, a.handler⟩

end Accepted

inductive RefundEffect where
  | findPayment (paymentId : BytesN) (merchantId : Uuid)
  | resolveAssetDecimalsForMandate (merchantId : Uuid) (mandateId : BytesN)
  | getRefundedTotal (paymentId : BytesN)
  | runIdempotent (accepted : Accepted)

/-- `none` is an exception. -/
abbrev RefundAnswer : RefundEffect → Type
  | .findPayment _ _ => Option (Option PaymentRow)
  | .resolveAssetDecimalsForMandate _ _ => Option (Option ℤ)
  | .getRefundedTotal _ => Option ℤ
  | .runIdempotent _ => Unit

abbrev RefundJob (α : Type) := Prog RefundEffect RefundAnswer RouteError α

def RefundEffect.run (e : RefundEffect) : RefundJob (RefundAnswer e) := .perform e

def refundExceedsPayment : RouteError :=
  .api 422 "RefundExceedsPayment" "Refund amount would exceed the original payment amount."

/-- The comparison, and the request. -/
def submitRefund (a : Accepted) : RefundJob Unit :=
  if a.refundedTotal + a.amountBaseUnits > a.payment.amount then .raise refundExceedsPayment
  else (RefundEffect.runIdempotent a).run

/-- The route, once the payment and its decimals are read. -/
def acceptRefund (post : RefundPost) (payment : PaymentRow) (decimals : ℤ) : RefundJob Unit :=
  match Shared.decimalToPositiveBaseUnits post.amount decimals with
  | .error e => .raise (badRequest "INVALID_AMOUNT" e.message)
  | .ok amountBaseUnits => do
      match ← (RefundEffect.getRefundedTotal post.paymentId).run with
      | none => .raise .unexpected
      | some onChainRefundedTotal =>
          let refundedTotal :=
            if onChainRefundedTotal > payment.refundedTotal then onChainRefundedTotal
            else payment.refundedTotal
          submitRefund ⟨post, payment, decimals, amountBaseUnits, refundedTotal⟩

def postRefund (post : RefundPost) (paymentIdText : String) : RefundJob Unit := do
  match ← (RefundEffect.findPayment post.paymentId post.merchantId).run with
  | none => .raise .unexpected
  | some none =>
      .raise (.api 404 "PaymentNotFound" ("No payment \"" ++ paymentIdText ++ "\" for this merchant."))
  | some (some payment) =>
      match ← (RefundEffect.resolveAssetDecimalsForMandate post.merchantId payment.mandateId).run with
      | none => .raise .unexpected
      | some none => .raise mandateNotLinkedToProduct
      | some (some decimals) => acceptRefund post payment decimals

/-! ## The requests beside the chain -/

section

variable {T : Type}

structure RefundShared (T : Type) where
  ledger : Ledger T
  payments : FinMap BytesN PaymentRow
  /-- The requests that have passed the check, each a call of `runIdempotent`. -/
  accepted : List Accepted
  idempotency : System refundHandling

/-- What becomes of a read: it fails, or is answered. The decimals are those of some product. -/
inductive RefundReply where
  | failed
  | served (assetDecimals : Option ℤ)

namespace RefundShared

/-- The on-chain total of a payment, 0 when nothing was refunded. -/
def refundedTotal (s : RefundShared T) (paymentId : BytesN) : ℤ :=
  (s.ledger.storage.getRefundedTotal paymentId).val

/-- The rows of `RefundRequest`: those that committed transactions have made. -/
def refundRequests (s : RefundShared T) : List RefundRequest :=
  s.idempotency.shared.committed.flatMap fun q => q.2.statements

def performRefund (reply : RefundReply) :
    (e : RefundEffect) → RefundShared T → RefundAnswer e × RefundShared T
  | .findPayment paymentId merchantId, s =>
      match reply with
      | .failed => (none, s)
      | .served _ =>
          (some ((s.payments.lookup paymentId).filter fun row => row.merchantId = merchantId), s)
  | .resolveAssetDecimalsForMandate _ _, s =>
      match reply with
      | .failed => (none, s)
      | .served assetDecimals => (some assetDecimals, s)
  | .getRefundedTotal paymentId, s =>
      match reply with
      | .failed => (none, s)
      | .served _ => (some (s.refundedTotal paymentId), s)
  | .runIdempotent a, s =>
      ((), { s with
        accepted := s.accepted ++ [a]
        idempotency := exec s.idempotency (.call a.call) })

def newPaymentRow (paymentId : BytesN) (merchantId : Uuid) (receipt : Registry.PaymentReceipt) :
    PaymentRow where
  paymentId := paymentId
  merchantId := merchantId
  mandateId := receipt.mandateId
  amount := receipt.amount.val
  refundedTotal := 0

/-- The relayer writes the row of a payment that is on the chain. -/
def recordPayment (paymentId : BytesN) (merchantId : Uuid) (s : RefundShared T) : RefundShared T :=
  match s.ledger.storage.getPayment paymentId, s.payments.lookup paymentId with
  | some receipt, none =>
      { s with payments := s.payments.insert paymentId (newPaymentRow paymentId merchantId receipt) }
  | _, _ => s

end RefundShared

inductive RefundAction (T : Type) where
  | post (post : RefundPost) (paymentIdText : String)
  /-- A request has its next read performed, or calls `runIdempotent`. -/
  | route (worker : ℕ) (reply : RefundReply)
  | work (worker : ℕ) (reply : Reply refundHandling)
  | abort (worker : ℕ)
  | recordPayment (paymentId : BytesN) (merchantId : Uuid)
  /-- Anything on the chain. -/
  | chain (step : Registry.Step T)

abbrev RefundSystem (T : Type) := Workers (RefundShared T) (RefundJob Unit)

def RefundShared.onIdempotency (action : Action refundHandling) (s : RefundShared T) :
    RefundShared T :=
  { s with idempotency := exec s.idempotency action }

def RefundShared.onChain (host : Host T) (step : Registry.Step T) (s : RefundShared T) :
    RefundShared T :=
  { s with ledger := Registry.exec host s.ledger step }

def execRefund (host : Host T) (s : RefundSystem T) : RefundAction T → RefundSystem T
  | .post post paymentIdText => s.start (postRefund post paymentIdText)
  | .route worker reply => s.work (RefundShared.performRefund reply) worker
  | .work worker reply => s.outside (.onIdempotency (.work worker reply))
  | .abort worker => s.outside (.onIdempotency (.abort worker))
  | .recordPayment paymentId merchantId => s.outside (.recordPayment paymentId merchantId)
  | .chain step => s.outside (.onChain host step)

/-- A registry just deployed, and nothing in the tables. -/
def initialRefund (t₀ : U64) (tok₀ : T) : RefundSystem T :=
  ⟨⟨Registry.genesis t₀ tok₀, ∅, [], initial⟩, []⟩

abbrev runRefund (host : Host T) (s : RefundSystem T) (actions : List (RefundAction T)) :
    RefundSystem T := Runs.run (execRefund host) s actions

end

end Paymap.Api
