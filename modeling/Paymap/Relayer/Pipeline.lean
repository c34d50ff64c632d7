import Paymap.Lib.Prog
import Paymap.Relayer.Network

set_option autoImplicit false

/-! # The worker pipeline

`processChargeRequest` of `pipeline.ts`, with the gateway of `chain-gateway.ts` under it, as a
program over the effects it has: reads of rows, database transactions, calls of the RPC. It is
written in the order of the source, one function for each of its stages; what the source only logs
or measures is left out. A `throw` ends the job (`Prog.raise`): the row stays as it is.
-/

namespace Paymap.Relayer

open Registry (Address BytesN Failure Host Ledger Mandate PaymentReceipt)

/-! ## Effects -/

/-- Why a mandate could not be read: an error of the contract, or anything else. -/
inductive ReadFailure where
  | mandateReadError (errorName : String)
  | other

/-- What `sendTransaction` comes back with. -/
inductive Sent where
  | pending (hash : TxHash)
  | sendFailed
  | threw

/-- What polling for the final status of a transaction comes back with. -/
inductive Polled where
  | final (result : Except String PaymentReceipt) (ledger : ℕ)
  | stillPending
  | threw

inductive Effect where
  | now
  | findChargeRequest (id : Uuid)
  | findMerchant (id : Uuid)
  | findCheckoutSession (merchantId : Uuid) (mandateId : BytesN)
  | findChargeAuthorization (id : Uuid)
  | transact (statements : List Statement)
  | getMandate (mandateId : BytesN)
  | getLatestLedgerSequence
  | simulateCharge (args : ChargeArgs)
  | sendTransaction (args : ChargeArgs)
  | pollTransaction (hash : TxHash)
deriving DecidableEq

/-- What an effect is answered with. For the calls of the RPC, `none` is an exception that says
nothing about the contract. -/
abbrev Answer : Effect → Type
  | .now => Time
  | .findChargeRequest _ => Option ChargeRequest
  | .findMerchant _ => Option Address
  | .findCheckoutSession _ _ => Option Address
  | .findChargeAuthorization _ => Option ChargeAuthorization
  | .transact _ => Except Thrown Unit
  | .getMandate _ => Except ReadFailure Mandate
  | .getLatestLedgerSequence => Option ℕ
  | .simulateCharge _ => Option (Except String PaymentReceipt)
  | .sendTransaction _ => Sent
  | .pollTransaction _ => Polled

abbrev Pipeline (α : Type) := Prog Effect Answer Thrown α

def Effect.run (e : Effect) : Pipeline (Answer e) := .perform e

/-- A transaction whose exceptions nobody catches. -/
def commit (statements : List Statement) : Pipeline Unit := do
  match ← (Effect.transact statements).run with
  | .ok () => return ()
  | .error e => .raise e

/-! ## The gateway (`chain-gateway.ts`) -/

inductive ChargeSubmitResult where
  | success (receipt : PaymentReceipt) (txHash : TxHash) (ledger : ℕ)
  | contractError (error : MandateErrorInfo) (txHash : Option TxHash)
  | infraError (failure : ClassifiedFailure)

/-- The simulated outcome: the receipt the charge would leave, or the decoded error. -/
def prepareCharge (args : ChargeArgs) :
    Pipeline (Option (Except MandateErrorInfo PaymentReceipt)) := do
  match ← (Effect.simulateCharge args).run with
  | none => return none
  | some (.ok receipt) => return some (.ok receipt)
  | some (.error name) => return some (.error (decodeMandateErrorName name))

/-- What the end of polling says about the submission. -/
def pollResult (txHash : TxHash) : Polled → ChargeSubmitResult
  | .final (.ok receipt) ledger => .success receipt txHash ledger
  | .final (.error name) _ => .contractError (decodeMandateErrorName name) (some txHash)
  | .stillPending => .infraError (classifyInfraFailure .txNotIncluded)
  | .threw => .infraError (classifyInfraFailure .rpcUnavailable)

/-- Send the transaction and poll for its final status. -/
def submit (args : ChargeArgs) : Pipeline ChargeSubmitResult := do
  match ← (Effect.sendTransaction args).run with
  | .sendFailed => return .infraError (classifyInfraFailure .sendFailed)
  | .threw => return .infraError (classifyInfraFailure .rpcUnavailable)
  | .pending txHash =>
      let polled ← (Effect.pollTransaction txHash).run
      return pollResult txHash polled

/-! ## `processChargeRequest` (`pipeline.ts`) -/

/-- What the deployment gives a worker: whether its gateway reads ledger numbers, the key of stored
authorizations, if it is configured, and their cipher. -/
structure PipelineDeps where
  offersLatestLedger : Bool
  authorizationEncryptionKey : Option ℕ
  decryptChargeAuthorization : (ciphertext key : ℕ) → Option ℕ

inductive PipelineOutcome where
  | skippedNotClaimable
  | succeeded (paymentId : BytesN) (txHash : TxHash)
  | retryScheduled (nextAttemptAt : Time) (reason : String)
  | permanentlyFailed (reason : String)

structure ChargeContext where
  merchantWalletAddress : Address
  expectedAssetAddress : Address

section

variable (deps : PipelineDeps) (chargeRequestId : Uuid) (chargeRequest : ChargeRequest)

def claimFrom : ChargeRequestStatus :=
  if chargeRequest.status = .retryableFailed then .retryableFailed else .scheduled

def claim : Statement :=
  .transition chargeRequestId (claimFrom chargeRequest) .processing
    { attemptCount := some (chargeRequest.attemptCount + 1) }

def scheduleRetry (source : ChargeRequestStatus) (reason : String) (nextAttemptAt : Time) :
    List Statement :=
  [.transition chargeRequestId source .retryableFailed
    { failureCode := some reason, nextAttemptAt := some (some nextAttemptAt) }]

def failPermanently (source : ChargeRequestStatus) (reason : String) : List Statement :=
  [.transition chargeRequestId source .permanentlyFailed
    { failureCode := some reason, nextAttemptAt := some none },
   .createDelivery ⟨chargeRequest.merchantId, .paymentFailed chargeRequestId
    chargeRequest.mandateId chargeRequest.chargeId reason⟩]

/-- `fail`: the failure path of every stage, from `source`. -/
def fail (source : ChargeRequestStatus) (classified : ClassifiedFailure) :
    Pipeline PipelineOutcome := do
  let now ← Effect.now.run
  match retryAt (chargeRequest.attemptCount + 1) classified now with
  | some nextAttemptAt =>
      commit (scheduleRetry chargeRequestId source classified.reason nextAttemptAt)
      return .retryScheduled nextAttemptAt classified.reason
  | none =>
      commit (failPermanently chargeRequestId chargeRequest source classified.reason)
      return .permanentlyFailed classified.reason

/-- A contract error, by name: an unknown one is not classified but thrown. -/
def failContract (source : ChargeRequestStatus) (name : String) : Pipeline PipelineOutcome :=
  match classifyContractErrorName name with
  | .ok classified => fail chargeRequestId chargeRequest source classified
  | .error e => .raise e

def resolveChargeContext (merchantId : Uuid) (mandateId : BytesN) :
    Pipeline (Option ChargeContext) := do
  match ← (Effect.findMerchant merchantId).run with
  | none => return none
  | some walletAddress =>
      match ← (Effect.findCheckoutSession merchantId mandateId).run with
      | none => return none
      | some assetAddress => return some ⟨walletAddress, assetAddress⟩

/-- The check that the merchant's signature has not expired, when ledger numbers can be read. -/
def checkExpiration (authorization : ChargeAuthorization) :
    Pipeline (Except ClassifiedFailure Unit) := do
  if deps.offersLatestLedger then
    match ← Effect.getLatestLedgerSequence.run with
    | none => return .error (classifyInfraFailure .rpcUnavailable)
    | some latestLedger =>
        if authorization.signatureExpirationLedger ≤ latestLedger then
          -- a write of its own, before the failure is recorded
          commit [.updateAuthorization authorization.id .expired none]
          return .error (permanentReason "MERCHANT_AUTHORIZATION_EXPIRED")
        else return .ok ()
  else return .ok ()

/-- The signed entry of the request's authorization, or why the attempt fails. -/
def signedAuthorizationEntry : Pipeline (Except ClassifiedFailure (Option ℕ)) :=
  match chargeRequest.authorizationId with
  | none => return .ok none
  | some authorizationId => do
      match ← (Effect.findChargeAuthorization authorizationId).run with
      | none => return .error (permanentReason "MERCHANT_AUTHORIZATION_MISSING")
      | some authorization =>
          match authorization.signedEntryCiphertext, deps.authorizationEncryptionKey with
          | some ciphertext, some key =>
              if authorization.status = .ready then
                match ← checkExpiration deps authorization with
                | .error classified => return .error classified
                | .ok () =>
                    match deps.decryptChargeAuthorization ciphertext key with
                    | some entry => return .ok (some entry)
                    | none => return .error (permanentReason "MERCHANT_AUTHORIZATION_INVALID")
              else return .error (permanentReason "MERCHANT_AUTHORIZATION_MISSING")
          | _, _ => return .error (permanentReason "MERCHANT_AUTHORIZATION_MISSING")

def chargeArgs (signedAuthorizationEntry : Option ℕ) : ChargeArgs where
  mandateId := chargeRequest.mandateId
  chargeId := chargeRequest.chargeId
  amount := chargeRequest.amount
  invoiceHash := chargeRequest.invoiceHash
  signedAuthorizationEntry := signedAuthorizationEntry

/-- The simulated receipt must be the one the request describes. -/
def verificationOk (context : ChargeContext) (receipt : PaymentReceipt) : Bool :=
  receipt.merchant = context.merchantWalletAddress &&
  receipt.asset = context.expectedAssetAddress &&
  receipt.amount.val = chargeRequest.amount &&
  receipt.chargeId = chargeRequest.chargeId &&
  receipt.mandateId = chargeRequest.mandateId &&
  receipt.invoiceHash = chargeRequest.invoiceHash

/-- The mandate as it was read before the charge says that this charge is its last. -/
def completesMandate (mandate : Mandate) : Bool :=
  0 < mandate.maxSuccessfulCharges.val &&
    mandate.successfulCharges.val + 1 = mandate.maxSuccessfulCharges.val

/-- The `Payment` row, from the confirmed receipt. -/
def newPayment (receipt : PaymentReceipt) (txHash : TxHash) (ledger : ℕ) : Payment where
  paymentId := receipt.paymentId
  merchantId := chargeRequest.merchantId
  mandateId := chargeRequest.mandateId
  chargeId := chargeRequest.chargeId
  chargeRequestId := chargeRequest.id
  amount := receipt.amount
  assetAddress := receipt.asset
  transactionHash := txHash
  ledger := ledger

/-- The transaction that records a charge. -/
def recordSuccess (mandate : Mandate) (receipt : PaymentReceipt) (txHash : TxHash) (ledger : ℕ)
    (now : Time) : List Statement :=
  [.createPayment (newPayment chargeRequest receipt txHash ledger),
   .transition chargeRequestId .submitted .succeeded { transactionHash := some txHash }] ++
  (match chargeRequest.authorizationId with
   | some authorizationId => [.updateAuthorization authorizationId .consumed (some now)]
   | none => []) ++
  [.createDelivery ⟨chargeRequest.merchantId, .paymentSucceeded chargeRequestId
    receipt.paymentId chargeRequest.mandateId chargeRequest.chargeId txHash⟩] ++
  if completesMandate mandate then
    [.createDelivery ⟨chargeRequest.merchantId, .mandateCompleted chargeRequest.mandateId⟩]
  else []

/-- Steps 8 to 10: the final result of the submission becomes the request's. -/
def recordResult (mandate : Mandate) : ChargeSubmitResult → Pipeline PipelineOutcome
  | .success receipt txHash ledger => do
      let now ← Effect.now.run
      commit (recordSuccess chargeRequestId chargeRequest mandate receipt txHash ledger now)
      return .succeeded receipt.paymentId txHash
  | .contractError error (some txHash) => do
      -- kept even when the error turns out to be unclassifiable
      commit [.setTransactionHash chargeRequestId txHash]
      failContract chargeRequestId chargeRequest .submitted error.name
  | .contractError error none => failContract chargeRequestId chargeRequest .submitted error.name
  | .infraError failure => fail chargeRequestId chargeRequest .submitted failure

/-- Steps 3 to 7: simulate, verify, and submit once. -/
def chargeWith (mandate : Mandate) (context : ChargeContext) (entry : Option ℕ) :
    Pipeline PipelineOutcome := do
  match ← prepareCharge (chargeArgs chargeRequest entry) with
  | none => fail chargeRequestId chargeRequest .processing (classifyInfraFailure .rpcUnavailable)
  | some (.error error) => failContract chargeRequestId chargeRequest .processing error.name
  | some (.ok receipt) =>
      if verificationOk chargeRequest context receipt then
        commit [.transition chargeRequestId .processing .simulated {}]
        commit [.transition chargeRequestId .simulated .submitted {}]
        let result ← submit (chargeArgs chargeRequest entry)
        recordResult chargeRequestId chargeRequest mandate result
      else
        fail chargeRequestId chargeRequest .processing (permanentReason "SIMULATION_MISMATCH")

/-- The attempt, once the request is claimed. -/
def attempt : Pipeline PipelineOutcome := do
  match ← (Effect.getMandate chargeRequest.mandateId).run with
  | .error (.mandateReadError name) => failContract chargeRequestId chargeRequest .processing name
  | .error .other =>
      fail chargeRequestId chargeRequest .processing (classifyInfraFailure .rpcUnavailable)
  | .ok mandate =>
      match ← resolveChargeContext chargeRequest.merchantId chargeRequest.mandateId with
      | none =>
          fail chargeRequestId chargeRequest .processing
            (permanentReason "CHARGE_CONTEXT_NOT_FOUND")
      | some context =>
          if context.merchantWalletAddress = mandate.merchant then
            match ← signedAuthorizationEntry deps chargeRequest with
            | .error classified => fail chargeRequestId chargeRequest .processing classified
            | .ok entry => chargeWith chargeRequestId chargeRequest mandate context entry
          else
            fail chargeRequestId chargeRequest .processing (permanentReason "SIMULATION_MISMATCH")

end

def processChargeRequest (deps : PipelineDeps) (chargeRequestId : Uuid) :
    Pipeline PipelineOutcome := do
  match ← (Effect.findChargeRequest chargeRequestId).run with
  | none => .raise .chargeRequestNotFound
  | some chargeRequest =>
      match ← (Effect.transact [claim chargeRequestId chargeRequest]).run with
      -- somebody else has claimed it: nothing was read from the chain yet
      | .error .invalidStateTransition => return .skippedNotClaimable
      | .error e => .raise e
      | .ok () => attempt deps chargeRequestId chargeRequest

end Paymap.Relayer
