import Paymap.Lib.Prog
import Paymap.Stellar.Token
import Paymap.Web.Exposure

set_option autoImplicit false

/-! # The checkout of a session

`apps/web/src/components/checkout/checkout-flow.tsx`: connect a wallet, create the mandate, approve the
spending limit, report the mandate to the API. The states the page goes through are those of a reducer
(`lib/checkout-state.ts`), and the buttons it shows depend on the state. Whatever is pressed, a handler
runs to the first thing it has to wait for, and then from one of these to the next.

What a handler hears of a transaction is not what becomes of it: the wallet or the network may fail before
the transaction is sent, or when it has been, and a transaction that was sent may be applied at any later
time, or never. So the transactions are kept apart from the answers to the handlers that have sent them.
-/

namespace Paymap.Web.CheckoutFlow

open Registry (Address Approve BytesN Host Ledger)

/-! ## The states of the page -/

structure DisplayError where
  message : String
  code : String
  retryable : Bool
deriving DecidableEq

inductive CheckoutPhase where
  | idle
  | connecting
  | ready
  | creatingMandate
  | approving
  | linking
  | complete
  | error
deriving DecidableEq, Repr

inductive CheckoutFailedStep where
  | connect
  | createMandate
  | approve
  | link
deriving DecidableEq, Repr

structure CheckoutState where
  phase : CheckoutPhase
  address : Option Address
  mandateId : Option BytesN
  failedStep : Option CheckoutFailedStep
  error : Option DisplayError
  linkWarning : Option DisplayError
deriving DecidableEq

inductive CheckoutAction where
  | connectStart
  | connectSuccess (address : Address)
  | connectError (error : DisplayError)
  | createMandateStart
  | createMandateSuccess (mandateId : BytesN)
  | createMandateError (error : DisplayError)
  | approveStart
  | approveSuccess
  | approveError (error : DisplayError)
  | linkStart
  | linkSuccess
  | linkError (error : DisplayError)
deriving DecidableEq

def initialCheckoutState : CheckoutState := ⟨.idle, none, none, none, none, none⟩

def withoutError (state : CheckoutState) : CheckoutState :=
  { state with error := none, failedStep := none }

def checkoutReducer (state : CheckoutState) : CheckoutAction → CheckoutState
  | .connectStart => { initialCheckoutState with phase := .connecting }
  | .connectSuccess address => { initialCheckoutState with phase := .ready, address := some address }
  | .connectError error =>
      { initialCheckoutState with phase := .error, failedStep := some .connect, error := some error }
  | .createMandateStart => { withoutError state with phase := .creatingMandate }
  | .createMandateSuccess mandateId =>
      { withoutError state with phase := .approving, mandateId := some mandateId }
  | .createMandateError error =>
      { state with phase := .error, failedStep := some .createMandate, error := some error }
  | .approveStart => { withoutError state with phase := .approving }
  | .approveSuccess => { withoutError state with phase := .linking }
  -- the mandate is kept: it was created, but is not funded yet
  | .approveError error =>
      { state with phase := .error, failedStep := some .approve, error := some error }
  | .linkStart => { withoutError state with phase := .linking }
  | .linkSuccess => { withoutError state with phase := .complete }
  | .linkError error => { withoutError state with phase := .complete, linkWarning := some error }

/-! ## What the page shows -/

structure PublicCheckoutSession where
  merchantWalletAddress : Address
  product : PublicProduct
  /-- `sha256Hex` of the wallet, the id of the product and the id of the session. -/
  metadataHash : BytesN

/-- What the component computes when it is rendered. -/
structure Shown where
  terms : MandateTerms
  maxExposure : ℤ
  allowance : BoundedAllowance

def render (session : PublicCheckoutSession) (nowUnixSeconds : ℤ) : Except TermsError Shown := do
  let terms ← deriveMandateTerms session.product nowUnixSeconds
  let maxExposure ← computeMaxExposure terms
  let allowance ← computeBoundedAllowance maxExposure
  return ⟨terms, maxExposure, allowance⟩

inductive Button where
  | connect
  /-- "Try again", in the banner of an error. -/
  | retryConnect
  | authorize
  | tryAuthorizingAgain
  | completeApproval
  | retryLink
deriving DecidableEq, Repr

/-- `ErrorBanner` has a button only for an error that is retryable. -/
def retryable (error : Option DisplayError) : Bool := error.any DisplayError.retryable

/-- The button is shown and enabled. -/
def CheckoutState.offers (state : CheckoutState) : Button → Bool
  | .connect => state.phase = .idle
  | .retryConnect =>
      state.phase = .error && (state.failedStep = some .connect && retryable state.error)
  | .authorize => state.phase = .ready
  | .tryAuthorizingAgain =>
      state.phase = .error && (state.failedStep = some .createMandate && state.error.isSome)
  | .completeApproval =>
      state.phase = .error &&
        (state.failedStep = some .approve && (state.mandateId.isSome && state.error.isSome))
  | .retryLink => state.phase = .complete && (state.mandateId.isSome && retryable state.linkWarning)

/-! ## Effects -/

/-- The arguments of `approve`. -/
structure ApproveArgs where
  owner : Address
  tokenContractId : Address
  spender : Address
  amount : ℤ
  liveUntilLedgerSeq : ℤ
deriving DecidableEq

/-- What the gateway is asked to send. -/
inductive Request where
  | createMandate (input : Client.MandateInput)
  | approve (args : ApproveArgs)

inductive Effect where
  | dispatch (action : CheckoutAction)
  /-- `wallet.connect()`. -/
  | connect
  | randomHexId32
  /-- The latest ledger of the RPC, and the clock of the browser. -/
  | latestLedger
  /-- A transaction is built, simulated, signed and sent. -/
  | send (request : Request)
  | awaitMandate (submission : ℕ)
  | awaitApproval (submission : ℕ)
  | queryAllowance (tokenContractId owner spender : Address)
  | linkMandateToCheckoutSession (mandateId : BytesN) (payerAddress : Address)

/-- What an effect is answered with; an error is what `toDisplayError` makes of what was thrown. -/
abbrev Answer : Effect → Type
  | .dispatch _ => Unit
  | .connect => Except DisplayError Address
  | .randomHexId32 => BytesN
  | .latestLedger => Except DisplayError (ℤ × ℤ)
  | .send _ => Except DisplayError ℕ
  | .awaitMandate _ => Except DisplayError BytesN
  | .awaitApproval _ => Except DisplayError Unit
  | .queryAllowance _ _ _ => Except DisplayError ℤ
  | .linkMandateToCheckoutSession _ _ => Except DisplayError Unit

abbrev Flow (α : Type) := Prog Effect Answer DisplayError α

def Effect.run (e : Effect) : Flow (Answer e) := .perform e

def dispatch (action : CheckoutAction) : Flow Unit := .perform (Effect.dispatch action)

/-- `await` of what may throw. -/
def orThrow {α : Type} : Except DisplayError α → Flow α
  | .ok a => .ret a
  | .error e => .raise e

/-! ## The gateway (`lib/chain-gateway.ts`) -/

def createMandate (input : Client.MandateInput) : Flow BytesN := do
  let submission ← orThrow (← (Effect.send (.createMandate input)).run)
  orThrow (← (Effect.awaitMandate submission).run)

def approve (tokenContractId spender : Address) (amount mandateExpiresAt : ℤ) (publicKey : Address) :
    Flow Unit := do
  let (latestLedger, nowUnixSeconds) ← orThrow (← Effect.latestLedger.run)
  let liveUntilLedgerSeq :=
    Stellar.computeApprovalLiveUntilLedger latestLedger nowUnixSeconds mandateExpiresAt
  let submission ← orThrow
    (← (Effect.send (.approve ⟨publicKey, tokenContractId, spender, amount, liveUntilLedgerSeq⟩)).run)
  orThrow (← (Effect.awaitApproval submission).run)

/-! ## The handlers -/

def handleConnect : Flow Unit := do
  dispatch .connectStart
  match ← Effect.connect.run with
  | .ok address => dispatch (.connectSuccess address)
  | .error error => dispatch (.connectError error)

def runLink (address : Address) (mandateId : BytesN) : Flow Unit := do
  dispatch .linkStart
  match ← (Effect.linkMandateToCheckoutSession mandateId address).run with
  | .ok () => dispatch .linkSuccess
  | .error error => dispatch (.linkError error)

def failedToReset : DisplayError where
  message := "failed to reset the previous spending approval to zero before setting the new one"
  code := "UNKNOWN_ERROR"
  retryable := false

section

variable (session : PublicCheckoutSession) (shown : Shown) (mandateContractId : Address)

/-- Sets an allowance that is not zero to zero, and makes sure of it. -/
def resetAllowance (address : Address) : Flow Unit := do
  let terms := shown.terms
  let currentAllowance ← orThrow
    (← (Effect.queryAllowance terms.assetAddress address mandateContractId).run)
  if 0 < currentAllowance then
    approve terms.assetAddress mandateContractId 0 terms.expiresAt address
    let confirmedZero ← orThrow
      (← (Effect.queryAllowance terms.assetAddress address mandateContractId).run)
    if confirmedZero ≠ 0 then .raise failedToReset else return ()
  else return ()

/-- The `try` block of `runApprove`. -/
def approveAndLink (address : Address) (mandateId : BytesN) : Flow Unit := do
  resetAllowance shown mandateContractId address
  approve shown.terms.assetAddress mandateContractId shown.allowance.total shown.terms.expiresAt address
  dispatch .approveSuccess
  runLink address mandateId

def runApprove (address : Address) (mandateId : BytesN) : Flow Unit := do
  dispatch .approveStart
  match ← (approveAndLink shown mandateContractId address mandateId).attempt with
  | .ok () => return ()
  | .error error => dispatch (.approveError error)

def mandateInput (address : Address) (clientNonce : BytesN) : Client.MandateInput where
  payer := address
  merchant := session.merchantWalletAddress
  asset := shown.terms.assetAddress
  amountRule := shown.terms.amountRule
  maxPerPeriod := shown.terms.maxPerPeriod
  periodSeconds := shown.terms.periodSeconds
  minIntervalSeconds := shown.terms.minIntervalSeconds
  startAt := shown.terms.startAt
  expiresAt := shown.terms.expiresAt
  maxSuccessfulCharges := shown.terms.maxSuccessfulCharges
  metadataHash := session.metadataHash
  clientNonce := clientNonce

/-- The `try` block of `handleCreateMandate`. -/
def createAndApprove (address : Address) : Flow Unit := do
  let clientNonce ← Effect.randomHexId32.run
  let mandateId ← createMandate (mandateInput session shown address clientNonce)
  dispatch (.createMandateSuccess mandateId)
  runApprove shown mandateContractId address mandateId

def handleCreateMandate (address : Address) : Flow Unit := do
  dispatch .createMandateStart
  match ← (createAndApprove session shown mandateContractId address).attempt with
  | .ok () => return ()
  | .error error => dispatch (.createMandateError error)

/-- What a button does. There is an address whenever a mandate may be created
(`Single.address_of_offers`). -/
def handler (state : CheckoutState) : Button → Flow Unit
  | .connect | .retryConnect => handleConnect
  | .authorize | .tryAuthorizingAgain =>
      match state.address with
      | some address => handleCreateMandate session shown mandateContractId address
      | none => return ()
  | .completeApproval =>
      match state.address, state.mandateId with
      | some address, some mandateId => runApprove shown mandateContractId address mandateId
      | _, _ => return ()
  | .retryLink =>
      match state.address, state.mandateId with
      | some address, some mandateId => runLink address mandateId
      | _, _ => return ()

end

/-! ## The network under the page -/

inductive Transaction where
  | createMandate (input : Registry.MandateInput)
  | approve (owner asset spender : Address) (amount : I128) (liveUntilLedger : U32)

/-- The transaction of a request, whose numbers have to fit. -/
def Request.encode : Request → Option Transaction
  | .createMandate input => (Client.fromDomainMandateInput input).map .createMandate
  | .approve args => do
      let amount ← MachineInt.ofInt? args.amount
      let liveUntilLedger ← MachineInt.ofInt? args.liveUntilLedgerSeq
      return .approve args.owner args.tokenContractId args.spender amount liveUntilLedger

/-- What has become of a transaction that was sent. -/
inductive Fate where
  | pending
  | landed (result : Registry.Outcome)
  /-- It can no longer be applied. -/
  | dropped
deriving DecidableEq

structure Submission where
  transaction : Transaction
  fate : Fate

structure Shared (T : Type) where
  state : CheckoutState
  ledger : Ledger T
  submissions : List Submission

/-- How it goes with an effect: it is carried out and answered, it fails, or it is carried out and the
answer is lost. With it comes what the wallet, the browser and the RPC have to say, and what is thrown if
there is no answer. -/
inductive Verdict where
  | served
  | failed
  | unanswered
deriving DecidableEq

structure Turn where
  verdict : Verdict
  error : DisplayError
  address : Address
  nonce : BytesN
  latestLedger : ℤ
  nowUnixSeconds : ℤ

def Turn.answer {α : Type} (turn : Turn) (a : α) : Except DisplayError α :=
  if turn.verdict = .served then .ok a else .error turn.error

section

variable {T : Type}

namespace Shared

/-- `sent.result.unwrap()`. -/
def mandateOf (s : Shared T) (submission : ℕ) : Option BytesN :=
  match s.submissions[submission]? with
  | some ⟨_, .landed (.ok (.mandateId id))⟩ => some id
  | _ => none

/-- `signAndSend` returns for a transaction that was applied, and the gateway does not look at its
result. -/
def hasLanded (s : Shared T) (submission : ℕ) : Bool :=
  match s.submissions[submission]? with
  | some ⟨_, .landed _⟩ => true
  | _ => false

def send (s : Shared T) (transaction : Transaction) : Shared T :=
  { s with submissions := s.submissions ++ [⟨transaction, .pending⟩] }

end Shared

variable (host : Host T)

def perform (turn : Turn) : (e : Effect) → Shared T → Answer e × Shared T
  | .dispatch action, s => ((), { s with state := checkoutReducer s.state action })
  | .connect, s => (turn.answer turn.address, s)
  | .randomHexId32, s => (turn.nonce, s)
  | .latestLedger, s => (turn.answer (turn.latestLedger, turn.nowUnixSeconds), s)
  | .send request, s =>
      match request.encode with
      | none => (.error turn.error, s)
      | some transaction =>
          if turn.verdict = .failed then (.error turn.error, s)
          else (turn.answer s.submissions.length, s.send transaction)
  | .awaitMandate submission, s =>
      match s.mandateOf submission with
      | some mandateId => (turn.answer mandateId, s)
      | none => (.error turn.error, s)
  | .awaitApproval submission, s =>
      if s.hasLanded submission then (turn.answer (), s) else (.error turn.error, s)
  | .queryAllowance tokenContractId owner spender, s =>
      match host.token.allowance s.ledger.token tokenContractId owner spender with
      | some (allowance, _) => (turn.answer allowance.val, s)
      | none => (.error turn.error, s)
  | .linkMandateToCheckoutSession _ _, s => (turn.answer (), s)

variable (approveToken : Approve T)

/-- The result of a transaction. -/
def Transaction.apply : Transaction → Ledger T → Registry.Outcome × Ledger T
  | .createMandate input, l => Registry.invoke host ⟨.createMandate input, [input.payer]⟩ l
  | .approve owner asset spender amount liveUntilLedger, l =>
      match approveToken l.token asset owner spender amount liveUntilLedger with
      | some t => (.ok .unit, { l with token := t })
      | none => (.error .trap, l)

/-- A transaction that is on its way is applied. -/
def Shared.land (s : Shared T) (submission : ℕ) : Shared T :=
  match s.submissions[submission]? with
  | some ⟨transaction, .pending⟩ =>
      let applied := transaction.apply host approveToken s.ledger
      { s with
        ledger := applied.2
        submissions := s.submissions.set submission ⟨transaction, .landed applied.1⟩ }
  | _ => s

def Shared.drop (s : Shared T) (submission : ℕ) : Shared T :=
  match s.submissions[submission]? with
  | some ⟨transaction, .pending⟩ =>
      { s with submissions := s.submissions.set submission ⟨transaction, .dropped⟩ }
  | _ => s

end

/-! ## Runs -/

section

variable {T : Type}

inductive Action (T : Type) where
  | press (button : Button)
  /-- A handler gets on with what it waits for. -/
  | work (worker : ℕ) (turn : Turn)
  | land (submission : ℕ)
  | drop (submission : ℕ)
  /-- Anything else that happens on the chain. -/
  | step (step : Registry.Step T)

abbrev System (T : Type) := Workers (Shared T) (Flow Unit)

/-- A handler runs at once up to the first thing it has to wait for. -/
def settle : Flow Unit → CheckoutState → Flow Unit × CheckoutState
  | .call (.dispatch action) k, state => settle (k ()) (checkoutReducer state action)
  | flow, state => (flow, state)

variable (host : Host T) (approveToken : Approve T) (session : PublicCheckoutSession) (shown : Shown)

def exec (s : System T) : Action T → System T
  | .press button =>
      if s.shared.state.offers button then
        let settled := settle
          (handler session shown host.currentContractAddress s.shared.state button) s.shared.state
        (s.outside fun shared => { shared with state := settled.2 }).start settled.1
      else s
  | .work worker turn => s.work (perform host turn) worker
  | .land submission => s.outside fun shared => shared.land host approveToken submission
  | .drop submission => s.outside fun shared => shared.drop submission
  | .step step => s.outside fun shared =>
      { shared with ledger := Registry.exec host shared.ledger step }

/-- The page has just been opened. -/
def opened (l : Ledger T) : System T := ⟨⟨initialCheckoutState, l, []⟩, []⟩

abbrev run (s : System T) (actions : List (Action T)) : System T :=
  Runs.run (exec host approveToken session shown) s actions

end

/-! ## What a session makes collectable -/

namespace Submission

/-- The mandate that the transaction has created. -/
def mandate? : Submission → Option BytesN
  | ⟨.createMandate _, .landed (.ok (.mandateId id))⟩ => some id
  | _ => none

/-- The transaction has created a mandate, or may still do so. -/
def mayCreate : Submission → Bool
  | ⟨.createMandate _, .pending⟩ => true
  | ⟨.createMandate _, .landed (.ok _)⟩ => true
  | _ => false

end Submission

section

variable {T : Type}

/-- The mandates that were created for the session. -/
def Shared.mandates (s : Shared T) : List BytesN := s.submissions.filterMap Submission.mandate?

/-- What has been collected of them. -/
def Shared.collected (s : Shared T) : ℤ :=
  (s.mandates.map fun id => ((s.ledger.storage.getMandate id).map fun m => m.totalCollected.val).getD 0).sum

def Action.retries : Action T → Bool
  | .press .tryAuthorizingAgain => true
  | _ => false

/-- "Try authorizing again" is pressed only when every transaction that was to create the mandate has
failed for good. -/
def InVain (s : System T) (a : Action T) : Prop :=
  a.retries = true → ∀ submission ∈ s.shared.submissions, submission.mayCreate = false

instance (s : System T) (a : Action T) : Decidable (InVain s a) := inferInstanceAs (Decidable (_ → _))

end

end Paymap.Web.CheckoutFlow
