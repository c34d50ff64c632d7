import Paymap.Api.Authorizations
import Paymap.Client.Ids
import Paymap.Registry.Record

set_option autoImplicit false

/-! # Ids on their way to the chain and back

The API stores an id as its caller spells it (`apps/api/src/routes/charges.ts`, `checkout-sessions.ts`),
the relayer sends the bytes it spells to the chain, gets the spelling of `idToHex` back with the
simulated receipt, and compares the two as texts (`apps/relayer/src/pipeline.ts`). The routes and the
chain are put together here, with every id as it is spelled: whatever a request describes, an honest
simulation of it differs from it in no byte and no integer, and it passes the comparison exactly when
the request spells the ids of mandate and invoice in lower case.

Who may call the routes plays no part, and neither does how often an authorization is completed.
-/

namespace Paymap.Backend.Spellings

open Api (CreateCheckoutSessionInput IssueReads ProductRow RouteError checkoutSessionOf
  issueChargeAuthorization newSession resolveAssetDecimalsForMandate)
open Api.Linking (CheckoutSession LinkMandateInput checkMandate)
open Client (IsHexId32 IsLowerCase hexToId idToHex toDomainPaymentReceipt)
open Registry (Address Books BytesN Host Ledger Mandate PaymentReceipt)
open Relayer (ChargeArgs ChargeContext Network Time Uuid)

/-! ## Rows -/

/-- What an authorization says of its charge, and the request that it becomes. -/
structure ChargeColumns where
  merchantId : Uuid
  mandateId : String
  chargeId : String
  amount : ℤ
  invoiceHash : String
  scheduledFor : Time
deriving DecidableEq

structure State (T : Type) where
  ledger : Ledger T
  /-- The wallet of each merchant. -/
  wallets : FinMap Uuid Address
  products : FinMap Uuid ProductRow
  sessions : FinMap String CheckoutSession
  /-- The calls that are about to link a session, their checks being passed. -/
  checked : List (String × LinkMandateInput)
  authorizations : FinMap Uuid ChargeColumns
  chargeRequests : FinMap Uuid ChargeColumns

section

variable {T : Type}

/-! ## Routes -/

namespace State

/-- A read of a mandate, by its id as a text. -/
def readMandate (s : State T) (mandateId : String) : Option Client.Mandate := do
  let id ← hexToId mandateId
  let mandate ← (Registry.getMandate s.ledger id).toOption
  return Client.toDomainMandate mandate

/-- What `POST /checkout-sessions/:id/mandate` checks before it links the session. -/
def linkable (s : State T) (id : String) (input : LinkMandateInput) (now : Time) : Bool :=
  match s.sessions.lookup id, s.readMandate input.mandateId with
  | some session, some mandate =>
      session.mandateId = none && session.status = .pending && now < session.expiresAt &&
        checkMandate session input mandate = .ok ()
  | _, _ => false

/-- The session that links the mandate to the merchant: there may be several. -/
def Links (s : State T) (merchantId : Uuid) (mandateId : String) (session : CheckoutSession) : Prop :=
  ∃ id, s.sessions.lookup id = some session ∧ session.merchantId = merchantId ∧
    session.mandateId = some mandateId

end State

structure IssueCall where
  merchantId : Uuid
  mandateId : String
  amount : String
  invoiceHash : String
  scheduledFor : Option ℤ
  now : Time
  latestLedger : ℕ
  /-- The session that the database picks of those of the mandate. -/
  choice : ℕ

/-- `POST /mandates/:id/charge-authorizations`: the schemas, the checks, and the row. The charge id is
random, and written by the API. -/
def State.issue (s : State T) (call : IssueCall) (id : Uuid) (chargeId : BytesN) :
    Except RouteError ChargeColumns := do
  let mandateId ← (hexToId call.mandateId).elim (.error .zod) .ok
  let invoiceHash ← (hexToId call.invoiceHash).elim (.error .zod) .ok
  let walletAddress ← (s.wallets.lookup call.merchantId).elim (.error .unexpected) .ok
  let reads : IssueReads :=
    { merchantId := call.merchantId
      walletAddress := walletAddress
      mandateId := mandateId
      mandateIdText := call.mandateId
      assetDecimals := (resolveAssetDecimalsForMandate call.choice s.products s.sessions
        call.merchantId call.mandateId).toOption
      mandate := s.readMandate call.mandateId
      now := call.now
      latestLedger := call.latestLedger }
  let authorization ← issueChargeAuthorization reads ⟨call.amount, invoiceHash, call.scheduledFor⟩
    id chargeId
  return {
    merchantId := call.merchantId
    mandateId := call.mandateId
    chargeId := idToHex chargeId
    amount := authorization.amount
    invoiceHash := call.invoiceHash
    scheduledFor := authorization.scheduledFor }

/-! ## Runs -/

inductive Action (T : Type) where
  | chain (step : Registry.Step T)
  | createMerchant (id : Uuid) (walletAddress : Address)
  | createProduct (id : Uuid) (row : ProductRow)
  | createSession (id : String) (merchantId : Uuid) (now : Time) (input : CreateCheckoutSessionInput)
  /-- A call passes its checks. -/
  | checkLink (id : String) (input : LinkMandateInput) (now : Time)
  /-- It updates the session. -/
  | storeLink (call : ℕ)
  | issue (call : IssueCall) (id : Uuid) (chargeId : BytesN)
  /-- The request of an authorization, with the columns of that. -/
  | complete (authorizationId id : Uuid)

def exec (host : Host T) (s : State T) : Action T → State T
  | .chain step => { s with ledger := Registry.exec host s.ledger step }
  | .createMerchant id walletAddress =>
      if (s.wallets.lookup id).isNone then
        { s with wallets := s.wallets.insert id walletAddress }
      else s
  | .createProduct id row =>
      if (s.products.lookup id).isNone then { s with products := s.products.insert id row } else s
  | .createSession id merchantId now input =>
      match s.sessions.lookup id, s.wallets.lookup merchantId with
      | none, some walletAddress =>
          match checkoutSessionOf s.products merchantId walletAddress now input with
          | .ok session => { s with sessions := s.sessions.insert id session }
          | .error _ => s
      | _, _ => s
  | .checkLink id input now =>
      if s.linkable id input now then { s with checked := s.checked ++ [(id, input)] } else s
  | .storeLink call =>
      match s.checked[call]? with
      | some (id, input) =>
          match s.sessions.lookup id with
          | some session => { s with sessions := s.sessions.insert id (session.link input) }
          | none => s
      | none => s
  | .issue call id chargeId =>
      match s.authorizations.lookup id, s.issue call id chargeId with
      | none, .ok columns => { s with authorizations := s.authorizations.insert id columns }
      | _, _ => s
  | .complete authorizationId id =>
      match s.authorizations.lookup authorizationId, s.chargeRequests.lookup id with
      | some columns, none => { s with chargeRequests := s.chargeRequests.insert id columns }
      | _, _ => s

def initial (t₀ : U64) (tok₀ : T) : State T :=
  ⟨Registry.genesis t₀ tok₀, ∅, ∅, ∅, [], ∅, ∅⟩

abbrev run (host : Host T) (s : State T) (actions : List (Action T)) : State T :=
  Runs.run (exec host) s actions

/-! ## The relayer -/

/-- What `prepareCharge` sends: each id as the bytes that it spells. -/
def ChargeColumns.chargeArgs (row : ChargeColumns) (entry : Option ℕ) : Option ChargeArgs := do
  let mandateId ← hexToId row.mandateId
  let chargeId ← hexToId row.chargeId
  let invoiceHash ← hexToId row.invoiceHash
  return ⟨mandateId, chargeId, row.amount, invoiceHash, entry⟩

/-- The comparison of the simulated receipt with the request. -/
def verificationOk (row : ChargeColumns) (context : ChargeContext)
    (receipt : Client.PaymentReceipt) : Bool :=
  receipt.merchant = context.merchantWalletAddress &&
  receipt.asset = context.expectedAssetAddress &&
  receipt.amount = row.amount &&
  receipt.chargeId = row.chargeId &&
  receipt.mandateId = row.mandateId &&
  receipt.invoiceHash = row.invoiceHash

/-- `resolveChargeContext`. -/
structure State.Resolves (s : State T) (row : ChargeColumns) (context : ChargeContext) : Prop where
  wallet : s.wallets.lookup row.merchantId = some context.merchantWalletAddress
  session : ∃ session, s.Links row.merchantId row.mandateId session ∧
    session.productAssetAddress = context.expectedAssetAddress

/-- The chain simulates the charge on its ledger. -/
def State.Simulates (host : Host T) (s : State T) (row : ChargeColumns) (receipt : PaymentReceipt) :
    Prop :=
  ∃ entry args authorized, ∃ net : Network T, net.ledger = s.ledger ∧
    row.chargeArgs entry = some args ∧ net.simulate host args authorized = some (.ok receipt)

end

/-! ## What a request spells -/

section

variable {T : Type} {host : Host T} {s : State T} {row : ChargeColumns} {receipt : PaymentReceipt}

/-- The bytes of the request, as the chain has them in its receipt. -/
structure ChargeColumns.Spells (row : ChargeColumns) (receipt : PaymentReceipt) : Prop where
  mandateId : hexToId row.mandateId = some receipt.mandateId
  chargeId : hexToId row.chargeId = some receipt.chargeId
  invoiceHash : hexToId row.invoiceHash = some receipt.invoiceHash
  amount : receipt.amount.val = row.amount

theorem chargeArgs_eq_some {entry : Option ℕ} {args : ChargeArgs}
    (h : row.chargeArgs entry = some args) : hexToId row.mandateId = some args.mandateId ∧
      hexToId row.chargeId = some args.chargeId ∧ hexToId row.invoiceHash = some args.invoiceHash ∧
      args.amount = row.amount := by
  obtain ⟨mandateId, hmandate, h⟩ := Option.bind_eq_some_iff.mp h
  obtain ⟨chargeId, hcharge, h⟩ := Option.bind_eq_some_iff.mp h
  obtain ⟨invoiceHash, hinvoice, h⟩ := Option.bind_eq_some_iff.mp h
  cases h
  exact ⟨hmandate, hcharge, hinvoice, rfl⟩

/-- **An honest simulation** answers with what the request spells, and with merchant and asset of the
mandate. -/
theorem spells_of_simulates (h : s.Simulates host row receipt) :
    row.Spells receipt ∧ ∃ m, s.ledger.storage.getMandate receipt.mandateId = some m ∧
      receipt.merchant = m.merchant ∧ receipt.asset = m.asset := by
  obtain ⟨entry, args, authorized, net, hnet, hargs, hsimulate⟩ := h
  obtain ⟨hmandate, hcharge, hinvoice, hamount⟩ := chargeArgs_eq_some hargs
  obtain ⟨c, hc, hresult⟩ := Option.bind_eq_some_iff.mp hsimulate
  obtain ⟨amount, hof, rfl⟩ := Option.map_eq_some_iff.mp hc
  have hout := Network.parseResult_ok.mp hresult
  obtain ⟨l', -, heffect⟩ := Registry.exists_effect hout
  cases heffect with
  | charged _ _ _ _ m period collected t m' hstored hchargeable hpaid haccounted =>
      have hterms : m'.terms = m.terms := haccounted.terms_eq
      have hvalue : amount.val = args.amount := MachineInt.ofInt?_eq_some.mp hof
      refine ⟨⟨hmandate, hcharge, hinvoice, hvalue.trans hamount⟩, m, hnet ▸ hstored, ?_, ?_⟩
      · exact congrArg Registry.Terms.merchant hterms
      · exact congrArg Registry.Terms.asset hterms

/-- The texts agree exactly when those that the caller has spelled are in lower case. -/
theorem verificationOk_iff {context : ChargeContext} (hspells : row.Spells receipt)
    (hmerchant : receipt.merchant = context.merchantWalletAddress)
    (hasset : receipt.asset = context.expectedAssetAddress) (hcharge : IsLowerCase row.chargeId) :
    verificationOk row context (toDomainPaymentReceipt receipt) = true ↔
      IsLowerCase row.mandateId ∧ IsLowerCase row.invoiceHash := by
  have hchargeId : idToHex receipt.chargeId = row.chargeId :=
    (Client.idToHex_eq_iff hspells.chargeId).mpr hcharge
  simp only [verificationOk, toDomainPaymentReceipt, hmerchant, hasset, hspells.amount, hchargeId,
    decide_true, Bool.true_and, Bool.and_eq_true, decide_eq_true_eq]
  exact and_congr (Client.idToHex_eq_iff hspells.mandateId)
    (Client.idToHex_eq_iff hspells.invoiceHash)

/-! ## Every reachable state -/

/-- The mandate that is spelled is on the chain, with this merchant. -/
def HasMerchant (l : Ledger T) (mandateId : String) (merchant : Address) : Prop :=
  ∃ id m, hexToId mandateId = some id ∧ l.storage.getMandate id = some m ∧ m.merchant = merchant

/-- It is one for this session. -/
def Agrees (l : Ledger T) (mandateId : String) (session : CheckoutSession) : Prop :=
  ∃ id m, hexToId mandateId = some id ∧ l.storage.getMandate id = some m ∧
    m.merchant = session.merchantWalletAddress ∧ m.asset = session.productAssetAddress

/-- A row of the API describes a charge of a mandate of its merchant. -/
structure Described (s : State T) (row : ChargeColumns) : Prop where
  wallet : ∃ walletAddress, s.wallets.lookup row.merchantId = some walletAddress ∧
    HasMerchant s.ledger row.mandateId walletAddress
  chargeId : IsLowerCase row.chargeId

structure Sound (host : Host T) (s : State T) : Prop where
  books : Books host s.ledger
  checked : ∀ call ∈ s.checked, ∃ session, s.sessions.lookup call.1 = some session ∧
    Agrees s.ledger call.2.mandateId session
  linked : ∀ id session text, s.sessions.lookup id = some session →
    session.mandateId = some text → Agrees s.ledger text session
  authorizations : ∀ id row, s.authorizations.lookup id = some row → Described s row
  chargeRequests : ∀ id row, s.chargeRequests.lookup id = some row → Described s row

/-- Merchant and asset of a mandate never change. -/
theorem agrees_exec (hb : Books host s.ledger) (step : Registry.Step T) {text : String}
    {session : CheckoutSession} (h : Agrees s.ledger text session) :
    Agrees (Registry.exec host s.ledger step) text session := by
  obtain ⟨id, m, hid, hm, hmerchant, hasset⟩ := h
  obtain ⟨m', hm', hmove⟩ := Registry.recordStep_exec hb hm step
  refine ⟨id, m', hid, hm', ?_, ?_⟩
  · exact (congrArg Registry.Terms.merchant hmove.terms_eq).trans hmerchant
  · exact (congrArg Registry.Terms.asset hmove.terms_eq).trans hasset

theorem hasMerchant_exec (hb : Books host s.ledger) (step : Registry.Step T) {text : String}
    {merchant : Address} (h : HasMerchant s.ledger text merchant) :
    HasMerchant (Registry.exec host s.ledger step) text merchant := by
  obtain ⟨id, m, hid, hm, hmerchant⟩ := h
  obtain ⟨m', hm', hmove⟩ := Registry.recordStep_exec hb hm step
  exact ⟨id, m', hid, hm', (congrArg Registry.Terms.merchant hmove.terms_eq).trans hmerchant⟩

/-- A row stays described while its merchant and its mandate are what they were. -/
theorem Described.mono {s' : State T} (h : Described s row)
    (hwallets : ∀ id walletAddress, s.wallets.lookup id = some walletAddress →
      s'.wallets.lookup id = some walletAddress)
    (hledger : ∀ text merchant, HasMerchant s.ledger text merchant →
      HasMerchant s'.ledger text merchant) : Described s' row := by
  obtain ⟨walletAddress, hwallet, hmandate⟩ := h.wallet
  exact ⟨⟨walletAddress, hwallets _ _ hwallet, hledger _ _ hmandate⟩, h.chargeId⟩

theorem readMandate_eq_some {text : String} {mandate : Client.Mandate}
    (h : s.readMandate text = some mandate) : ∃ id m, hexToId text = some id ∧
      s.ledger.storage.getMandate id = some m ∧ m.merchant = mandate.merchant ∧
      m.asset = mandate.asset := by
  obtain ⟨id, hid, h⟩ := Option.bind_eq_some_iff.mp h
  obtain ⟨m, hget, hm⟩ := Option.bind_eq_some_iff.mp h
  cases hm
  unfold Registry.getMandate at hget
  cases hstored : s.ledger.storage.getMandate id with
  | none =>
      rw [hstored] at hget
      cases hget
  | some stored =>
      rw [hstored] at hget
      cases hget
      exact ⟨id, stored, hid, hstored, rfl, rfl⟩

theorem agrees_of_linkable {id : String} {input : LinkMandateInput} {now : Time}
    (h : s.linkable id input now = true) : ∃ session, s.sessions.lookup id = some session ∧
      Agrees s.ledger input.mandateId session := by
  unfold State.linkable at h
  split at h
  · rename_i session mandate hsession hread
    simp only [Bool.and_eq_true, decide_eq_true_eq] at h
    have hcheck := h.2
    unfold checkMandate at hcheck
    simp only [Tx.bind_ok, Tx.rejectIf_ok, not_not] at hcheck
    obtain ⟨-, hmerchant, -, hasset, -⟩ := hcheck
    obtain ⟨mandateId, m, hid, hm, hm₁, hm₂⟩ := readMandate_eq_some hread
    exact ⟨session, hsession, mandateId, m, hid, hm, hm₁.trans hmerchant, hm₂.trans hasset⟩
  · cases h

theorem described_of_issue {call : IssueCall} {id : Uuid} {chargeId : BytesN}
    {columns : ChargeColumns} (h : s.issue call id chargeId = .ok columns) :
    Described s columns := by
  have helim : ∀ {α : Type} {o : Option α} {e : RouteError} {a : α},
      o.elim (.error e : Except RouteError α) .ok = .ok a → o = some a := by
    intro α o e a ho
    cases o with
    | none => cases ho
    | some b => exact congrArg some (Except.ok.inj ho)
  unfold State.issue at h
  simp only [Tx.bind_ok] at h
  obtain ⟨mandateId, -, invoiceHash, -, walletAddress, hwallet, authorization, hissue, hret⟩ := h
  cases hret
  unfold issueChargeAuthorization at hissue
  simp only [Tx.bind_ok, Tx.rejectIf_ok, not_not] at hissue
  obtain ⟨decimals, -, amount, -, mandate, hmandate, -, hmerchant, -⟩ := hissue
  obtain ⟨id, m, hid, hm, hm₁, -⟩ := readMandate_eq_some (helim hmandate)
  exact ⟨⟨walletAddress, helim hwallet, id, m, hid, hm, hm₁.trans hmerchant⟩,
    Client.isLowerCase_idToHex chargeId⟩

theorem Described.congr {s' : State T} (h : Described s row) (hledger : s'.ledger = s.ledger)
    (hwallets : s'.wallets = s.wallets) : Described s' row :=
  h.mono (fun _ _ hw => hwallets ▸ hw) fun _ _ hm => hledger ▸ hm

/-- A session with the same merchant and asset. -/
theorem Agrees.congr {l : Ledger T} {text : String} {session session' : CheckoutSession}
    (h : Agrees l text session)
    (hmerchant : session'.merchantWalletAddress = session.merchantWalletAddress)
    (hasset : session'.productAssetAddress = session.productAssetAddress) : Agrees l text session' := by
  obtain ⟨id, m, hid, hm, hm₁, hm₂⟩ := h
  exact ⟨id, m, hid, hm, hm₁.trans hmerchant.symm, hm₂.trans hasset.symm⟩

/-! ### What an action writes -/

theorem Sound.chain (hinj : Function.Injective host.sha256) (h : Sound host s)
    (step : Registry.Step T) : Sound host { s with ledger := Registry.exec host s.ledger step } := by
  have hrow : ∀ row, Described s row →
      Described { s with ledger := Registry.exec host s.ledger step } row :=
    fun row hrow => hrow.mono (fun _ _ hw => hw) fun _ _ => hasMerchant_exec h.books step
  refine ⟨Registry.books_exec hinj h.books step, fun call hcall => ?_, fun id session text hsession htext =>
    agrees_exec h.books step (h.linked id session text hsession htext),
    fun id row hid => hrow row (h.authorizations id row hid),
    fun id row hid => hrow row (h.chargeRequests id row hid)⟩
  obtain ⟨session, hsession, hagrees⟩ := h.checked call hcall
  exact ⟨session, hsession, agrees_exec h.books step hagrees⟩

/-- A merchant is new. -/
theorem Sound.setWallet (h : Sound host s) {id : Uuid} (hfresh : (s.wallets.lookup id).isNone)
    (walletAddress : Address) : Sound host { s with wallets := s.wallets.insert id walletAddress } := by
  have hrow : ∀ row, Described s row →
      Described { s with wallets := s.wallets.insert id walletAddress } row := by
    refine fun row hrow => hrow.mono (fun id' w hw => ?_) fun _ _ hm => hm
    show (s.wallets.insert id walletAddress).lookup id' = some w
    rw [FinMap.lookup_insert, if_neg, hw]
    rintro rfl
    rw [hw] at hfresh
    cases hfresh
  exact ⟨h.books, h.checked, h.linked, fun id row hid => hrow row (h.authorizations id row hid),
    fun id row hid => hrow row (h.chargeRequests id row hid)⟩

/-- A session is stored that keeps merchant and asset of the one before. -/
theorem Sound.setSession (h : Sound host s) {id : String} {session : CheckoutSession}
    (hkeeps : ∀ old, s.sessions.lookup id = some old →
      session.merchantWalletAddress = old.merchantWalletAddress ∧
      session.productAssetAddress = old.productAssetAddress)
    (hlinked : ∀ text, session.mandateId = some text → Agrees s.ledger text session) :
    Sound host { s with sessions := s.sessions.insert id session } := by
  refine ⟨h.books, fun call hcall => ?_, fun id' session' text hsession htext => ?_,
    fun id row hid => (h.authorizations id row hid).congr rfl rfl,
    fun id row hid => (h.chargeRequests id row hid).congr rfl rfl⟩
  · obtain ⟨old, hold, hagrees⟩ := h.checked call hcall
    show ∃ session', (s.sessions.insert id session).lookup call.1 = some session' ∧ _
    rw [FinMap.lookup_insert]
    split
    · rename_i heq
      obtain ⟨hmerchant, hasset⟩ := hkeeps old (heq ▸ hold)
      exact ⟨session, rfl, hagrees.congr hmerchant hasset⟩
    · exact ⟨old, hold, hagrees⟩
  · change (s.sessions.insert id session).lookup id' = some session' at hsession
    rw [FinMap.lookup_insert] at hsession
    split_ifs at hsession with heq
    · obtain rfl := Option.some.inj hsession
      exact hlinked text htext
    · exact h.linked id' session' text hsession htext

/-- A mandate is checked before its session is linked. -/
theorem Sound.check (h : Sound host s) {id : String} {input : LinkMandateInput} {now : Time}
    (hlinkable : s.linkable id input now = true) :
    Sound host { s with checked := s.checked ++ [(id, input)] } := by
  refine ⟨h.books, fun call hcall => ?_, h.linked,
    fun id row hid => (h.authorizations id row hid).congr rfl rfl,
    fun id row hid => (h.chargeRequests id row hid).congr rfl rfl⟩
  rcases List.mem_append.mp hcall with hcall | hcall
  · exact h.checked call hcall
  · obtain rfl := List.mem_singleton.mp hcall
    exact agrees_of_linkable hlinkable

theorem Sound.setAuthorization (h : Sound host s) {columns : ChargeColumns} (hrow : Described s columns)
    (id : Uuid) : Sound host { s with authorizations := s.authorizations.insert id columns } := by
  refine ⟨h.books, h.checked, h.linked, fun id' row hid => ?_,
    fun id row hid => (h.chargeRequests id row hid).congr rfl rfl⟩
  change (s.authorizations.insert id columns).lookup id' = some row at hid
  rw [FinMap.lookup_insert] at hid
  split_ifs at hid
  · obtain rfl := Option.some.inj hid
    exact hrow.congr rfl rfl
  · exact (h.authorizations id' row hid).congr rfl rfl

theorem Sound.setChargeRequest (h : Sound host s) {columns : ChargeColumns} (hrow : Described s columns)
    (id : Uuid) : Sound host { s with chargeRequests := s.chargeRequests.insert id columns } := by
  refine ⟨h.books, h.checked, h.linked,
    fun id row hid => (h.authorizations id row hid).congr rfl rfl, fun id' row hid => ?_⟩
  change (s.chargeRequests.insert id columns).lookup id' = some row at hid
  rw [FinMap.lookup_insert] at hid
  split_ifs at hid
  · obtain rfl := Option.some.inj hid
    exact hrow.congr rfl rfl
  · exact (h.chargeRequests id' row hid).congr rfl rfl

/-- **One action.** -/
theorem sound_exec (hinj : Function.Injective host.sha256) (a : Action T) (h : Sound host s) :
    Sound host (exec host s a) := by
  cases a with
  | chain step => exact h.chain hinj step
  | createMerchant id walletAddress =>
      simp only [exec]
      split
      · rename_i hfresh
        exact h.setWallet hfresh walletAddress
      · exact h
  | createProduct id row =>
      simp only [exec]
      split
      · exact ⟨h.books, h.checked, h.linked,
          fun id row hid => (h.authorizations id row hid).congr rfl rfl,
          fun id row hid => (h.chargeRequests id row hid).congr rfl rfl⟩
      · exact h
  | createSession id merchantId now input =>
      simp only [exec]
      split
      · rename_i walletAddress hfresh hwallet
        split
        · -- a session is new, and not linked yet
          rename_i session hsession
          refine h.setSession (fun old hold => ?_) fun text htext => ?_
          · rw [hfresh] at hold
            cases hold
          · rw [(Api.checkoutSessionOf_ok hsession).1] at htext
            cases htext
        · exact h
      · exact h
  | checkLink id input now =>
      simp only [exec]
      split
      · rename_i hlinkable
        exact h.check hlinkable
      · exact h
  | storeLink call =>
      simp only [exec]
      split
      · rename_i id input hcall
        split
        · rename_i session hsession
          -- the session keeps merchant and product
          refine h.setSession (fun old hold => ?_) fun text htext => ?_
          · obtain rfl := Option.some.inj (hsession.symm.trans hold)
            exact ⟨rfl, rfl⟩
          · obtain ⟨checked, hchecked, hagrees⟩ := h.checked _ (List.mem_of_getElem? hcall)
            obtain rfl := Option.some.inj (hsession.symm.trans hchecked)
            obtain rfl := Option.some.inj htext
            exact hagrees.congr rfl rfl
        · exact h
      · exact h
  | issue call id chargeId =>
      simp only [exec]
      split
      · rename_i columns hfresh hissue
        exact h.setAuthorization (described_of_issue hissue) id
      · exact h
  | complete authorizationId id =>
      simp only [exec]
      split
      · rename_i columns hauthorization hfresh
        exact h.setChargeRequest (h.authorizations _ _ hauthorization) id
      · exact h

theorem sound_run (hinj : Function.Injective host.sha256) (t₀ : U64) (tok₀ : T)
    (actions : List (Action T)) : Sound host (run host (initial t₀ tok₀) actions) := by
  refine Runs.run_invariant (fun _ a h => sound_exec hinj a h) ?_ actions
  exact
    { books := Registry.books_genesis host t₀ tok₀
      checked := fun call hcall => by cases hcall
      linked := fun id session text hsession => by cases hsession
      authorizations := fun id row hid => by cases hid
      chargeRequests := fun id row hid => by cases hid }

/-! ## What the comparison finds -/

/-- Merchant and asset of an honest receipt are the expected ones. -/
theorem parties_of_simulates (h : Sound host s) (hrow : Described s row) {context : ChargeContext}
    (hcontext : s.Resolves row context) (hsimulates : s.Simulates host row receipt) :
    receipt.merchant = context.merchantWalletAddress ∧
      receipt.asset = context.expectedAssetAddress := by
  obtain ⟨hspells, m, hm, hmerchant, hasset⟩ := spells_of_simulates hsimulates
  obtain ⟨session, ⟨id, hsession, -, htext⟩, hexpected⟩ := hcontext.session
  obtain ⟨mandateId, m₁, hid, hm₁, -, hasset₁⟩ := h.linked id session _ hsession htext
  obtain ⟨walletAddress, hwallet, mandateId₂, m₂, hid₂, hm₂, hmerchant₂⟩ := hrow.wallet
  -- the session, the row and the receipt speak of one mandate
  rw [hspells.mandateId] at hid hid₂
  obtain rfl := Option.some.inj hid
  obtain rfl := Option.some.inj hid₂
  obtain rfl := Option.some.inj (hm.symm.trans hm₁)
  obtain rfl := Option.some.inj (hm.symm.trans hm₂)
  refine ⟨hmerchant.trans (hmerchant₂.trans ?_), hasset.trans (hasset₁.trans hexpected)⟩
  exact Option.some.inj (hwallet.symm.trans hcontext.wallet)

/-- The request with its ids as bytes, as the model of the relayer has it. -/
structure ChargeColumns.Decodes (row : ChargeColumns) (request : Relayer.ChargeRequest) : Prop where
  mandateId : hexToId row.mandateId = some request.mandateId
  chargeId : hexToId row.chargeId = some request.chargeId
  invoiceHash : hexToId row.invoiceHash = some request.invoiceHash
  amount : request.amount = row.amount

/-- **An honest simulation differs in no byte and in no integer.** -/
theorem verificationOk_decoded (hinj : Function.Injective host.sha256) (t₀ : U64) (tok₀ : T)
    (actions : List (Action T)) {id : Uuid}
    (hrow : (run host (initial t₀ tok₀) actions).chargeRequests.lookup id = some row)
    {context : ChargeContext} (hcontext : (run host (initial t₀ tok₀) actions).Resolves row context)
    (hsimulates : (run host (initial t₀ tok₀) actions).Simulates host row receipt)
    {request : Relayer.ChargeRequest} (hrequest : row.Decodes request) :
    Relayer.verificationOk request context receipt = true := by
  have h := sound_run hinj t₀ tok₀ actions
  obtain ⟨hmerchant, hasset⟩ :=
    parties_of_simulates h (h.chargeRequests id row hrow) hcontext hsimulates
  obtain ⟨hspells, -⟩ := spells_of_simulates hsimulates
  have hmandate := Option.some.inj (hspells.mandateId.symm.trans hrequest.mandateId)
  have hcharge := Option.some.inj (hspells.chargeId.symm.trans hrequest.chargeId)
  have hinvoice := Option.some.inj (hspells.invoiceHash.symm.trans hrequest.invoiceHash)
  have hamount := hspells.amount.trans hrequest.amount.symm
  simp only [Relayer.verificationOk, hmerchant, hasset, hamount, hcharge, hmandate, hinvoice,
    decide_true, Bool.and_true]

/-- **Which honest simulations pass.** For every request that the routes have made, in every run, the
relayer finds merchant and mandate to agree, and it takes an honest simulation of the charge for the one
that is described exactly when the request spells mandate and invoice in lower case. -/
theorem simulation_matches_iff (hinj : Function.Injective host.sha256) (t₀ : U64) (tok₀ : T)
    (actions : List (Action T)) {id : Uuid}
    (hrow : (run host (initial t₀ tok₀) actions).chargeRequests.lookup id = some row)
    {context : ChargeContext} (hcontext : (run host (initial t₀ tok₀) actions).Resolves row context)
    (hsimulates : (run host (initial t₀ tok₀) actions).Simulates host row receipt) :
    (∀ mandate, (run host (initial t₀ tok₀) actions).readMandate row.mandateId = some mandate →
      mandate.merchant = context.merchantWalletAddress) ∧
    (verificationOk row context (toDomainPaymentReceipt receipt) = true ↔
      IsLowerCase row.mandateId ∧ IsLowerCase row.invoiceHash) := by
  have h := sound_run hinj t₀ tok₀ actions
  have hdescribed := h.chargeRequests id row hrow
  obtain ⟨hmerchant, hasset⟩ := parties_of_simulates h hdescribed hcontext hsimulates
  obtain ⟨hspells, -⟩ := spells_of_simulates hsimulates
  refine ⟨fun mandate hread => ?_, verificationOk_iff hspells hmerchant hasset hdescribed.chargeId⟩
  obtain ⟨mandateId, m, hid, hm, hm₁, -⟩ := readMandate_eq_some hread
  obtain ⟨walletAddress, hwallet, mandateId', m', hid', hm', hmerchant'⟩ := hdescribed.wallet
  obtain rfl := Option.some.inj (hid.symm.trans hid')
  obtain rfl := Option.some.inj (hm.symm.trans hm')
  rw [← hm₁, hmerchant']
  exact Option.some.inj (hwallet.symm.trans hcontext.wallet)

end

/-! ## An invoice in upper case

A charge of `5` of the mandate of `mockInput`, for an invoice whose hash has one digit throughout. -/

section

open Registry (MockToken mockCreation mockFunds mockHost mockId mockInput)

def hashOf (c : Char) : String := String.ofList (List.replicate 64 c)

def mockProduct : Api.Product where
  name := "Plan"
  description := none
  assetAddress := ⟨3⟩
  assetDecimals := 0
  amountType := .fixed
  fixedAmount := some 5
  maxPerCharge := none
  maxPerPeriod := 8
  periodSeconds := 100
  minIntervalSeconds := 10
  maxSuccessfulCharges := 3
  defaultDurationSeconds := 1000

def mockSession : CreateCheckoutSessionInput := ⟨1, "1", none, none, some 1000⟩

/-- The session is linked and a charge is authorized, for an invoice as it is spelled. -/
def chargedFor (invoiceHash : String) : List (Action MockToken) :=
  [.chain mockCreation, .createMerchant 1 ⟨2⟩, .createProduct 1 ⟨1, mockProduct⟩,
    .createSession "s" 1 0 mockSession, .checkLink "s" ⟨idToHex mockId, ⟨1⟩⟩ 0, .storeLink 0,
    .issue ⟨1, idToHex mockId, "5", invoiceHash, none, 0, 0, 0⟩ 1 ⟨1⟩, .complete 1 1]

def chargedState (invoiceHash : String) : State MockToken :=
  run mockHost (initial 0 mockFunds) (chargedFor invoiceHash)

def columnsFor (invoiceHash : String) : ChargeColumns where
  merchantId := 1
  mandateId := idToHex mockId
  chargeId := idToHex ⟨1⟩
  amount := 5
  invoiceHash := invoiceHash
  scheduledFor := 0

def receiptFor (invoiceHash : BytesN) : PaymentReceipt :=
  Registry.newReceipt mockHost (Registry.newMandate mockId 0 mockInput) mockId ⟨1⟩
    ((MachineInt.ofInt? 5).getD 0) invoiceHash 0

def chargeContext : ChargeContext := ⟨⟨2⟩, ⟨3⟩⟩

def linkedSession : CheckoutSession :=
  (newSession 1 ⟨2⟩ 0 mockSession mockProduct).link ⟨idToHex mockId, ⟨1⟩⟩

/-- The hash `aa…a`, whose letters may be spelled in either case. -/
def aHash : BytesN := ⟨Hex.word (List.replicate 32 170)⟩

def chargeFor (invoiceHash : BytesN) : ChargeArgs := ⟨mockId, ⟨1⟩, 5, invoiceHash, none⟩

theorem resolves_charged {invoiceHash : String}
    (hwallet : (chargedState invoiceHash).wallets.lookup 1 = some ⟨2⟩)
    (hsession : (chargedState invoiceHash).sessions.lookup "s" = some linkedSession) :
    (chargedState invoiceHash).Resolves (columnsFor invoiceHash) chargeContext :=
  ⟨hwallet, linkedSession, ⟨"s", hsession, rfl, rfl⟩, rfl⟩

theorem simulates_charged {invoiceHash : String}
    (hargs : (columnsFor invoiceHash).chargeArgs none = some (chargeFor aHash))
    (hsimulate : Network.simulate mockHost ⟨(chargedState invoiceHash).ledger, 0, []⟩
      (chargeFor aHash) [⟨2⟩] = some (.ok (receiptFor aHash))) :
    (chargedState invoiceHash).Simulates mockHost (columnsFor invoiceHash) (receiptFor aHash) :=
  ⟨none, chargeFor aHash, [⟨2⟩], ⟨(chargedState invoiceHash).ledger, 0, []⟩, rfl, hargs, hsimulate⟩

set_option maxRecDepth 8000 in
theorem simulation_matches_lower_case :
    verificationOk (columnsFor (hashOf 'a')) chargeContext
      (toDomainPaymentReceipt (receiptFor aHash)) = true := by
  have hrow : (chargedState (hashOf 'a')).chargeRequests.lookup 1
      = some (columnsFor (hashOf 'a')) := by decide
  have hcontext := @resolves_charged (hashOf 'a') (by decide) (by decide)
  have hsimulates := @simulates_charged (hashOf 'a') (by decide) rfl
  exact (simulation_matches_iff Registry.encodeDigest_injective 0 mockFunds (chargedFor (hashOf 'a'))
    hrow hcontext hsimulates).2.mpr (by decide)

set_option maxRecDepth 8000 in
/-- **A false mismatch**: the same bytes, spelled in upper case. -/
theorem upper_case_mismatch :
    (chargedState (hashOf 'A')).chargeRequests.lookup 1 = some (columnsFor (hashOf 'A')) ∧
    (chargedState (hashOf 'A')).Resolves (columnsFor (hashOf 'A')) chargeContext ∧
    (chargedState (hashOf 'A')).Simulates mockHost (columnsFor (hashOf 'A')) (receiptFor aHash) ∧
    verificationOk (columnsFor (hashOf 'A')) chargeContext
      (toDomainPaymentReceipt (receiptFor aHash)) = false :=
  ⟨by decide, resolves_charged (by decide) (by decide), simulates_charged (by decide) rfl,
    by decide⟩

end

end Paymap.Backend.Spellings
