import Paymap.Web.CheckoutMoves

set_option autoImplicit false

/-! # One checkout, one mandate

A handler at work leaves no button enabled, so there is never more than one of them, and the mandate is
only created by a handler that has sent nothing yet. It is the nonce that lets a second one be created: it
is drawn anew each time, so the contract does not see that the mandate is there already. What keeps a
session to one mandate is that "Try authorizing again" is pressed only when nothing that was sent before
has created a mandate or can still do so.
-/

namespace Paymap.Web.CheckoutFlow

open Registry (Address Approve BytesN Host Ledger)

/-! ## What an effect does -/

section

variable {T : Type} {host : Host T}

/-- How many transactions have created a mandate, or may still do so. -/
def Shared.attempts (s : Shared T) : ℕ := s.submissions.countP Submission.mayCreate

/-- The effect changes neither the page nor what may become of the mandate. -/
def Effect.Quiet : Effect → Prop
  | .dispatch _ => False
  | .send (.createMandate _) => False
  | _ => True

theorem attempts_send (s : Shared T) (transaction : Transaction) :
    (s.send transaction).attempts
      = s.attempts + if Submission.mayCreate ⟨transaction, .pending⟩ then 1 else 0 := by
  unfold Shared.attempts Shared.send
  rw [List.countP_append, List.countP_singleton]

theorem encode_approve {args : ApproveArgs} {transaction : Transaction}
    (h : (Request.approve args).encode = some transaction) :
    Submission.mayCreate ⟨transaction, .pending⟩ = false := by
  obtain ⟨amount, -, h⟩ := Option.bind_eq_some_iff.mp h
  obtain ⟨liveUntilLedger, -, h⟩ := Option.bind_eq_some_iff.mp h
  cases h
  rfl

variable (host) in
/-- What sending comes to: the transaction is on its way, or there is none. -/
theorem perform_send (turn : Turn) (request : Request) (s : Shared T) :
    (perform host turn (.send request) s).2 = s ∨
      ∃ transaction, request.encode = some transaction ∧
        (perform host turn (.send request) s).2 = s.send transaction := by
  cases hencode : request.encode with
  | none => exact .inl (by simp only [perform, hencode])
  | some transaction =>
      by_cases hfailed : turn.verdict = .failed
      · exact .inl (by simp only [perform, hencode, if_pos hfailed])
      · exact .inr ⟨transaction, rfl, by simp only [perform, hencode, if_neg hfailed]⟩

/-- Any other effect leaves all as it is but the page. -/
theorem perform_of_not_send {turn : Turn} {e : Effect} (hsend : ∀ request, e ≠ .send request)
    (hdispatch : ∀ action, e ≠ .dispatch action) (s : Shared T) : (perform host turn e s).2 = s := by
  cases e with
  | dispatch action => exact absurd rfl (hdispatch action)
  | send request => exact absurd rfl (hsend request)
  | connect => rfl
  | randomHexId32 => rfl
  | latestLedger => rfl
  | awaitMandate submission =>
      simp only [perform]
      split <;> rfl
  | awaitApproval submission =>
      simp only [perform]
      split <;> rfl
  | queryAllowance tokenContractId owner spender =>
      simp only [perform]
      split <;> rfl
  | linkMandateToCheckoutSession mandateId payerAddress => rfl

variable (host) in
theorem perform_quiet (turn : Turn) {e : Effect} (hquiet : e.Quiet) (s : Shared T) :
    (perform host turn e s).2.state = s.state ∧ (perform host turn e s).2.attempts = s.attempts := by
  by_cases hsend : ∃ request, e = .send request
  · obtain ⟨request, rfl⟩ := hsend
    cases request with
    | createMandate input => exact hquiet.elim
    | approve args =>
        rcases perform_send host turn (.approve args) s with hsame | ⟨transaction, hencode, hsent⟩
        · rw [hsame]
          exact ⟨rfl, rfl⟩
        · rw [hsent, attempts_send, encode_approve hencode]
          exact ⟨rfl, rfl⟩
  · have hdispatch : ∀ action, e ≠ .dispatch action := by
      rintro action rfl
      exact hquiet
    rw [perform_of_not_send (fun request h => hsend ⟨request, h⟩) hdispatch]
    exact ⟨rfl, rfl⟩

variable (host) in
/-- One transaction more, at most. -/
theorem attempts_perform_send (turn : Turn) (request : Request) (s : Shared T) :
    (perform host turn (.send request) s).2.state = s.state ∧
      (perform host turn (.send request) s).2.attempts ≤ s.attempts + 1 := by
  rcases perform_send host turn request s with hsame | ⟨transaction, -, hsent⟩
  · rw [hsame]
    exact ⟨rfl, by omega⟩
  · rw [hsent, attempts_send]
    refine ⟨rfl, ?_⟩
    split_ifs
    · omega
    · omega

/-! ## One handler at a time -/

/-- What the page shows while a handler is at work. -/
def Phase.Shows (state : CheckoutState) : Phase → Prop
  | .connecting => state.phase = .connecting
  | .creating => state.phase = .creatingMandate
  | .sent => state.phase = .creatingMandate
  | .funding => state.phase = .approving ∨ state.phase = .linking
  | .done => True

/-- There is no wallet yet. -/
def CheckoutState.Unconnected (state : CheckoutState) : Prop :=
  state.phase = .idle ∨ state.phase = .connecting ∨
    (state.phase = .error ∧ state.failedStep = some .connect)

/-- What a handler says that has a wallet. -/
def CheckoutAction.OfMandate : CheckoutAction → Prop
  | .connectStart => False
  | .connectSuccess _ => False
  | .connectError _ => False
  | _ => True

theorem checkoutReducer_ofMandate (state : CheckoutState) {action : CheckoutAction}
    (h : action.OfMandate) :
    (checkoutReducer state action).address = state.address ∧
      ¬ ((checkoutReducer state action).Unconnected ∨ (checkoutReducer state action).phase = .ready) := by
  unfold CheckoutState.Unconnected
  cases action with
  | connectStart => exact h.elim
  | connectSuccess address => exact h.elim
  | connectError error => exact h.elim
  | _ => exact ⟨rfl, by simp [checkoutReducer]⟩

/-- There is one handler at work at most, and one transaction at most that may have created a mandate;
before the first button for it is pressed, and until a handler has sent one, there is none. -/
structure Single (s : Shared T) (phases : List Phase) : Prop where
  alone : ∀ {i j : ℕ} {p q : Phase}, phases[i]? = some p → phases[j]? = some q → p ≠ .done →
    q ≠ .done → i = j
  shows : ∀ {i : ℕ} {p : Phase}, phases[i]? = some p → p.Shows s.state
  untried : s.state.Unconnected ∨ s.state.phase = .ready → s.attempts = 0
  creating : ∀ {i : ℕ}, phases[i]? = some .creating → s.attempts = 0
  once : s.attempts ≤ 1
  addressed : ¬ s.state.Unconnected → s.state.address.isSome = true

namespace Single

variable {s s' : Shared T} {phases : List Phase}

/-- The one handler at work has moved. -/
theorem set (h : Single s phases) {i : ℕ} {p p' : Phase} (hp : phases[i]? = some p)
    (hbusy : p ≠ .done) (hshows : p'.Shows s'.state)
    (huntried : s'.state.Unconnected ∨ s'.state.phase = .ready → s'.attempts = 0)
    (hcreating : p' = .creating → s'.attempts = 0) (honce : s'.attempts ≤ 1)
    (haddressed : ¬ s'.state.Unconnected → s'.state.address.isSome = true) :
    Single s' (phases.set i p') := by
  have hothers : ∀ {j : ℕ} {q : Phase}, j ≠ i → phases[j]? = some q → q = .done := by
    intro j q hj hq
    by_contra hq'
    exact hj (h.alone hq hp hq' hbusy)
  refine ⟨?_, ?_, huntried, ?_, honce, haddressed⟩
  · intro j k q r hq hr hq' hr'
    rcases Workers.getElem?_set_cases hq with ⟨rfl, -⟩ | ⟨hj, hold⟩
    · rcases Workers.getElem?_set_cases hr with ⟨rfl, -⟩ | ⟨hk, hold⟩
      · rfl
      · exact absurd (hothers hk hold) hr'
    · exact absurd (hothers hj hold) hq'
  · intro j q hq
    rcases Workers.getElem?_set_cases hq with ⟨-, rfl⟩ | ⟨hj, hold⟩
    · exact hshows
    · rw [hothers hj hold]
      trivial
  · intro j hq
    rcases Workers.getElem?_set_cases hq with ⟨-, hnew⟩ | ⟨hj, hold⟩
    · exact hcreating hnew.symm
    · exact absurd (hothers hj hold) (by decide)

/-- The handler at work has something to show, and a mandate was asked for before. -/
theorem dispatch (h : Single s phases) {i : ℕ} {p p' : Phase} (hp : phases[i]? = some p)
    (hconnecting : p ≠ .connecting) (hbusy : p ≠ .done) (action : CheckoutAction)
    (haction : action.OfMandate) (hcreating : p' ≠ .creating)
    (hshows : p'.Shows (checkoutReducer s.state action)) :
    Single { s with state := checkoutReducer s.state action } (phases.set i p') := by
  have hconnected : ¬ s.state.Unconnected := by
    have hpage := h.shows hp
    unfold CheckoutState.Unconnected
    cases p with
    | connecting => exact absurd rfl hconnecting
    | done => exact absurd rfl hbusy
    | creating => rw [show s.state.phase = _ from hpage]; simp
    | sent => rw [show s.state.phase = _ from hpage]; simp
    | funding =>
        rcases hpage with hpage | hpage
        · rw [hpage]; simp
        · rw [hpage]; simp
  obtain ⟨haddress, htried⟩ := checkoutReducer_ofMandate s.state haction
  refine h.set hp hbusy hshows (fun h => absurd h htried) (fun h => absurd h hcreating) h.once
    fun _ => ?_
  show (checkoutReducer s.state action).address.isSome = true
  rw [haddress]
  exact h.addressed hconnected

/-- What happens on the chain can only make fewer transactions that may create a mandate. -/
theorem chain (h : Single s phases) (hstate : s'.state = s.state) (hle : s'.attempts ≤ s.attempts) :
    Single s' phases := by
  refine ⟨h.alone, ?_, ?_, ?_, ?_, ?_⟩
  · rw [hstate]
    exact h.shows
  · intro huntried
    rw [hstate] at huntried
    have hnone := h.untried huntried
    omega
  · intro i hp
    have hnone := h.creating hp
    omega
  · have honce := h.once
    omega
  · rw [hstate]
    exact h.addressed

/-- A handler starts when none is at work. -/
theorem start (h : Single s phases) {p : Phase} (hidle : ∀ {i : ℕ} {q : Phase}, phases[i]? = some q → q = .done)
    (hattempts : s'.attempts = s.attempts) (hshows : p.Shows s'.state)
    (huntried : s'.state.Unconnected ∨ s'.state.phase = .ready → s'.attempts = 0)
    (hcreating : p = .creating → s'.attempts = 0)
    (haddressed : ¬ s'.state.Unconnected → s'.state.address.isSome = true) :
    Single s' (phases ++ [p]) := by
  have hcases : ∀ {i : ℕ} {q : Phase}, (phases ++ [p])[i]? = some q →
      q = .done ∨ (i = phases.length ∧ q = p) := by
    intro i q hq
    by_cases hi : i < phases.length
    · rw [List.getElem?_append_left hi] at hq
      exact .inl (hidle hq)
    · rw [List.getElem?_append_right (by omega)] at hq
      have hlt := (List.getElem?_eq_some_iff.mp hq).1
      simp only [List.length_cons, List.length_nil] at hlt
      have hi' : i - phases.length = 0 := by omega
      rw [hi'] at hq
      exact .inr ⟨by omega, (Option.some.inj hq).symm⟩
  refine ⟨?_, ?_, huntried, ?_, ?_, haddressed⟩
  · intro i j q r hq hr hq' hr'
    have hi := (hcases hq).resolve_left hq'
    have hj := (hcases hr).resolve_left hr'
    rw [hi.1, hj.1]
  · intro i q hq
    rcases hcases hq with rfl | ⟨-, rfl⟩
    · trivial
    · exact hshows
  · intro i hq
    rcases hcases hq with hdone | ⟨-, hnew⟩
    · exact absurd hdone (by decide)
    · exact hcreating hnew.symm
  · have honce := h.once
    omega

end Single

/-! ## What a handler's step keeps -/

section

variable {session : PublicCheckoutSession} {shown : Shown} {turn : Turn}

/-- A handler's step keeps that there is one handler and one attempt. -/
theorem single_perform {s : Shared T} {phases : List Phase} {i : ℕ} {p p' : Phase} {e : Effect}
    (h : Single s phases) (hp : phases[i]? = some p)
    (hmove : Move session shown p e (perform host turn e s).1 p') :
    Single (perform host turn e s).2 (phases.set i p') := by
  have hshows := h.shows hp
  have honce := h.once
  generalize hanswer : (perform host turn e s).1 = answer at hmove
  -- an effect that is quiet, in a phase that is not left
  have hquiet : e.Quiet → p ≠ .done → p' = p →
      Single (perform host turn e s).2 (phases.set i p') := by
    rintro hq hbusy rfl
    obtain ⟨hstate, hattempts⟩ := perform_quiet host turn hq s
    refine h.set hp hbusy ?_ ?_ ?_ ?_ ?_
    · rwa [hstate]
    · rw [hstate, hattempts]
      exact h.untried
    · rintro rfl
      rw [hattempts]
      exact h.creating hp
    · rwa [hattempts]
    · rw [hstate]
      exact h.addressed
  cases hmove with
  | connect answer => exact hquiet trivial (by decide) rfl
  | randomHexId32 nonce => exact hquiet trivial (by decide) rfl
  | awaitMandate submission answer => exact hquiet trivial (by decide) rfl
  | queryAllowance tokenContractId owner spender answer => exact hquiet trivial (by decide) rfl
  | latestLedger answer => exact hquiet trivial (by decide) rfl
  | approve args answer => exact hquiet trivial (by decide) rfl
  | awaitApproval submission answer => exact hquiet trivial (by decide) rfl
  | link mandateId payerAddress answer => exact hquiet trivial (by decide) rfl
  | send address nonce answer =>
      -- there was no transaction before this one
      have hnone : s.attempts = 0 := h.creating hp
      obtain ⟨hstate, hattempts⟩ := attempts_perform_send host turn
        (.createMandate (mandateInput session shown address nonce)) s
      have hphase : s.state.phase = .creatingMandate := hshows
      refine h.set hp (by decide) ?_ ?_ (by simp) (by omega) ?_
      · rw [hstate]
        exact hphase
      · rw [hstate]
        rintro ((hidle | hconnecting | ⟨herror, -⟩) | hready)
        all_goals simp_all
      · rw [hstate]
        exact h.addressed
  | connected address =>
      have hnone : s.attempts = 0 := h.untried (.inl (.inr (.inl hshows)))
      exact h.set hp (by decide) trivial (fun _ => hnone) (by simp) honce fun _ => rfl
  | notConnected error =>
      have hnone : s.attempts = 0 := h.untried (.inl (.inr (.inl hshows)))
      exact h.set hp (by decide) trivial (fun _ => hnone) (by simp) honce
        fun hconnected => absurd (.inr (.inr ⟨rfl, rfl⟩)) hconnected
  | created mandateId => exact h.dispatch hp (by decide) (by decide) _ trivial (by decide) (.inl rfl)
  | notCreated error => exact h.dispatch hp (by decide) (by decide) _ trivial (by decide) trivial
  | approveStart => exact h.dispatch hp (by decide) (by decide) _ trivial (by decide) (.inl rfl)
  | approved => exact h.dispatch hp (by decide) (by decide) _ trivial (by decide) (.inr rfl)
  | notApproved error => exact h.dispatch hp (by decide) (by decide) _ trivial (by decide) trivial
  | linkStart => exact h.dispatch hp (by decide) (by decide) _ trivial (by decide) (.inr rfl)
  | linked => exact h.dispatch hp (by decide) (by decide) _ trivial (by decide) trivial
  | notLinked error => exact h.dispatch hp (by decide) (by decide) _ trivial (by decide) trivial

end

/-! ## What a button keeps -/

theorem offers_phase {state : CheckoutState} {button : Button} (h : state.offers button = true) :
    state.phase = .idle ∨ state.phase = .ready ∨ state.phase = .error ∨ state.phase = .complete := by
  unfold CheckoutState.offers at h
  cases button <;> simp at h <;> tauto

/-- No button is enabled while a handler is at work. -/
theorem Single.idle {s : Shared T} {phases : List Phase} (h : Single s phases) {button : Button}
    (hoffers : s.state.offers button = true) {i : ℕ} {p : Phase} (hp : phases[i]? = some p) :
    p = .done := by
  have hpage := offers_phase hoffers
  have hshows := h.shows hp
  cases p with
  | done => rfl
  | connecting => rw [show s.state.phase = _ from hshows] at hpage; simp at hpage
  | creating => rw [show s.state.phase = _ from hshows] at hpage; simp at hpage
  | sent => rw [show s.state.phase = _ from hshows] at hpage; simp at hpage
  | funding =>
      rcases hshows with hphase | hphase
      · rw [hphase] at hpage; simp at hpage
      · rw [hphase] at hpage; simp at hpage

/-- But for the two that connect a wallet, a button is only shown when there is one. -/
theorem connected_of_offers {state : CheckoutState} {button : Button}
    (h : state.offers button = true) (hother : button ≠ .connect ∧ button ≠ .retryConnect) :
    ¬ state.Unconnected := by
  unfold CheckoutState.offers at h
  unfold CheckoutState.Unconnected
  cases button with
  | connect => exact absurd rfl hother.1
  | retryConnect => exact absurd rfl hother.2
  | _ => simp at h; simp [h]

/-- The page has an address when a mandate may be created. -/
theorem Single.address_of_offers {s : Shared T} {phases : List Phase} (h : Single s phases)
    {button : Button} (hoffers : s.state.offers button = true)
    (hother : button ≠ .connect ∧ button ≠ .retryConnect) : s.state.address.isSome = true :=
  h.addressed (connected_of_offers hoffers hother)

theorem Single.press {s : Shared T} {phases : List Phase} (h : Single s phases) {button : Button}
    (hoffers : s.state.offers button = true) {state : CheckoutState} {p : Phase}
    (hpressed : Pressed s.state button state p)
    (hvain : button = .tryAuthorizingAgain → s.attempts = 0) :
    Single { s with state := state } (phases ++ [p]) := by
  have hidle : ∀ {i : ℕ} {q : Phase}, phases[i]? = some q → q = .done := h.idle hoffers
  have hmandate : ∀ action : CheckoutAction, action.OfMandate → p.Shows (checkoutReducer s.state action) →
      ¬ s.state.Unconnected → (p = .creating → s.attempts = 0) →
      Single { s with state := checkoutReducer s.state action } (phases ++ [p]) := by
    intro action haction hshows hconnected hcreating
    obtain ⟨haddress, htried⟩ := checkoutReducer_ofMandate s.state haction
    refine h.start hidle rfl hshows (fun h => absurd h htried) hcreating fun _ => ?_
    show (checkoutReducer s.state action).address.isSome = true
    rw [haddress]
    exact h.addressed hconnected
  cases hpressed with
  | connect button which =>
      have hunconnected : s.state.Unconnected := by
        unfold CheckoutState.offers at hoffers
        unfold CheckoutState.Unconnected
        rcases which with rfl | rfl <;> simp at hoffers <;> tauto
      have hnone : s.attempts = 0 := h.untried (.inl hunconnected)
      exact h.start hidle rfl rfl (fun _ => hnone) (by simp)
        fun hconnected => absurd (.inr (.inl rfl)) hconnected
  | create button which =>
      have hother : button ≠ .connect ∧ button ≠ .retryConnect := by
        rcases which with rfl | rfl <;> decide
      refine hmandate .createMandateStart trivial rfl (connected_of_offers hoffers hother) fun _ => ?_
      rcases which with rfl | rfl
      · exact h.untried (.inr (by simpa [CheckoutState.offers] using hoffers))
      · exact hvain rfl
  | approve =>
      exact hmandate .approveStart trivial (.inl rfl) (connected_of_offers hoffers (by decide)) (by simp)
  | link =>
      exact hmandate .linkStart trivial (.inr rfl) (connected_of_offers hoffers (by decide)) (by simp)
  | nothing button => exact h.start hidle rfl trivial h.untried (by simp) h.addressed

/-! ## What happens on the chain -/

variable {approveToken : Approve T} {session : PublicCheckoutSession} {shown : Shown}

/-- Overwriting an element of a list by one that counts no more. -/
theorem countP_set_le {α : Type} {p : α → Bool} {l : List α} {i : ℕ} {a b : α} (h : l[i]? = some b)
    (hle : p a = true → p b = true) : (l.set i a).countP p ≤ l.countP p := by
  obtain ⟨hi, hb⟩ := List.getElem?_eq_some_iff.mp h
  rw [List.countP_set hi, hb]
  by_cases ha : p a = true
  · have hpos : 0 < l.countP p := List.countP_pos_iff.mpr ⟨b, List.mem_of_getElem? h, hle ha⟩
    rw [if_pos ha, if_pos (hle ha)]
    omega
  · rw [if_neg ha]
    omega

variable (host approveToken) in
/-- A transaction that is applied does what a step of the registry does, or nothing. -/
theorem apply_step (transaction : Transaction) (l : Ledger T) :
    (transaction.apply host approveToken l).2 = l ∨
      ∃ step, (transaction.apply host approveToken l).2 = Registry.exec host l step := by
  cases transaction with
  | createMandate input => exact .inr ⟨.call ⟨.createMandate input, [input.payer]⟩, rfl⟩
  | approve owner asset spender amount liveUntilLedger =>
      simp only [Transaction.apply]
      cases approveToken l.token asset owner spender amount liveUntilLedger with
      | none => exact .inl rfl
      | some t => exact .inr ⟨.token t, rfl⟩

variable (host approveToken) in
/-- A transaction is applied, or there is none to be applied. -/
theorem land_cases (s : Shared T) (submission : ℕ) :
    s.land host approveToken submission = s ∨ ∃ transaction,
      s.submissions[submission]? = some ⟨transaction, .pending⟩ ∧
      s.land host approveToken submission =
        { s with
          ledger := (transaction.apply host approveToken s.ledger).2
          submissions := s.submissions.set submission
            ⟨transaction, .landed (transaction.apply host approveToken s.ledger).1⟩ } := by
  unfold Shared.land
  split
  · rename_i transaction hpending
    exact .inr ⟨transaction, hpending, rfl⟩
  · exact .inl rfl

theorem drop_cases (s : Shared T) (submission : ℕ) :
    s.drop submission = s ∨ ∃ transaction,
      s.submissions[submission]? = some ⟨transaction, .pending⟩ ∧
      s.drop submission =
        { s with submissions := s.submissions.set submission ⟨transaction, .dropped⟩ } := by
  unfold Shared.drop
  split
  · rename_i transaction hpending
    exact .inr ⟨transaction, hpending, rfl⟩
  · exact .inl rfl

theorem mayCreate_pending {transaction : Transaction} {fate : Fate}
    (h : Submission.mayCreate ⟨transaction, fate⟩ = true) :
    Submission.mayCreate ⟨transaction, .pending⟩ = true := by
  cases transaction with
  | createMandate input => rfl
  | approve owner asset spender amount liveUntilLedger => cases h

theorem Single.land {s : Shared T} {phases : List Phase} (h : Single s phases) (submission : ℕ) :
    Single (s.land host approveToken submission) phases := by
  rcases land_cases host approveToken s submission with
    hsame | ⟨transaction, hpending, hlanded⟩
  · rwa [hsame]
  · rw [hlanded]
    exact h.chain rfl (countP_set_le hpending mayCreate_pending)

theorem Single.drop {s : Shared T} {phases : List Phase} (h : Single s phases) (submission : ℕ) :
    Single (s.drop submission) phases := by
  rcases drop_cases s submission with hsame | ⟨transaction, hpending, hdropped⟩
  · rwa [hsame]
  · rw [hdropped]
    exact h.chain rfl (countP_set_le hpending mayCreate_pending)

/-! ## The terms of the mandates -/

/-- The mandate is stored, with the terms that were shown. -/
def Promised (shown : Shown) (l : Ledger T) (id : BytesN) : Prop :=
  ∃ m input now, l.storage.getMandate id = some m ∧
    m.terms = (Registry.newMandate id now input).terms ∧
    MandateTerms.ofInput input shown.terms.assetDecimals = shown.terms

variable (host shown) in
/-- Each transaction is for a mandate with the terms that were shown, and so is each mandate. -/
structure OnChain (s : Shared T) : Prop where
  books : Registry.Books host s.ledger
  sent : ∀ submission ∈ s.submissions, ∀ input, submission.transaction = .createMandate input →
    MandateTerms.ofInput input shown.terms.assetDecimals = shown.terms
  created : ∀ id ∈ s.mandates, Promised shown s.ledger id

/-- What is encoded has the terms that were shown. -/
theorem ofInput_encoded {address : Address} {nonce : BytesN} {input : Registry.MandateInput}
    (h : Client.fromDomainMandateInput (mandateInput session shown address nonce) = some input) :
    MandateTerms.ofInput input shown.terms.assetDecimals = shown.terms := by
  unfold Client.fromDomainMandateInput at h
  obtain ⟨amountRule, hrule, h⟩ := Option.bind_eq_some_iff.mp h
  obtain ⟨maxPerPeriod, hcap, h⟩ := Option.bind_eq_some_iff.mp h
  obtain ⟨periodSeconds, hperiod, h⟩ := Option.bind_eq_some_iff.mp h
  obtain ⟨minIntervalSeconds, hinterval, h⟩ := Option.bind_eq_some_iff.mp h
  obtain ⟨startAt, hstart, h⟩ := Option.bind_eq_some_iff.mp h
  obtain ⟨expiresAt, hexpires, h⟩ := Option.bind_eq_some_iff.mp h
  obtain ⟨maxSuccessfulCharges, hcount, h⟩ := Option.bind_eq_some_iff.mp h
  obtain rfl := Option.some.inj h
  unfold MandateTerms.ofInput
  simp only [Client.toDomainAmountRule_fromDomain hrule, MachineInt.ofInt?_eq_some.mp hcap,
    MachineInt.ofInt?_eq_some.mp hperiod, MachineInt.ofInt?_eq_some.mp hinterval,
    MachineInt.ofInt?_eq_some.mp hstart, MachineInt.ofInt?_eq_some.mp hexpires,
    MachineInt.ofInt?_eq_some.mp hcount]
  rfl

/-- A promise outlives every step of the registry. -/
theorem Promised.exec {l : Ledger T} {id : BytesN} (h : Promised shown l id)
    (hb : Registry.Books host l) (step : Registry.Step T) :
    Promised shown (Registry.exec host l step) id := by
  obtain ⟨m, input, now, hm, hterms, hshown⟩ := h
  obtain ⟨m', hm', hmove⟩ := Registry.recordStep_exec hb hm step
  exact ⟨m', input, now, hm', hmove.terms_eq.trans hterms, hshown⟩

/-- The ledger makes a step, and what was sent stays. -/
theorem OnChain.step (hinj : Function.Injective host.sha256) {s : Shared T} (h : OnChain host shown s)
    (step : Registry.Step T) :
    OnChain host shown { s with ledger := Registry.exec host s.ledger step } :=
  ⟨Registry.books_exec hinj h.books step, h.sent, fun id hid => (h.created id hid).exec h.books step⟩

/-- A mandate that was created is stored. -/
theorem promised_created {l : Ledger T} {input : Registry.MandateInput} {id : BytesN}
    (hresult : (Registry.invoke host ⟨.createMandate input, [input.payer]⟩ l).1 = .ok (.mandateId id))
    (hshown : MandateTerms.ofInput input shown.terms.assetDecimals = shown.terms) :
    Promised shown (Registry.exec host l (.call ⟨.createMandate input, [input.payer]⟩)) id := by
  obtain ⟨l', hinvoke, heffect⟩ := Registry.exists_effect hresult
  have hexec : Registry.exec host l (.call ⟨.createMandate input, [input.payer]⟩) = l' :=
    congrArg Prod.snd hinvoke
  rw [hexec]
  cases heffect with
  | created _ _ _ _ =>
      refine ⟨_, input, l.timestamp, ?_, rfl, hshown⟩
      rw [Registry.getMandate_createdLedger, if_pos rfl]

/-- The mandates are those of before, but for the one of the transaction that has changed. -/
theorem mem_mandates_set {s : Shared T} {l : Ledger T} {i : ℕ} {submission : Submission} {id : BytesN}
    (h : id ∈ Shared.mandates ⟨s.state, l, s.submissions.set i submission⟩) :
    id ∈ s.mandates ∨ submission.mandate? = some id := by
  unfold Shared.mandates at h ⊢
  obtain ⟨submission', hmem, hid⟩ := List.mem_filterMap.mp h
  rcases List.mem_or_eq_of_mem_set hmem with hold | rfl
  · exact .inl (List.mem_filterMap.mpr ⟨submission', hold, hid⟩)
  · exact .inr hid

theorem OnChain.land (hinj : Function.Injective host.sha256) {s : Shared T} (h : OnChain host shown s)
    (submission : ℕ) : OnChain host shown (s.land host approveToken submission) := by
  rcases land_cases host approveToken s submission with
    hsame | ⟨transaction, hpending, hlanded⟩
  · rwa [hsame]
  · rw [hlanded]
    have hmem : (⟨transaction, .pending⟩ : Submission) ∈ s.submissions := List.mem_of_getElem? hpending
    have hledger : OnChain host shown
        { s with ledger := (transaction.apply host approveToken s.ledger).2 } := by
      rcases apply_step host approveToken transaction s.ledger with
        hkept | ⟨step, hstep⟩
      · rw [hkept]
        exact h
      · rw [hstep]
        exact h.step hinj step
    refine ⟨hledger.books, ?_, ?_⟩
    · intro submission' hsubmission input hinput
      rcases List.mem_or_eq_of_mem_set hsubmission with hold | rfl
      · exact h.sent submission' hold input hinput
      · exact h.sent _ hmem input hinput
    · intro id hid
      rcases mem_mandates_set hid with hold | hnew
      · exact hledger.created id hold
      · -- the transaction has created it just now
        unfold Submission.mandate? at hnew
        split at hnew
        · rename_i input id' heq
          obtain rfl := Option.some.inj hnew
          obtain ⟨rfl, hresult⟩ := Submission.mk.inj heq
          exact promised_created (Fate.landed.inj hresult) (h.sent _ hmem input rfl)
        · cases hnew

theorem OnChain.drop {s : Shared T} (h : OnChain host shown s) (submission : ℕ) :
    OnChain host shown (s.drop submission) := by
  rcases drop_cases s submission with hsame | ⟨transaction, hpending, hdropped⟩
  · rwa [hsame]
  · rw [hdropped]
    have hmem : (⟨transaction, .pending⟩ : Submission) ∈ s.submissions := List.mem_of_getElem? hpending
    refine ⟨h.books, ?_, ?_⟩
    · intro submission' hsubmission input hinput
      rcases List.mem_or_eq_of_mem_set hsubmission with hold | rfl
      · exact h.sent submission' hold input hinput
      · exact h.sent _ hmem input hinput
    · intro id hid
      rcases mem_mandates_set hid with hold | hnew
      · exact h.created id hold
      · cases transaction <;> cases hnew

/-- A handler only adds transactions that are on their way, for mandates with the terms shown. -/
theorem OnChain.perform {s : Shared T} (h : OnChain host shown s) {turn : Turn} {p p' : Phase}
    {e : Effect} {answer : Answer e} (hmove : Move session shown p e answer p') :
    OnChain host shown (perform host turn e s).2 := by
  by_cases hsend : ∃ request, e = .send request
  · obtain ⟨request, rfl⟩ := hsend
    rcases perform_send host turn request s with hsame | ⟨transaction, hencode, hsent⟩
    · rwa [hsame]
    · rw [hsent]
      refine ⟨h.books, ?_, ?_⟩
      · intro submission hsubmission input hinput
        rcases List.mem_append.mp hsubmission with hold | hnew
        · exact h.sent submission hold input hinput
        · obtain rfl := List.mem_singleton.mp hnew
          obtain rfl : transaction = .createMandate input := hinput
          cases hmove with
          | send address nonce answer =>
              obtain ⟨input', hinput', heq⟩ := Option.map_eq_some_iff.mp hencode
              obtain rfl := Transaction.createMandate.inj heq
              exact ofInput_encoded hinput'
          | approve args answer => cases encode_approve hencode
      · intro id hid
        refine h.created id ?_
        have hnone : [(⟨transaction, .pending⟩ : Submission)].filterMap Submission.mandate? = [] := by
          cases transaction <;> rfl
        unfold Shared.mandates Shared.send at hid
        rwa [List.filterMap_append, hnone, List.append_nil] at hid
  · by_cases hdispatch : ∃ action, e = .dispatch action
    · obtain ⟨action, rfl⟩ := hdispatch
      exact ⟨h.books, h.sent, h.created⟩
    · rw [perform_of_not_send (fun request he => hsend ⟨request, he⟩)
        (fun action he => hdispatch ⟨action, he⟩)]
      exact h

/-! ## Runs -/

variable (host session shown) in
/-- The handlers are where the page and the network say. -/
abbrev Consistent (s : System T) : Prop :=
  Workers.Tracked (Move session shown) (fun shared phases => Single shared phases ∧ OnChain host shown shared) s

theorem consistent_opened {l : Ledger T} (hb : Registry.Books host l) :
    Consistent host session shown (opened l) := by
  have hsingle : Single (opened l).shared [] := by
    refine ⟨?_, ?_, fun _ => rfl, ?_, Nat.zero_le _, fun h => absurd (.inl rfl) h⟩
    · intro i j p q hp
      cases hp
    · intro i p hp
      cases hp
    · intro i hp
      cases hp
  refine ⟨[], ⟨rfl, ?_⟩, hsingle, hb, ?_, ?_⟩
  · intro i p w hp
    cases hp
  · intro submission hmem
    cases hmem
  · intro id hmem
    cases hmem

/-- A button that is enabled starts its handler. -/
theorem consistent_press {s : System T} {button : Button} (hvain : InVain s (.press button))
    (h : Consistent host session shown s) (hoffers : s.shared.state.offers button = true) :
    Consistent host session shown
      ((s.outside fun shared => { shared with state :=
          (settle (handler session shown host.currentContractAddress s.shared.state button)
            s.shared.state).2 }).start
        (settle (handler session shown host.currentContractAddress s.shared.state button)
          s.shared.state).1) := by
  obtain ⟨p, hpressed, hfollows⟩ := settle_handler session shown host.currentContractAddress
    s.shared.state button
  generalize settle (handler session shown host.currentContractAddress s.shared.state button)
    s.shared.state = settled at hpressed hfollows
  have hbefore : Workers.Tracked (Move session shown) (fun shared phases =>
      Single s.shared phases ∧ OnChain host shown s.shared ∧
        shared = { s.shared with state := settled.2 })
      (s.outside fun shared => { shared with state := settled.2 }) :=
    h.of_running_eq rfl fun phases hinv => ⟨hinv.1, hinv.2, rfl⟩
  refine hbefore.start_to hfollows ?_
  rintro phases ⟨hsingle, hchain, hshared⟩
  have hnone : button = .tryAuthorizingAgain → s.shared.attempts = 0 := by
    rintro rfl
    exact List.countP_eq_zero.mpr fun submission hmem => by simp [hvain rfl submission hmem]
  show Single (s.outside _).shared _ ∧ OnChain host shown (s.outside _).shared
  rw [hshared]
  exact ⟨hsingle.press hoffers hpressed hnone, hchain.books, hchain.sent, hchain.created⟩

variable (approveToken) in
theorem consistent_exec (hinj : Function.Injective host.sha256) {s : System T} {a : Action T}
    (hvain : InVain s a) (h : Consistent host session shown s) :
    Consistent host session shown (exec host approveToken session shown s a) := by
  cases a with
  | press button =>
      show Consistent host session shown (if _ then _ else _)
      by_cases hoffers : s.shared.state.offers button = true
      · rw [if_pos hoffers]
        exact consistent_press hvain h hoffers
      · rw [if_neg hoffers]
        exact h
  | work worker turn =>
      exact h.work fun phases p e k p' hinv hp hw hmove =>
        ⟨single_perform hinv.1 hp hmove, hinv.2.perform hmove⟩
  | land submission =>
      exact h.outside fun phases _ hinv => ⟨hinv.1.land submission, hinv.2.land hinj submission⟩
  | drop submission =>
      exact h.outside fun phases _ hinv => ⟨hinv.1.drop submission, hinv.2.drop submission⟩
  | step step =>
      exact h.outside fun phases _ hinv =>
        ⟨hinv.1.chain rfl (Nat.le_refl _), hinv.2.step hinj step⟩

/-- Each mandate is one that a transaction has created. -/
theorem length_mandates_le (s : Shared T) : s.mandates.length ≤ s.attempts := by
  unfold Shared.mandates Shared.attempts
  rw [List.length_filterMap_eq_countP]
  refine List.countP_mono_left fun submission _ hsome => ?_
  obtain ⟨id, hid⟩ := Option.isSome_iff_exists.mp hsome
  unfold Submission.mandate? at hid
  split at hid
  · rfl
  · cases hid

/-- A mandate with the terms shown collects no more than the exposure shown. -/
theorem Promised.collected_le {l : Ledger T} {id : BytesN} (h : Promised shown l id)
    (hb : Registry.Books host l) (hexposure : computeMaxExposure shown.terms = .ok shown.maxExposure) :
    ((l.storage.getMandate id).map fun m => m.totalCollected.val).getD 0 ≤ shown.maxExposure := by
  obtain ⟨m, input, now, hm, hterms, hshown⟩ := h
  obtain ⟨exposure, hcomputed, hle⟩ := exposure_of_books (hb.mandate hm) shown.terms.assetDecimals
  rw [← MandateTerms.ofInput_eq_ofTerms hterms] at hcomputed
  rw [hshown, hexposure] at hcomputed
  obtain rfl := Except.ok.inj hcomputed
  rw [hm]
  exact hle

/-- What a render computes. -/
theorem render_ok {now : ℤ} (h : render session now = .ok shown) :
    computeMaxExposure shown.terms = .ok shown.maxExposure ∧ 0 ≤ shown.maxExposure := by
  obtain ⟨terms, -, h⟩ := Tx.bind_ok.mp h
  obtain ⟨maxExposure, hexposure, h⟩ := Tx.bind_ok.mp h
  obtain ⟨allowance, hallowance, h⟩ := Tx.bind_ok.mp h
  obtain rfl := Except.ok.inj h
  obtain ⟨u, hnonneg, -⟩ := Tx.bind_ok.mp hallowance
  exact ⟨hexposure, not_lt.mp (Tx.rejectIf_ok.mp hnonneg)⟩

/-- **One checkout, one mandate.** While "Try authorizing again" is pressed only in vain, however the
transactions of a checkout fail, land or come late, and whatever is pressed, at most one mandate is created
for the session, and no more is collected of it than the exposure the page has shown. -/
theorem one_mandate (hinj : Function.Injective host.sha256) (t₀ : U64) (tok₀ : T)
    (before : List (Registry.Step T)) {nowUnixSeconds : ℤ}
    (hrender : render session nowUnixSeconds = .ok shown) (actions : List (Action T))
    (hvain : ∀ q ∈ Runs.trace (exec host approveToken session shown)
      (opened (Registry.run host (Registry.genesis t₀ tok₀) before)) actions, InVain q.1 q.2) :
    ((run host approveToken session shown
      (opened (Registry.run host (Registry.genesis t₀ tok₀) before)) actions).shared.mandates.length ≤ 1) ∧
    (run host approveToken session shown
      (opened (Registry.run host (Registry.genesis t₀ tok₀) before)) actions).shared.collected
        ≤ shown.maxExposure := by
  obtain ⟨hexposure, hnonneg⟩ := render_ok hrender
  have hb := Registry.books_run hinj t₀ tok₀ before
  obtain ⟨phases, -, hsingle, hchain⟩ := Runs.run_invariant_along (P := Consistent host session shown)
    (C := InVain) (fun s a hC h => consistent_exec approveToken hinj hC h)
    (consistent_opened hb) hvain
  generalize hs : Runs.run (exec host approveToken session shown)
    (opened (Registry.run host (Registry.genesis t₀ tok₀) before)) actions = s at hsingle hchain
  have hone : s.shared.mandates.length ≤ 1 := (length_mandates_le s.shared).trans hsingle.once
  rw [run, hs]
  refine ⟨hone, ?_⟩
  unfold Shared.collected
  cases hmandates : s.shared.mandates with
  | nil => exact hnonneg
  | cons id rest =>
      have hrest : rest = [] := by
        rw [hmandates, List.length_cons] at hone
        exact List.eq_nil_of_length_eq_zero (by omega)
      have hid : id ∈ s.shared.mandates := hmandates ▸ List.mem_cons_self
      rw [hrest, List.map_cons, List.map_nil, List.sum_singleton]
      exact (hchain.created id hid).collected_le hchain.books hexposure

end

/-! ## A retry that creates a second mandate -/

/-- One charge of `5`, within a thousand seconds. -/
def mockSession : PublicCheckoutSession where
  merchantWalletAddress := ⟨2⟩
  product := {
    name := "Pro Plan"
    description := none
    assetAddress := ⟨3⟩
    assetDecimals := 0
    amountType := .fixed
    fixedAmount := some "5"
    maxPerCharge := none
    maxPerPeriod := "5"
    periodSeconds := 100
    minIntervalSeconds := 0
    maxSuccessfulCharges := 1
    defaultDurationSeconds := 1000 }
  metadataHash := ⟨0⟩

def mockShown : Shown where
  terms := {
    assetAddress := ⟨3⟩
    assetDecimals := 0
    amountRule := .fixed 5
    maxPerPeriod := 5
    periodSeconds := 100
    minIntervalSeconds := 0
    maxSuccessfulCharges := 1
    startAt := 0
    expiresAt := 1000 }
  maxExposure := 5
  allowance := ⟨5, 1, 6⟩

/-- `approve` of the mock token, which has no ledgers. -/
def mockApprove : Approve Registry.MockToken := fun t asset owner spender amount _ =>
  some { t with allowances := t.allowances.insert (asset, owner, spender) amount }

/-- The wallet is that of account `1`. -/
def mockTurn (verdict : Verdict) (nonce : BytesN) : Turn :=
  ⟨verdict, ⟨"We could not reach the Stellar network. Check your connection and try again.",
    "NETWORK_ERROR", true⟩, ⟨1⟩, nonce, 0, 0⟩

/-- A wallet is connected, and `create_mandate` is sent and lands; the answer is lost. -/
def mockLost : List (Action Registry.MockToken) :=
  [.press .connect, .work 0 (mockTurn .served ⟨0⟩), .work 0 (mockTurn .served ⟨0⟩),
    .press .authorize, .work 1 (mockTurn .served ⟨7⟩), .work 1 (mockTurn .served ⟨0⟩), .land 0,
    .work 1 (mockTurn .failed ⟨0⟩), .work 1 (mockTurn .served ⟨0⟩)]

/-- The same, but the wallet refuses to sign. -/
def mockRefused : List (Action Registry.MockToken) :=
  [.press .connect, .work 0 (mockTurn .served ⟨0⟩), .work 0 (mockTurn .served ⟨0⟩),
    .press .authorize, .work 1 (mockTurn .served ⟨7⟩), .work 1 (mockTurn .failed ⟨0⟩),
    .work 1 (mockTurn .served ⟨0⟩)]

/-- The payer does what the page offers. -/
def mockRetry (submission : ℕ) : List (Action Registry.MockToken) :=
  [.press .tryAuthorizingAgain, .work 2 (mockTurn .served ⟨8⟩), .work 2 (mockTurn .served ⟨0⟩),
    .land submission]

/-- The mandate of the attempt that drew this nonce. -/
def mockMandateId (nonce : BytesN) : BytesN :=
  Registry.mockHost.deriveMandateId ⟨1⟩ ⟨2⟩ ⟨3⟩ nonce

/-- The merchant charges this mandate. -/
def mockCollect (nonce chargeId : BytesN) : Action Registry.MockToken :=
  .step (.call ⟨.charge (mockMandateId nonce) chargeId ((MachineInt.ofInt? 5).getD 0) ⟨0⟩, [⟨2⟩]⟩)

/-- **Two mandates for one session**, and twice the exposure that was shown is collected. -/
theorem second_mandate :
    render mockSession 0 = .ok mockShown ∧
    (run Registry.mockHost mockApprove mockSession mockShown (opened Registry.mockStart)
      (mockLost ++ mockRetry 1)).shared.mandates = [mockMandateId ⟨7⟩, mockMandateId ⟨8⟩] ∧
    mockShown.maxExposure = 5 ∧
    (run Registry.mockHost mockApprove mockSession mockShown (opened Registry.mockStart)
      (mockLost ++ mockRetry 1 ++ [mockCollect ⟨7⟩ ⟨1⟩, mockCollect ⟨8⟩ ⟨2⟩])).shared.collected = 10 := by
  refine ⟨rfl, ?_, rfl, ?_⟩
  · decide
  · decide

/-- A retry after a refusal creates the first mandate. -/
theorem one_mandate_refused :
    (run Registry.mockHost mockApprove mockSession mockShown (opened Registry.mockStart)
      (mockRefused ++ mockRetry 0)).shared.mandates.length ≤ 1 ∧
    (run Registry.mockHost mockApprove mockSession mockShown (opened Registry.mockStart)
      (mockRefused ++ mockRetry 0)).shared.collected ≤ mockShown.maxExposure :=
  one_mandate Registry.encodeDigest_injective 0 Registry.mockFunds []
    (rfl : render mockSession 0 = .ok mockShown) (mockRefused ++ mockRetry 0) (by decide)

end Paymap.Web.CheckoutFlow
