import Paymap.Web.CheckoutFlow

set_option autoImplicit false

/-! # A checkout, move by move

What the handlers of the checkout page ask for, and in which order. Nothing that goes wrong after the
mandate was created leads back to before it: the approval and the report to the API catch what they
throw. So a handler that has not sent anything yet is the only one that may create a mandate.
-/

namespace Paymap.Web.CheckoutFlow

open Registry (Address BytesN)

/-! ## A handler, move by move -/

inductive Phase where
  | connecting
  /-- Nothing was sent yet. -/
  | creating
  /-- The transaction was handed over, whatever has come of it. -/
  | sent
  /-- The mandate was created, as far as the handler knows. -/
  | funding
  | done
deriving DecidableEq

section

variable (session : PublicCheckoutSession) (shown : Shown)

inductive Move : Phase → (e : Effect) → Answer e → Phase → Prop where
  | connect (answer : Except DisplayError Address) : Move .connecting .connect answer .connecting
  | connected (address : Address) :
      Move .connecting (.dispatch (.connectSuccess address)) () .done
  | notConnected (error : DisplayError) :
      Move .connecting (.dispatch (.connectError error)) () .done
  | randomHexId32 (nonce : BytesN) : Move .creating .randomHexId32 nonce .creating
  | send (address : Address) (nonce : BytesN) (answer : Except DisplayError ℕ) :
      Move .creating (.send (.createMandate (mandateInput session shown address nonce))) answer .sent
  | awaitMandate (submission : ℕ) (answer : Except DisplayError BytesN) :
      Move .sent (.awaitMandate submission) answer .sent
  | created (mandateId : BytesN) :
      Move .sent (.dispatch (.createMandateSuccess mandateId)) () .funding
  | notCreated (error : DisplayError) :
      Move .sent (.dispatch (.createMandateError error)) () .done
  | approveStart : Move .funding (.dispatch .approveStart) () .funding
  | queryAllowance (tokenContractId owner spender : Address) (answer : Except DisplayError ℤ) :
      Move .funding (.queryAllowance tokenContractId owner spender) answer .funding
  | latestLedger (answer : Except DisplayError (ℤ × ℤ)) :
      Move .funding .latestLedger answer .funding
  | approve (args : ApproveArgs) (answer : Except DisplayError ℕ) :
      Move .funding (.send (.approve args)) answer .funding
  | awaitApproval (submission : ℕ) (answer : Except DisplayError Unit) :
      Move .funding (.awaitApproval submission) answer .funding
  | approved : Move .funding (.dispatch .approveSuccess) () .funding
  | notApproved (error : DisplayError) : Move .funding (.dispatch (.approveError error)) () .done
  | linkStart : Move .funding (.dispatch .linkStart) () .funding
  | link (mandateId : BytesN) (payerAddress : Address) (answer : Except DisplayError Unit) :
      Move .funding (.linkMandateToCheckoutSession mandateId payerAddress) answer .funding
  | linked : Move .funding (.dispatch .linkSuccess) () .done
  | notLinked (error : DisplayError) : Move .funding (.dispatch (.linkError error)) () .done

variable {session shown} {address mandateContractId : Address} {mandateId : BytesN}

/-- The program ends in this phase, with or without an error. -/
def In {α : Type} (p : Phase) (_ : α) (p' : Phase) : Prop := p' = p

theorem ends_approve (tokenContractId spender : Address) (amount mandateExpiresAt : ℤ)
    (publicKey : Address) :
    (approve tokenContractId spender amount mandateExpiresAt publicKey).Ends (Move session shown)
      (In .funding) (In .funding) .funding := by
  intro answer
  refine ⟨_, .latestLedger answer, ?_⟩
  cases answer with
  | error e => exact rfl
  | ok now =>
      intro sent
      refine ⟨_, .approve _ sent, ?_⟩
      cases sent with
      | error e => exact rfl
      | ok submission =>
          intro answered
          refine ⟨_, .awaitApproval submission answered, ?_⟩
          cases answered <;> exact rfl

theorem ends_resetAllowance :
    (resetAllowance shown mandateContractId address).Ends (Move session shown)
      (In .funding) (In .funding) .funding := by
  intro current
  refine ⟨_, .queryAllowance _ _ _ current, ?_⟩
  cases current with
  | error e => exact rfl
  | ok currentAllowance =>
      show (if _ then _ else _ : Flow Unit).Ends _ _ _ _
      by_cases hpos : 0 < currentAllowance
      · rw [if_pos hpos]
        refine Prog.ends_bind.mpr ((ends_approve _ _ _ _ _).mono ?_ fun _ _ h => h)
        rintro _ _ rfl confirmed
        refine ⟨_, .queryAllowance _ _ _ confirmed, ?_⟩
        cases confirmed with
        | error e => exact rfl
        | ok confirmedZero =>
            show (if _ then _ else _ : Flow Unit).Ends _ _ _ _
            split_ifs <;> exact rfl
      · rw [if_neg hpos]
        exact rfl

theorem ends_runLink :
    (runLink address mandateId).Ends (Move session shown) (In .done) (fun _ _ => False) .funding := by
  intro _
  refine ⟨_, .linkStart, fun answer => ⟨_, .link _ _ answer, ?_⟩⟩
  cases answer with
  | ok u => exact fun _ => ⟨_, .linked, rfl⟩
  | error e => exact fun _ => ⟨_, .notLinked e, rfl⟩

theorem ends_approveAndLink :
    (approveAndLink shown mandateContractId address mandateId).Ends (Move session shown)
      (In .done) (In .funding) .funding := by
  refine Prog.ends_bind.mpr (ends_resetAllowance.mono ?_ fun _ _ h => h)
  rintro _ _ rfl
  refine Prog.ends_bind.mpr ((ends_approve _ _ _ _ _).mono ?_ fun _ _ h => h)
  rintro _ _ rfl _
  exact ⟨_, .approved, ends_runLink.mono (fun _ _ h => h) fun _ _ h => h.elim⟩

/-- Nothing that goes wrong with the approval or with the report to the API gets out. -/
theorem ends_runApprove :
    (runApprove shown mandateContractId address mandateId).Ends (Move session shown)
      (In .done) (fun _ _ => False) .funding := by
  intro _
  have hbody := @ends_approveAndLink session shown address mandateContractId mandateId
  refine ⟨_, .approveStart, (Prog.ends_bind
    (x := (approveAndLink shown mandateContractId address mandateId).attempt)).mpr
    (Prog.ends_attempt.mpr (hbody.mono (fun _ _ h => h) ?_))⟩
  rintro error _ rfl _
  exact ⟨_, .notApproved error, rfl⟩

/-- A mandate that is not created is one whose transaction was handed over. -/
theorem ends_createAndApprove :
    (createAndApprove session shown mandateContractId address).Ends (Move session shown)
      (In .done) (In .sent) .creating := by
  intro nonce
  refine ⟨_, .randomHexId32 nonce, fun sent => ⟨_, .send address nonce sent, ?_⟩⟩
  cases sent with
  | error e => exact rfl
  | ok submission =>
      intro answered
      refine ⟨_, .awaitMandate submission answered, ?_⟩
      cases answered with
      | error e => exact rfl
      | ok id => exact fun _ => ⟨_, .created id, ends_runApprove.mono (fun _ _ h => h) fun _ _ h => h.elim⟩

/-! ## Pressing a button -/

/-- Where a button takes the page, and the handler that it starts. -/
inductive Pressed (state : CheckoutState) : Button → CheckoutState → Phase → Prop where
  | connect (button : Button) (which : button = .connect ∨ button = .retryConnect) :
      Pressed state button (checkoutReducer state .connectStart) .connecting
  | create (button : Button) (which : button = .authorize ∨ button = .tryAuthorizingAgain) :
      Pressed state button (checkoutReducer state .createMandateStart) .creating
  | approve : Pressed state .completeApproval (checkoutReducer state .approveStart) .funding
  | link : Pressed state .retryLink (checkoutReducer state .linkStart) .funding
  | nothing (button : Button) : Pressed state button state .done

variable (session shown mandateContractId) in
theorem settle_handler (state : CheckoutState) (button : Button) :
    ∃ p, Pressed state button (settle (handler session shown mandateContractId state button) state).2 p ∧
      (settle (handler session shown mandateContractId state button) state).1.Follows
        (Move session shown) (fun _ _ => True) p := by
  have hconnect : (settle handleConnect state).1.Follows (Move session shown) (fun _ _ => True)
      .connecting := by
    intro answer
    refine ⟨_, .connect answer, ?_⟩
    cases answer with
    | ok address => exact fun _ => ⟨_, .connected address, trivial⟩
    | error e => exact fun _ => ⟨_, .notConnected e, trivial⟩
  have hcreate : ∀ address, (settle (handleCreateMandate session shown mandateContractId address)
      state).1.Follows (Move session shown) (fun _ _ => True) .creating := by
    intro address
    have hrest := (@ends_createAndApprove session shown address mandateContractId)
    refine (Prog.follows_bind (x := (createAndApprove session shown mandateContractId address).attempt)).mpr
      (Prog.follows_attempt.mpr (hrest.mono (fun _ _ _ => trivial) ?_))
    rintro error _ rfl _
    exact ⟨_, .notCreated error, trivial⟩
  have hfund : ∀ address mandateId, (settle (runApprove shown mandateContractId address mandateId)
      state).1.Follows (Move session shown) (fun _ _ => True) .funding := by
    intro address mandateId
    have hrest := (@ends_approveAndLink session shown address mandateContractId mandateId)
    refine (Prog.follows_bind (x := (approveAndLink shown mandateContractId address mandateId).attempt)).mpr
      (Prog.follows_attempt.mpr (hrest.mono (fun _ _ _ => trivial) ?_))
    rintro error _ rfl _
    exact ⟨_, .notApproved error, trivial⟩
  have hlink : ∀ address mandateId, (settle (runLink address mandateId) state).1.Follows
      (Move session shown) (fun _ _ => True) .funding := by
    intro address mandateId answer
    refine ⟨_, .link _ _ answer, ?_⟩
    cases answer with
    | ok u => exact fun _ => ⟨_, .linked, trivial⟩
    | error e => exact fun _ => ⟨_, .notLinked e, trivial⟩
  have hdone : (settle (Pure.pure () : Flow Unit) state).1.Follows (Move session shown)
      (fun _ _ => True) .done := trivial
  cases button with
  | connect => exact ⟨_, .connect _ (.inl rfl), hconnect⟩
  | retryConnect => exact ⟨_, .connect _ (.inr rfl), hconnect⟩
  | authorize =>
      unfold handler
      cases state.address with
      | none => exact ⟨_, .nothing _, hdone⟩
      | some address => exact ⟨_, .create _ (.inl rfl), hcreate address⟩
  | tryAuthorizingAgain =>
      unfold handler
      cases state.address with
      | none => exact ⟨_, .nothing _, hdone⟩
      | some address => exact ⟨_, .create _ (.inr rfl), hcreate address⟩
  | completeApproval =>
      unfold handler
      cases state.address with
      | none => exact ⟨_, .nothing _, hdone⟩
      | some address =>
          cases state.mandateId with
          | none => exact ⟨_, .nothing _, hdone⟩
          | some mandateId => exact ⟨_, .approve, hfund address mandateId⟩
  | retryLink =>
      unfold handler
      cases state.address with
      | none => exact ⟨_, .nothing _, hdone⟩
      | some address =>
          cases state.mandateId with
          | none => exact ⟨_, .nothing _, hdone⟩
          | some mandateId => exact ⟨_, .link, hlink address mandateId⟩

end

end Paymap.Web.CheckoutFlow
