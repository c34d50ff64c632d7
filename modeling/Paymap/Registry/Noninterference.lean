import Paymap.Registry.Isolation

set_option autoImplicit false

/-! # Noninterference between mandates

Two runs of the registry that make the same calls on a mandate, at the same times, by the same
signers, and show its parties the same balances and allowances before each of them. In between,
either run may do whatever it likes on other mandates. What the mandate's calls answer, and what is
stored for it after each of them, is then the same, with one thing to except: refund ids are one
namespace for the whole contract.

A refund whose id has been used up elsewhere is refused, and from then on less has been refunded in
one run than in the other. So refunds agree up to the first that is refused in this way, and it is
the first call that answers differently; everything else agrees throughout.
-/

namespace Paymap.Registry

section

variable {T V : Type} {host : Host T} {sees : T → Address → Address → Address → V} {id : BytesN}

/-! ## The calls on a mandate -/

/-- What there is to see of a step for someone who follows mandate `id`. -/
def entryOn (host : Host T) (id : BytesN) (l : Ledger T) : Step T → List (Entry T)
  | .call c =>
      if c.op.mandateId host = id then [⟨l, c, (invoke host c l).1, (invoke host c l).2⟩] else []
  | _ => []

/-- The calls of a run on mandate `id`, in order. -/
def callsOn (host : Host T) (id : BytesN) (l : Ledger T) (steps : List (Step T)) : List (Entry T) :=
  Runs.notes (exec host) (entryOn host id) l steps

/-- The same call at the same time, with the parties of the mandate holding the same. -/
structure SameCall (sees : T → Address → Address → Address → V) (id : BytesN) (e e' : Entry T) :
    Prop where
  call : e'.call = e.call
  timestamp : e'.before.timestamp = e.before.timestamp
  tokens : ∀ m ∈ e.before.storage.getMandate id,
    sees e.before.token m.asset m.payer m.merchant = sees e'.before.token m.asset m.payer m.merchant

/-- The call is a refund that is refused because another mandate has used up its refund id. -/
def Entry.Displaced (id : BytesN) (e : Entry T) : Prop :=
  e.call.op.Taken id e.before.storage ∧ e.outcome = .error (.err .duplicateRefund)

/-- What two runs of calls on a mandate have in common. -/
structure Agreement (id : BytesN) (calls calls' : List (Entry T)) : Prop where
  /-- Creation, status changes and charges answer the same, and after every call the record, the
  payment receipts and the replay guards of charges are the same. -/
  each : List.Forall₂ (fun e e' => (e.call.op.isRefund = false → e.outcome = e'.outcome) ∧
    SameMandate id e.after.storage e'.after.storage) calls calls'
  /-- The first call that answers differently is a displaced refund. Up to it refunds and refunded
  totals agree. -/
  refunds : ∀ (k : ℕ) (e e' : Entry T), calls[k]? = some e → calls'[k]? = some e' →
    (calls.take k).map Entry.outcome = (calls'.take k).map Entry.outcome →
    (e.outcome = e'.outcome ∨ e.Displaced id ∨ e'.Displaced id) ∧
    (e.outcome = e'.outcome → SameRefunds id e.after.storage e'.after.storage)

/-! ## Two runs side by side -/

theorem sameOf_silent {l : Ledger T} (hb : FullBooks host l) {step : Step T}
    (hsilent : entryOn host id l step = []) :
    SameOf id l.storage (exec host l step).storage := by
  cases step with
  | close t => exact .refl _
  | token t => exact .refl _
  | call c =>
      refine sameOf_call hb fun hid => ?_
      rw [entryOn, if_pos hid] at hsilent
      cases hsilent

theorem entryOn_eq_singleton {l : Ledger T} {step : Step T} {e : Entry T}
    (h : entryOn host id l step = [e]) :
    ∃ c, step = .call c ∧ c.op.mandateId host = id ∧
      e = ⟨l, c, (invoke host c l).1, (invoke host c l).2⟩ := by
  cases step with
  | close t => cases h
  | token t => cases h
  | call c =>
      rw [entryOn] at h
      split at h
      · rename_i hid
        cases h
        exact ⟨c, rfl, hid, rfl⟩
      · cases h

/-- Two runs after the calls `h` and `h'` on the mandate. -/
structure InStep (host : Host T) (id : BytesN) (l : Ledger T) (h : List (Entry T)) (l' : Ledger T)
    (h' : List (Entry T)) : Prop where
  books : FullBooks host l
  books' : FullBooks host l'
  mandate : SameMandate id l.storage l'.storage
  refunds : h.map Entry.outcome = h'.map Entry.outcome → SameRefunds id l.storage l'.storage
  agreement : Agreement id h h'

theorem Agreement.concat {h h' : List (Entry T)} {e e' : Entry T} (ha : Agreement id h h')
    (hsame : (e.call.op.isRefund = false → e.outcome = e'.outcome) ∧
      SameMandate id e.after.storage e'.after.storage)
    (hrefunds : h.map Entry.outcome = h'.map Entry.outcome →
      (e.outcome = e'.outcome ∨ e.Displaced id ∨ e'.Displaced id) ∧
      (e.outcome = e'.outcome → SameRefunds id e.after.storage e'.after.storage)) :
    Agreement id (h ++ [e]) (h' ++ [e']) := by
  have hlength := ha.each.length_eq
  refine ⟨List.rel_append ha.each (.cons hsame .nil), fun k x x' hx hx' hbefore => ?_⟩
  rcases lt_trichotomy k h.length with hlt | heq | hgt
  · rw [List.getElem?_append_left hlt] at hx
    rw [List.getElem?_append_left (hlength ▸ hlt)] at hx'
    rw [List.take_append_of_le_length hlt.le,
      List.take_append_of_le_length (hlength ▸ hlt.le)] at hbefore
    exact ha.refunds k x x' hx hx' hbefore
  · -- the new calls
    subst heq
    rw [List.getElem?_concat_length] at hx
    rw [hlength, List.getElem?_concat_length] at hx'
    rw [List.take_left, hlength, List.take_left] at hbefore
    cases hx
    cases hx'
    exact hrefunds hbefore
  · have hnone : (h ++ [e])[k]? = none := List.getElem?_eq_none (by simp; omega)
    rw [hnone] at hx
    cases hx

/-- A refund leaves the record, the receipts and the replay guards of charges alone. -/
theorem sameMandate_refund {l : Ledger T} {c : Call} (hop : c.op.isRefund = true) :
    SameMandate id l.storage (invoke host c l).2.storage := by
  have hsame : SameCharges l (invoke host c l).2 := sameCharges_refund hop
  refine ⟨hsame.getMandate_eq id, fun pid => ?_, hsame.hasUsedCharge_eq id⟩
  rw [Storage.paymentOf, Storage.paymentOf, hsame.getPayment_eq]

theorem inStep_both (hinj : Function.Injective host.sha256)
    (hsees : host.token.DependsOn host.currentContractAddress sees) {l l' : Ledger T}
    {h h' : List (Entry T)} (hs : InStep host id l h l' h') {c : Call}
    (hid : c.op.mandateId host = id) {e e' : Entry T}
    (he : e = ⟨l, c, (invoke host c l).1, (invoke host c l).2⟩)
    (he' : e' = ⟨l', c, (invoke host c l').1, (invoke host c l').2⟩)
    (hcall : SameCall sees id e e') :
    InStep host id (exec host l (.call c)) (h ++ [e]) (exec host l' (.call c)) (h' ++ [e']) := by
  subst he he'
  have halike : Alike sees id l l' := ⟨hcall.timestamp, hs.mandate, hcall.tokens⟩
  -- all outcomes agree when the earlier ones and the new one do
  have hmap : ∀ x x' : Entry T, (h ++ [x]).map Entry.outcome = (h' ++ [x']).map Entry.outcome →
      h.map Entry.outcome = h'.map Entry.outcome ∧ x.outcome = x'.outcome := by
    intro x x' heq
    rw [List.map_append, List.map_append] at heq
    obtain ⟨hinit, hlast⟩ := List.append_inj' heq rfl
    exact ⟨hinit, by simpa using hlast⟩
  cases hop : c.op.isRefund with
  | false =>
      obtain ⟨hout, hmandate, hrefunds⟩ := call_alike hsees hs.books hs.books' halike hid hop
      exact
        { books := fullBooks_exec hinj l (.call c) hs.books
          books' := fullBooks_exec hinj l' (.call c) hs.books'
          mandate := hmandate
          refunds := fun heq => hrefunds (hs.refunds (hmap _ _ heq).1)
          agreement := hs.agreement.concat ⟨fun _ => hout, hmandate⟩
            fun heq => ⟨.inl hout, fun _ => hrefunds (hs.refunds heq)⟩ }
  | true =>
      -- whatever a refund answers, it does not touch what charges have recorded
      have hmandate : SameMandate id (invoke host c l).2.storage (invoke host c l').2.storage :=
        (sameMandate_refund hop).symm.trans (hs.mandate.trans (sameMandate_refund hop))
      have hrefund := fun heq => refund_alike hsees hs.books hs.books' halike (hs.refunds heq) hid hop
      exact
        { books := fullBooks_exec hinj l (.call c) hs.books
          books' := fullBooks_exec hinj l' (.call c) hs.books'
          mandate := hmandate
          refunds := fun heq => (hrefund (hmap _ _ heq).1).2 (hmap _ _ heq).2
          agreement := hs.agreement.concat
            ⟨fun hno => absurd (hop.symm.trans hno) (by decide), hmandate⟩ hrefund }

/-- **Noninterference.** -/
theorem noninterference (hinj : Function.Injective host.sha256)
    (hsees : host.token.DependsOn host.currentContractAddress sees) (id : BytesN) (t₀ t₀' : U64)
    (tok₀ tok₀' : T) (steps steps' : List (Step T))
    (hsame : List.Forall₂ (SameCall sees id) (callsOn host id (genesis t₀ tok₀) steps)
      (callsOn host id (genesis t₀' tok₀') steps')) :
    Agreement id (callsOn host id (genesis t₀ tok₀) steps)
      (callsOn host id (genesis t₀' tok₀') steps') := by
  -- a step is a call on the mandate, or silent for whoever follows it
  have hone : ∀ (l : Ledger T) (step : Step T),
      entryOn host id l step = [] ∨ ∃ e, entryOn host id l step = [e] := by
    intro l step
    cases step with
    | close t => exact .inl rfl
    | token t => exact .inl rfl
    | call c =>
        rw [entryOn]
        split
        · exact .inr ⟨_, rfl⟩
        · exact .inl rfl
  have hstart : InStep host id (genesis t₀ tok₀) [] (genesis t₀' tok₀') [] :=
    { books := fullBooks_genesis host t₀ tok₀
      books' := fullBooks_genesis host t₀' tok₀'
      mandate := .refl Storage.empty
      refunds := fun _ => .refl Storage.empty
      agreement := ⟨.nil, fun k e e' he => by simp at he⟩ }
  have hend := Runs.run_side_by_side (R := InStep host id) hone hone ?_ ?_ ?_ hstart steps steps'
    hsame
  · exact hend.agreement
  -- a silent step of either run
  · intro l h l' h' step hsilent hs
    have hsame := sameOf_silent hs.books hsilent
    exact
      { books := fullBooks_exec hinj l step hs.books
        books' := hs.books'
        mandate := hsame.1.symm.trans hs.mandate
        refunds := fun heq => (hsame.symm.trans ⟨hs.mandate, hs.refunds heq⟩).2
        agreement := hs.agreement }
  · intro l h l' h' step hsilent hs
    have hsame := sameOf_silent hs.books' hsilent
    exact
      { books := hs.books
        books' := fullBooks_exec hinj l' step hs.books'
        mandate := hs.mandate.trans hsame.1
        refunds := fun heq => (SameOf.trans ⟨hs.mandate, hs.refunds heq⟩ hsame).2
        agreement := hs.agreement }
  -- the same call in both
  · intro l h l' h' step step' e e' he he' hcall hs
    obtain ⟨c, rfl, hid, he⟩ := entryOn_eq_singleton he
    obtain ⟨c', rfl, hid', he'⟩ := entryOn_eq_singleton he'
    have hc : c' = c := by
      have := hcall.call
      rwa [he, he'] at this
    subst hc
    exact inStep_both hinj hsees hs hid he he' hcall

end

/-! ## A refund id that is used elsewhere -/

/-- A second mandate between the same parties. -/
def otherInput : MandateInput := { mockInput with clientNonce := ⟨8⟩ }

def otherId : BytesN := mockHost.inputId otherInput

/-- After `3` of the payment of `5`, a second refund of `4`. -/
def secondRefund : Call :=
  ⟨.refund mockId (mockHost.derivePaymentId mockId ⟨1⟩) (.lit 4 (by decide)) ⟨10⟩, [⟨2⟩]⟩

/-- The merchant has `10`. -/
def laterFunds : MockToken :=
  { mockFunds with balances := mockFunds.balances.insert (⟨3⟩, ⟨2⟩) (.lit 10 (by decide)) }

/-- The mandate on its own: the second refund would exceed the payment. -/
def aloneRun : List (Step MockToken) := mockRun ++ [.token laterFunds, .call secondRefund]

/-- The other mandate is charged and refunds it under the id that the first refund will have. The
tokens are put to what they are in `aloneRun` before each call on the mandate. -/
def besideRun : List (Step MockToken) :=
  mockRun.take 2 ++
  [.call ⟨.createMandate otherInput, [⟨1⟩]⟩,
    .call ⟨.charge otherId ⟨1⟩ (.lit 4 (by decide)) ⟨0⟩, [⟨2⟩]⟩,
    .call ⟨.refund otherId (mockHost.derivePaymentId otherId ⟨1⟩) (.lit 4 (by decide)) ⟨9⟩, [⟨2⟩]⟩,
    .token (run mockHost mockStart (mockRun.take 2)).token, .call mockRefund,
    .token laterFunds, .call secondRefund]

instance {T V : Type} [DecidableEq V] (sees : T → Address → Address → Address → V) (id : BytesN)
    (e e' : Entry T) : Decidable (SameCall sees id e e') :=
  decidable_of_iff (e'.call = e.call ∧ e'.before.timestamp = e.before.timestamp ∧
      ∀ m ∈ e.before.storage.getMandate id, sees e.before.token m.asset m.payer m.merchant
        = sees e'.before.token m.asset m.payer m.merchant)
    ⟨fun h => ⟨h.1, h.2.1, h.2.2⟩, fun h => ⟨h.call, h.timestamp, h.tokens⟩⟩

theorem besideRun_sameCalls :
    List.Forall₂ (SameCall (mockSees ⟨0⟩) mockId) (callsOn mockHost mockId mockStart aloneRun)
      (callsOn mockHost mockId mockStart besideRun) := by
  have hsame : (callsOn mockHost mockId mockStart aloneRun).length
        = (callsOn mockHost mockId mockStart besideRun).length ∧
      ∀ p ∈ (callsOn mockHost mockId mockStart aloneRun).zip
          (callsOn mockHost mockId mockStart besideRun),
        SameCall (mockSees ⟨0⟩) mockId p.1 p.2 := by decide
  exact List.forall₂_iff_zip.mpr ⟨hsame.1, fun h => hsame.2 _ h⟩

/-- **A refund can fail for another reason than its own id**: the other mandate takes the id of the
first refund, so the second one, which is too much on top of the first, goes through. -/
theorem refund_ids_interfere :
    List.Forall₂ (SameCall (mockSees ⟨0⟩) mockId) (callsOn mockHost mockId mockStart aloneRun)
      (callsOn mockHost mockId mockStart besideRun) ∧
    (callsOn mockHost mockId mockStart aloneRun)[3]?.map Entry.outcome
      = some (.error (.err .refundExceedsPayment)) ∧
    (callsOn mockHost mockId mockStart besideRun)[3]?.map Entry.outcome
      = some (.ok (.refund ⟨⟨10⟩, mockHost.derivePaymentId mockId ⟨1⟩, .lit 4 (by decide), 0⟩)) :=
  ⟨besideRun_sameCalls, by decide, by decide⟩

theorem noninterference_mock :
    List.Forall₂ (SameCall (mockSees ⟨0⟩) mockId) (callsOn mockHost mockId mockStart aloneRun)
      (callsOn mockHost mockId mockStart besideRun) ∧
    Agreement mockId (callsOn mockHost mockId mockStart aloneRun)
      (callsOn mockHost mockId mockStart besideRun) :=
  ⟨besideRun_sameCalls, noninterference encodeDigest_injective (mockToken_dependsOn ⟨0⟩) mockId 0 0
    mockFunds mockFunds aloneRun besideRun besideRun_sameCalls⟩

end Paymap.Registry
