import Paymap.Relayer.Payments

set_option autoImplicit false

/-! # Inclusion while it is polled for

`submit()` gives up on a transaction that is not included in time, or whose answer does not come
back, although the transaction is still on its way. `Prompt` is the network that gives it no reason
to: a transaction charges while its `submit()` is polling for it, and the polling reports it.

Then a charge is never unknown to the relayer. `Reported` says so of a state: a request that was
charged has succeeded, or is `submitted` and its one owner has been told of the charge or will be.
-/

namespace Paymap.Relayer

open Registry (BytesN Host Mandate PaymentReceipt invoke)

section

variable {T : Type}

/-! ## The condition -/

/-- The transaction a program polls for next. -/
def polling? (w : Pipeline PipelineOutcome) : Option TxHash :=
  match w with
  | .call (.pollTransaction hash) _ => some hash
  | _ => none

/-- Executed now, transaction `hash` charges. -/
def Network.wouldCharge (host : Host T) (net : Network T) (hash : TxHash)
    (authorized : List Registry.Address) : Bool :=
  match net.transactions[hash]? with
  | some ⟨args, none⟩ =>
      match args.call authorized with
      | some c => (invoke host c net.ledger).1.isOk
      | none => false
  | _ => false

/-- Transaction `hash` has charged. -/
def Network.hasCharged (net : Network T) (hash : TxHash) : Bool :=
  match net.result? hash with
  | some (.ok _, _) => true
  | _ => false

def Reply.isServed : Reply → Bool
  | .served _ => true
  | _ => false

/-- The operation charges under the ids of the request. -/
def chargesFor (op : Registry.Op) (row : ChargeRequest) : Bool :=
  match op with
  | .charge mandateId chargeId _ _ => mandateId = row.mandateId && chargeId = row.chargeId
  | _ => false

/-- A transaction charges only while its sender polls for it, the polling for one that has charged is
answered, and only the relayer charges under the ids of a request. -/
def Prompt (host : Host T) (s : System T) : Action T → Prop
  | .execute hash authorized =>
      s.shared.network.wouldCharge host hash authorized = true →
        ∃ w ∈ s.running, polling? w = some hash
  | .work i reply =>
      ∀ hash ∈ s.running[i]?.bind polling?,
        s.shared.network.hasCharged hash = true → reply.isServed = true
  | .chain (.call c) =>
      ∀ row ∈ FinMap.values s.shared.db.chargeRequests, chargesFor c.op row = true →
        (invoke host c s.shared.network.ledger).1.isOk = false
  | .completeAuthorization authorizationId _ _ =>
      ∀ authorization ∈ s.shared.db.chargeAuthorizations.lookup authorizationId,
        s.shared.network.ledger.storage.hasUsedCharge authorization.mandateId
          authorization.chargeId = false
  | _ => True

instance (host : Host T) (s : System T) (action : Action T) : Decidable (Prompt host s action) := by
  cases action with
  | chain step => cases step <;> unfold Prompt <;> infer_instance
  | _ => unfold Prompt; infer_instance

/-! ## The invariant -/

/-- A worker in this phase has charged and will be told so, or has been. -/
def Phase.Reports (net : Network T) : Phase → Prop
  | .waiting _ _ _ hash => ∃ receipt, net.Charged hash receipt
  | .answered _ _ _ result => result.isSuccess = true
  | _ => False

structure Reported (s : Shared T) (phases : List Phase) : Prop where
  charged : ∀ {id : Uuid} {row : ChargeRequest}, s.db.created id = some row →
    s.network.ledger.storage.hasUsedCharge row.mandateId row.chargeId →
    s.db.statusOf id = some .succeeded ∨
      (s.db.statusOf id = some .submitted ∧
        ∀ p ∈ phases, p.owned? = some id → p.Reports s.network)
  failed : ∀ delivery ∈ s.db.webhookDeliveries, ∀ id,
    delivery.event.failedRequest? = some id → s.db.statusOf id = some .permanentlyFailed

variable {host : Host T} {reply : Reply} {s s' : Shared T} {p p' : Phase} {e : Effect}

theorem Phase.Reports.grows {net net' : Network T} (h : p.Reports net) (hgrows : net.Grows net') :
    p.Reports net' := by
  cases p with
  | waiting id row mandate hash =>
      obtain ⟨receipt, hcharged⟩ := h
      exact ⟨receipt, hgrows.charged hcharged⟩
  | answered id row mandate result => exact h
  | _ => cases h

/-! ## Steps of workers -/

/-- A worker that has charged stays one that has, when its polling is answered. -/
theorem Worked.reports (h : Worked reply s p e s' p') {id : Uuid} (howned : p.owned? = some id)
    (howned' : p'.owned? = some id) (hreports : p.Reports s.network)
    (hprompt : ∀ hash receipt, e = .pollTransaction hash → s.network.Charged hash receipt →
      reply.isServed = true) : p'.Reports s'.network := by
  cases h with
  | idle => exact hreports
  | ended => cases howned'
  | retry => cases howned'
  | giveUp => cases howned'
  | succeed => cases howned'
  | unsent => cases hreports
  | unanswered => cases hreports
  | send => cases hreports
  | poll id row mandate hash =>
      obtain ⟨receipt, hcharged⟩ := hreports
      obtain ⟨ledger, hpoll⟩ := poll_of_charged hcharged
      show (pollResult hash (s.network.poll hash)).isSuccess = true
      rw [hpoll]
      rfl
  | pollFailed id row mandate hash hfailed =>
      obtain ⟨receipt, hcharged⟩ := hreports
      have hserved := hprompt hash receipt rfl hcharged
      cases reply with
      | served authorized => exact absurd rfl (hfailed authorized)
      | _ => cases hserved
  | setHash => exact hreports
  | _ => cases howned

/-- A worker that has charged and gives up its submission has recorded the success. -/
theorem Worked.released (h : Worked reply s p e s' p') {id : Uuid} (howned : p.owned? = some id)
    (howned' : p'.owned? = none) (hreports : p.Reports s.network) :
    s.db.SameRequests s'.db ∨ s'.db.statusOf id = some .succeeded := by
  cases h with
  | ended => exact .inl (.refl _)
  | retry p id' row source classified now nextAttemptAt db hfails _ hdb =>
      cases hfails with
      | working => cases howned
      | answered id' row mandate result hfailure => cases hfailure.symm.trans hreports
  | giveUp p id' row source classified now db hfails _ hdb =>
      cases hfails with
      | working => cases howned
      | answered id' row mandate result hfailure => cases hfailure.symm.trans hreports
  | succeed id' row mandate receipt txHash ledger now db hdb =>
      cases howned
      exact .inr (moves_recordSuccess hdb).becomes
  | idle => cases howned.symm.trans howned'
  | unsent => cases howned'
  | unanswered => cases howned'
  | send => cases howned'
  | poll => cases howned'
  | pollFailed => cases howned'
  | setHash => cases howned'
  | _ => cases howned

/-- What a step of a worker announces: no failure, but of a request that it fails for good. -/
theorem Worked.deliveries (h : Worked reply s p e s' p') :
    ∀ delivery ∈ s'.db.webhookDeliveries, delivery ∈ s.db.webhookDeliveries ∨
      ∀ id, delivery.event.failedRequest? = some id →
        s'.db.statusOf id = some .permanentlyFailed := by
  intro delivery hmem
  rcases h.records with hquiet | ⟨id, row, mandate, receipt, txHash, ledger, rest, -, -, -,
    hdeliveries, hrest⟩ | ⟨id, row, source, reason, hmoves, -, hdeliveries⟩
  · rw [hquiet.deliveries] at hmem
    exact .inl hmem
  · rw [hdeliveries] at hmem
    rcases List.mem_append.mp hmem with hmem | hmem
    · exact .inl hmem
    · refine .inr fun id' hid' => ?_
      rcases List.mem_cons.mp hmem with rfl | hmem
      · cases hid'
      · rw [hrest delivery hmem] at hid'
        cases hid'
  · rw [hdeliveries] at hmem
    rcases List.mem_append.mp hmem with hmem | hmem
    · exact .inl hmem
    · obtain rfl := List.mem_singleton.mp hmem
      refine .inr fun id' hid' => ?_
      cases hid'
      exact hmoves.becomes

/-- What the owners of a submitted request say, they say after a step too, or the request is given
up by the one that has it. -/
theorem Worked.submitted {phases : List Phase} {i : ℕ} {id : Uuid} {R R' : Phase → Prop}
    (hw : Worked reply s p e s' p') (hp : phases[i]? = some p)
    (hst : s.db.statusOf id = some .submitted)
    (howners : ∀ q ∈ phases, q.owned? = some id → R q) (hothers : ∀ q, R q → R' q)
    (hself : p.owned? = some id → p'.owned? = some id → R p → R' p') :
    (s'.db.statusOf id = some .submitted ∧
        ∀ q ∈ phases.set i p', q.owned? = some id → R' q) ∨
      (p.owned? = some id ∧ p'.owned? = none ∧ R p ∧ ¬ s.db.SameRequests s'.db) := by
  have hmem : p ∈ phases := List.mem_of_getElem? hp
  have hfree : p'.owned? ≠ some id → ∀ q ∈ phases.set i p', q.owned? = some id → R' q := by
    intro hne q hq hqowned
    rcases List.mem_or_eq_of_mem_set hq with hq | rfl
    · exact hothers q (howners q hq hqowned)
    · exact absurd hqowned hne
  have hpass := hw.passes
  generalize howned : p.owned? = owned at hpass
  generalize howned' : p'.owned? = owned' at hpass
  cases hpass with
  | keeps _ hsame =>
      refine .inl ⟨(hsame.statusOf id).trans hst, fun q hq hqowned => ?_⟩
      rcases List.mem_or_eq_of_mem_set hq with hq | rfl
      · exact hothers q (howners q hq hqowned)
      · have hpowned : p.owned? = some id := howned.trans (howned'.symm.trans hqowned)
        exact hself hpowned hqowned (howners p hmem hpowned)
  | drops _ hsame =>
      exact .inl ⟨(hsame.statusOf id).trans hst, hfree (by rw [howned']; simp)⟩
  | apart id' source target hmoves hsource _ =>
      have hne : id ≠ id' := by
        rintro rfl
        exact hsource (Option.some.inj (hmoves.was.symm.trans hst))
      exact .inl ⟨(hmoves.others id hne).trans hst, hfree (by rw [howned']; simp)⟩
  | takes id' source hmoves =>
      have hne : id ≠ id' := by
        rintro rfl
        exact hmoves.source_ne_target (Option.some.inj (hmoves.was.symm.trans hst))
      refine .inl ⟨(hmoves.others id hne).trans hst, hfree ?_⟩
      rw [howned']
      exact fun heq => hne (Option.some.inj heq).symm
  | releases id' target hmoves =>
      by_cases hne : id = id'
      · -- the owner itself gives the submission up
        subst hne
        refine .inr ⟨rfl, rfl, howners p hmem howned, fun hsame => ?_⟩
        have htarget := (hmoves.becomes.symm.trans (hsame.statusOf id)).trans hmoves.was
        exact hmoves.source_ne_target (Option.some.inj htarget).symm
      · exact .inl ⟨(hmoves.others id hne).trans hst, hfree (by rw [howned']; simp)⟩

theorem Reported.worked {phases : List Phase} {i : ℕ} (h : Reported s phases)
    (hp : phases[i]? = some p) (hw : Worked reply s p e s' p')
    (hprompt : ∀ hash receipt, e = .pollTransaction hash → s.network.Charged hash receipt →
      reply.isServed = true) : Reported s' (phases.set i p') := by
  constructor
  · intro id row hrow hused
    rw [hw.passes.created] at hrow
    rw [hw.ledger_eq] at hused
    rcases h.charged hrow hused with hst | ⟨hst, howners⟩
    · -- no transition leaves `succeeded`
      exact .inl (hw.passes.of_terminal rfl hst)
    · rcases hw.submitted hp hst howners (fun q hq => hq.grows hw.grows)
        (fun howned howned' hreports => hw.reports howned howned' hreports hprompt) with
        hkept | ⟨howned, howned', hreports, hchanged⟩
      · exact .inr hkept
      · -- the owner has charged, so what it records is the success
        rcases hw.released howned howned' hreports with hsame | hsucceeded
        · exact absurd hsame hchanged
        · exact .inl hsucceeded
  · intro delivery hmem id hid
    rcases hw.deliveries delivery hmem with hold | hnew
    · exact hw.passes.of_terminal rfl (h.failed delivery hold id hid)
    · exact hnew id hid

/-! ## Everything else -/

/-- A worker that polls for a transaction waits for it. -/
theorem waiting_of_polling {phases : List Phase} {running : List (Pipeline PipelineOutcome)}
    (hin : Workers.InPhase Move phases running) {i : ℕ} {w : Pipeline PipelineOutcome}
    {hash : TxHash} (hi : running[i]? = some w) (hpolling : polling? w = some hash) :
    ∃ (id : Uuid) (row : ChargeRequest) (mandate : Mandate),
      phases[i]? = some (.waiting id row mandate hash) := by
  unfold polling? at hpolling
  split at hpolling
  · cases hpolling
    obtain ⟨p, hp, hmoves⟩ := hin.allows hi
    obtain ⟨p', hmove, -⟩ := hmoves .threw
    cases hmove with
    | poll id row mandate => exact ⟨id, row, mandate, hp⟩
    | read _ _ _ _ _ hreads => cases hreads
  · cases hpolling

/-- Executed now, transaction `hash` charges and leaves `receipt`. -/
def Network.Charges (host : Host T) (net : Network T) (hash : TxHash)
    (authorized : List Registry.Address) (receipt : PaymentReceipt) : Prop :=
  ∃ args c, net.transactions[hash]? = some ⟨args, none⟩ ∧ args.call authorized = some c ∧
    (invoke host c net.ledger).1 = .ok (.payment receipt)

section

variable {net : Network T} {hash hash' : TxHash} {authorized : List Registry.Address}
  {receipt : PaymentReceipt}

theorem Network.Charges.wouldCharge (h : net.Charges host hash authorized receipt) :
    net.wouldCharge host hash authorized = true := by
  obtain ⟨args, call, htx, hcall, hout⟩ := h
  rw [Network.wouldCharge, htx]
  show (match args.call authorized with | some c => _ | none => _) = _
  rw [hcall]
  show (invoke host call net.ledger).1.isOk = true
  rw [hout]
  rfl

theorem Network.Charges.charged (h : net.Charges host hash authorized receipt) :
    (net.execute host hash authorized).Charged hash receipt := by
  obtain ⟨args, call, htx, hcall, hout⟩ := h
  refine ⟨args, net.sequence, ?_⟩
  simp only [Network.execute, htx, hcall]
  rw [List.getElem?_set_self (List.getElem?_eq_some_iff.mp htx).1, hout]

/-- The receipt names the mandate and the charge of the transaction. -/
theorem Network.Charges.ids (h : net.Charges host hash authorized receipt) {args : ChargeArgs}
    {executed : Option Executed} (htx : net.transactions[hash]? = some ⟨args, executed⟩) :
    receipt.mandateId = args.mandateId ∧ receipt.chargeId = args.chargeId := by
  obtain ⟨args', call, htx', hcall, hout⟩ := h
  obtain ⟨rfl, -⟩ := Transaction.mk.inj (Option.some.inj (htx.symm.trans htx'))
  obtain ⟨amount, hop⟩ := op_of_call hcall
  have hids := (Registry.newReceipt_of_payment hout).op_eq.symm.trans hop
  simp only [Registry.Op.charge.injEq] at hids
  exact ⟨hids.1, hids.2.1⟩

theorem Network.charged_of_execute (h : (net.execute host hash authorized).Charged hash' receipt) :
    net.Charged hash' receipt ∨ (hash' = hash ∧ net.Charges host hash authorized receipt) := by
  rcases net.execute_cases host hash authorized with heq | ⟨args, c, htx, hcall, heq⟩
  · rw [heq] at h
    exact .inl h
  · rw [heq] at h
    obtain ⟨args', ledger, htx'⟩ := h
    change (net.transactions.set hash _)[hash']? = _ at htx'
    rcases Workers.getElem?_set_cases htx' with ⟨rfl, hnew⟩ | ⟨-, hold⟩
    · simp only [Transaction.mk.injEq, Option.some.injEq, Executed.mk.injEq] at hnew
      exact .inr ⟨rfl, args, c, htx, hcall, hnew.2.1.symm⟩
    · exact .inl ⟨args', ledger, hold⟩

/-- An execution after which a charge id is used found it used, or is the one that charged. -/
theorem Network.used_of_execute {m c : BytesN}
    (h : (net.execute host hash authorized).ledger.storage.hasUsedCharge m c) :
    net.ledger.storage.hasUsedCharge m c ∨
      ∃ receipt, net.Charges host hash authorized receipt ∧ receipt.chargeId = c := by
  rcases net.execute_cases host hash authorized with heq | ⟨args, call, htx, hcall, heq⟩
  · rw [heq] at h
    exact .inl h
  · rw [heq] at h
    rcases Registry.hasUsedCharge_of_exec h with hold | ⟨_, receipt, ⟨⟩, hout, -, hc⟩
    · exact .inl hold
    · exact .inr ⟨receipt, ⟨args, call, htx, hcall, hout⟩, hc⟩

end

/-- The row of a request, without its bookkeeping. -/
theorem exists_of_created {db : Db} {id : Uuid} {row : ChargeRequest}
    (h : db.created id = some row) :
    ∃ stored, db.chargeRequests.lookup id = some stored ∧ stored.mandateId = row.mandateId ∧
      stored.chargeId = row.chargeId := by
  obtain ⟨stored, hstored, rfl⟩ := Option.map_eq_some_iff.mp h
  exact ⟨stored, hstored, rfl, rfl⟩

/-- **A new charge is reported.** When a request is charged by something outside the workers that
`Prompt` admits, a worker that owns the request waits for the transaction that did it. -/
theorem Happens.charges {phases : List Phase} {running : List (Pipeline PipelineOutcome)}
    {action : Action T} (h : Happens host s action s') (hin : Workers.InPhase Move phases running)
    (hk : Known host s phases) (hprompt : Prompt host ⟨s, running⟩ action) {id : Uuid}
    {row : ChargeRequest} (hrow : s'.db.created id = some row)
    (hused : s'.network.ledger.storage.hasUsedCharge row.mandateId row.chargeId) :
    (s.db.created id = some row ∧
        s.network.ledger.storage.hasUsedCharge row.mandateId row.chargeId) ∨
      ∃ (i : ℕ) (p : Phase), phases[i]? = some p ∧ p.owned? = some id ∧ p.Reports s'.network := by
  cases h with
  | apart _ _ hrequests _ _ hledger _ =>
      rw [(sameRequests_of_eq hrequests).created] at hrow
      rw [hledger] at hused
      exact .inl ⟨hrow, hused⟩
  | recover =>
      change (recoverStalePreSubmissionCharges s.clock s.db).created id = _ at hrow
      rw [created_recover] at hrow
      exact .inl ⟨hrow, hused⟩
  | complete authorizationId id' ciphertext db hdb =>
      obtain ⟨authorization, hstored, -, -, hrequests, -, -⟩ := completeChargeAuthorization_ok hdb
      change db.created id = some row at hrow
      rw [created_insert hrequests] at hrow
      split at hrow
      · -- the new request: nobody has charged under its ids
        obtain rfl := Option.some.inj hrow
        have hunused := hprompt authorization hstored
        cases hunused.symm.trans hused
      · exact .inl ⟨hrow, hused⟩
  | chain step =>
      rcases Registry.hasUsedCharge_of_exec hused with hold | ⟨c, receipt, rfl, hout, hm, hc⟩
      · exact .inl ⟨hrow, hold⟩
      · -- somebody else has charged, which is excluded
        have hop := (Registry.newReceipt_of_payment hout).op_eq
        obtain ⟨stored, hstored, hmandate, hcharge⟩ := exists_of_created hrow
        have hfor : chargesFor c.op stored = true := by
          rw [hop, chargesFor, hmandate, hcharge, hm, hc]
          simp
        have hfails := hprompt stored (FinMap.mem_values.mpr ⟨id, hstored⟩) hfor
        rw [hout] at hfails
        cases hfails
  | execute hash authorized =>
      rcases Network.used_of_execute hused with hold | ⟨receipt, hcharges, hcharge⟩
      · exact .inl ⟨hrow, hold⟩
      · -- the transaction charges, so one of the workers polls for it
        obtain ⟨w, hw, hpolling⟩ := hprompt hcharges.wouldCharge
        obtain ⟨i, hi⟩ := List.mem_iff_getElem?.mp hw
        obtain ⟨id', row', mandate, hp⟩ := waiting_of_polling hin hi hpolling
        have hknows := hk.knows _ (List.mem_of_getElem? hp)
        -- and the request it works on is the one that was charged
        obtain ⟨entry, executed, hsent⟩ := hknows.sent rfl
        have hsamecharge : row'.asCreated.chargeId = row.chargeId := by
          calc row'.asCreated.chargeId = receipt.chargeId := (hcharges.ids hsent).2.symm
            _ = row.chargeId := hcharge
        obtain rfl := hk.keyed.chargeId_inj (hknows.row rfl) hrow hsamecharge
        exact .inr ⟨i, _, hp, rfl, receipt, hcharges.charged⟩

/-- A submission has one owner, so what is so of one owner is so of all. -/
theorem Exclusive.all {db : Db} {phases : List Phase} {R : Phase → Prop} {i : ℕ} {id : Uuid}
    (h : Exclusive db (phases.map Phase.owned?)) (hp : phases[i]? = some p)
    (howned : p.owned? = some id) (hR : R p) : ∀ q ∈ phases, q.owned? = some id → R q := by
  intro q hq hqowned
  obtain ⟨j, hj⟩ := List.mem_iff_getElem?.mp hq
  have hi : (phases.map Phase.owned?)[i]? = some (some id) := by
    rw [List.getElem?_map, hp, Option.map_some, howned]
  have hij : i = j := by
    refine h.unique hi ?_
    rw [List.getElem?_map, hj, Option.map_some, hqowned]
  subst hij
  obtain rfl := Option.some.inj (hp.symm.trans hj)
  exact hR

theorem Reported.happens {phases : List Phase} {running : List (Pipeline PipelineOutcome)}
    {action : Action T} (h : Reported s phases) (hin : Workers.InPhase Move phases running)
    (hk : Known host s phases) (hh : Happens host s action s')
    (hprompt : Prompt host ⟨s, running⟩ action) : Reported s' phases where
  charged {id row} hrow hused := by
    rcases hh.charges hin hk hprompt hrow hused with ⟨hrow, hused⟩ | ⟨i, p, hp, howned, hreports⟩
    · rcases h.charged hrow hused with hst | ⟨hst, howners⟩
      · exact .inl (hh.statusOf hst (by simp) (by simp))
      · refine .inr ⟨hh.statusOf hst (by simp) (by simp), fun q hq hqowned => ?_⟩
        exact (howners q hq hqowned).grows hh.grows
    · have hst : s.db.statusOf id = some .submitted := by
        refine hk.exclusive.submitted (i := i) ?_
        rw [List.getElem?_map, hp, Option.map_some, howned]
      exact .inr ⟨hh.statusOf hst (by simp) (by simp), hk.exclusive.all hp howned hreports⟩
  failed delivery hmem id hid := by
    rw [hh.quiet.deliveries] at hmem
    exact hh.statusOf (h.failed delivery hmem id hid) (by simp) (by simp)

theorem Reported.start {phases : List Phase} (h : Reported s phases) (id : Uuid) :
    Reported s (phases ++ [.fresh id]) where
  charged hrow hused := by
    rcases h.charged hrow hused with hst | ⟨hst, howners⟩
    · exact .inl hst
    · refine .inr ⟨hst, fun q hq hqowned => ?_⟩
      rcases List.mem_append.mp hq with hq | hq
      · exact howners q hq hqowned
      · obtain rfl := List.mem_singleton.mp hq
        cases hqowned
  failed := h.failed

theorem reported_initial (t₀ : U64) (tok₀ : T) : Reported (initial t₀ tok₀).shared [] where
  charged hrow := by cases hrow
  failed delivery hmem := by cases hmem

end

end Paymap.Relayer
