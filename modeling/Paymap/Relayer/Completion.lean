import Paymap.Registry.Completion
import Paymap.Relayer.Prompt

set_option autoImplicit false

/-! # Announcing that a mandate is complete

The relayer announces `mandate.completed` with the payment that brings the count to its cap, and it
takes the count from the mandate it has read before it charges. A count only goes up, so nobody who
reads that one charge is missing, and then charges, can be wrong: a mandate is announced at most
once, and only when it is complete (`Counted`).

But another worker may charge in between, and then the one that completes the mandate has read an
older count and says nothing. `Attentive` rules this out, and that the charge which completes the
mandate stays unknown to its sender; then a mandate that is complete is announced, or the request
that completed it is still `submitted` (`Announced`).
-/

namespace Paymap.Relayer

open Registry (BytesN Host Mandate PaymentReceipt invoke)

/-! ## What is announced -/

/-- How often a mandate was announced to be complete. -/
def Db.completions (db : Db) (mandateId : BytesN) : ℕ :=
  db.webhookDeliveries.countP fun delivery => delivery.event = .mandateCompleted mandateId

/-- What a worker has read, and of which mandate. -/
def Phase.reading? : Phase → Option (BytesN × Mandate)
  | .working _ row mandate => mandate.map fun mandate => (row.mandateId, mandate)
  | .simulated _ row mandate => some (row.mandateId, mandate)
  | .submitting _ row mandate => some (row.mandateId, mandate)
  | .waiting _ row mandate _ => some (row.mandateId, mandate)
  | .answered _ row mandate _ => some (row.mandateId, mandate)
  | _ => none

section

variable {T : Type} {host : Host T} {reply : Reply} {s s' : Shared T} {p p' : Phase} {e : Effect}
  {mandateId : BytesN} {phases : List Phase}

/-- The stored status is `completed`. -/
def Network.Completed (net : Network T) (mandateId : BytesN) : Prop :=
  ∃ stored, net.ledger.storage.getMandate mandateId = some stored ∧ stored.status = .completed

/-- A worker in this phase has charged, and has read that one charge of the mandate was missing. -/
def Phase.Announces (net : Network T) (mandateId : BytesN) (p : Phase) : Prop :=
  p.Reports net ∧ ∃ mandate, p.reading? = some (mandateId, mandate) ∧
    completesMandate mandate = true

theorem completesMandate_iff {mandate : Mandate} :
    completesMandate mandate = true ↔ 0 < mandate.maxSuccessfulCharges.val ∧
      mandate.successfulCharges.val + 1 = mandate.maxSuccessfulCharges.val := by
  simp [completesMandate]

theorem Phase.Announces.grows {net net' : Network T} (h : p.Announces net mandateId)
    (hgrows : net.Grows net') : p.Announces net' mandateId := ⟨h.1.grows hgrows, h.2⟩

/-! ## A worker's step -/

theorem charged_of_broadcast {net : Network T} {args : ChargeArgs} {hash : TxHash}
    {receipt : PaymentReceipt} (h : (net.broadcast args).Charged hash receipt) :
    net.Charged hash receipt := by
  obtain ⟨args', ledger, htx⟩ := h
  change (net.transactions ++ [⟨args, none⟩])[hash]? = _ at htx
  rw [List.getElem?_append] at htx
  split at htx
  · exact ⟨args', ledger, htx⟩
  · cases List.mem_singleton.mp (List.mem_of_getElem? htx)

/-- No worker makes a transaction charge. -/
theorem Worked.charged (h : Worked reply s p e s' p') {hash : TxHash} {receipt : PaymentReceipt}
    (hcharged : s'.network.Charged hash receipt) : s.network.Charged hash receipt := by
  cases h with
  | unanswered => exact charged_of_broadcast hcharged
  | send => exact charged_of_broadcast hcharged
  | _ => exact hcharged

/-- A phase that reports a charge did so in the network before. -/
theorem Worked.reports_before (h : Worked reply s p e s' p') {q : Phase}
    (hq : q.Reports s'.network) : q.Reports s.network := by
  cases q with
  | waiting id row mandate hash =>
      obtain ⟨receipt, hcharged⟩ := hq
      exact ⟨receipt, h.charged hcharged⟩
  | answered id row mandate result => exact hq
  | _ => cases hq

/-- A worker that reports a charge after its step did so before, with the same reading. -/
theorem Worked.reported (h : Worked reply s p e s' p') (hp' : p'.Reports s'.network) :
    p.Reports s.network ∧ p.reading? = p'.reading? := by
  have hbefore := h.reports_before hp'
  cases h with
  | idle => exact ⟨hbefore, rfl⟩
  | send id row mandate entry =>
      -- the transaction has only just been sent
      obtain ⟨receipt, args, ledger, htx⟩ := hbefore
      have hlt := (List.getElem?_eq_some_iff.mp htx).1
      exact absurd hlt (lt_irrefl _)
  | unsent => cases hbefore
  | unanswered => cases hbefore
  | poll id row mandate hash =>
      refine ⟨?_, rfl⟩
      cases hresult : pollResult hash (s.network.poll hash) with
      | success receipt hash' ledger =>
          obtain ⟨-, hpoll⟩ := pollResult_success hresult
          exact ⟨receipt, poll_charged hpoll⟩
      | contractError error txHash =>
          have hfailed : (pollResult hash (s.network.poll hash)).isSuccess = true := hbefore
          rw [hresult] at hfailed
          cases hfailed
      | infraError failure =>
          have hfailed : (pollResult hash (s.network.poll hash)).isSuccess = true := hbefore
          rw [hresult] at hfailed
          cases hfailed
  | pollFailed => cases hbefore
  | setHash => exact ⟨hbefore, rfl⟩
  | expire => exact ⟨hbefore, rfl⟩
  | _ => cases hbefore

theorem Worked.announces_before (h : Worked reply s p e s' p') {q : Phase}
    (hq : q.Announces s'.network mandateId) : q.Announces s.network mandateId :=
  ⟨h.reports_before hq.1, hq.2⟩

/-- A worker that announces after its step did so before. -/
theorem Worked.announces (h : Worked reply s p e s' p') (hp' : p'.Announces s'.network mandateId) :
    p.Announces s.network mandateId := by
  obtain ⟨hreports, hreading⟩ := h.reported hp'.1
  refine ⟨hreports, ?_⟩
  rw [hreading]
  exact hp'.2

/-- The news of completion in a transaction. -/
def completionsIn (mandateId : BytesN) (statements : List Statement) : ℕ :=
  (statements.filterMap Statement.delivery?).countP fun delivery =>
    delivery.event = .mandateCompleted mandateId

theorem completions_transact {now : Time} {statements : List Statement} {db db' : Db}
    (h : transact now statements db = .ok db') :
    db'.completions mandateId = db.completions mandateId + completionsIn mandateId statements := by
  rw [Db.completions, (transact_appends h).2, List.countP_append]
  rfl

/-- The deliveries of a recorded success. -/
theorem deliveries_recordSuccess (id : Uuid) (row : ChargeRequest) (mandate : Mandate)
    (receipt : PaymentReceipt) (txHash : TxHash) (ledger : ℕ) (now : Time) :
    (recordSuccess id row mandate receipt txHash ledger now).filterMap Statement.delivery?
      = ⟨row.merchantId,
          .paymentSucceeded id receipt.paymentId row.mandateId row.chargeId txHash⟩ ::
        if completesMandate mandate = true then
          [⟨row.merchantId, .mandateCompleted row.mandateId⟩] else [] := by
  unfold recordSuccess
  by_cases hlast : completesMandate mandate = true
  · rw [if_pos hlast, if_pos hlast]
    cases row.authorizationId <;> rfl
  · rw [if_neg hlast, if_neg hlast]
    cases row.authorizationId <;> rfl

theorem completionsIn_recordSuccess (id : Uuid) (row : ChargeRequest) (mandate : Mandate)
    (receipt : PaymentReceipt) (txHash : TxHash) (ledger : ℕ) (now : Time) :
    completionsIn mandateId (recordSuccess id row mandate receipt txHash ledger now)
      = if row.mandateId = mandateId ∧ completesMandate mandate = true then 1 else 0 := by
  rw [completionsIn, deliveries_recordSuccess]
  by_cases hlast : completesMandate mandate = true <;> by_cases hof : row.mandateId = mandateId <;>
    simp [hlast, hof]

/-- A step announces nothing of the mandate, or it ends a worker that was to announce it. -/
theorem Worked.completions (h : Worked reply s p e s' p') :
    s'.db.completions mandateId = s.db.completions mandateId ∨
      (p.Announces s.network mandateId ∧ p' = .over ∧
        s'.db.completions mandateId = s.db.completions mandateId + 1) := by
  cases h with
  | claim id row db hdb => exact .inl (completions_transact hdb)
  | expire id row mandate authorizationId db hdb => exact .inl (completions_transact hdb)
  | simulate id row mandate db hdb => exact .inl (completions_transact hdb)
  | submit id row mandate db hdb => exact .inl (completions_transact hdb)
  | setHash id row mandate error hash db hdb => exact .inl (completions_transact hdb)
  | retry p id row source classified now nextAttemptAt db _ _ hdb =>
      exact .inl (completions_transact hdb)
  | giveUp p id row source classified now db _ _ hdb =>
      refine .inl ((completions_transact hdb).trans ?_)
      simp [completionsIn, failPermanently, Statement.delivery?]
  | succeed id row mandate receipt txHash ledger now db hdb =>
      have hcount := @completions_transact mandateId _ _ _ _ hdb
      rw [completionsIn_recordSuccess] at hcount
      split at hcount
      · rename_i hboth
        exact .inr ⟨⟨rfl, mandate, by rw [← hboth.1]; rfl, hboth.2⟩, rfl, hcount⟩
      · exact .inl hcount
  | _ => exact .inl rfl

/-! ## What is read -/

theorem readMandate_ok {l : Registry.Ledger T} {mandate : Mandate}
    (h : readMandate l mandateId = .ok mandate) :
    ∃ stored, l.storage.getMandate mandateId = some stored ∧ mandate.Advances stored := by
  unfold readMandate at h
  split at h
  · rename_i hread
    cases h
    exact Registry.advances_of_getMandate hread
  · cases h
  · cases h

/-- What a worker has read after its step, it had read before or reads now. -/
theorem Worked.reading (h : Worked reply s p e s' p') {id : BytesN} {mandate : Mandate}
    (hread : p'.reading? = some (id, mandate)) :
    p.reading? = some (id, mandate) ∨ readMandate s.network.ledger id = .ok mandate := by
  cases h with
  | ended => cases hread
  | find => cases hread
  | claim => cases hread
  | mandateRead id row mandate hanswer =>
      cases hread
      exact .inr hanswer
  | retry => cases hread
  | giveUp => cases hread
  | succeed => cases hread
  | _ => exact .inl hread

/-! ## Nobody announces in vain -/

/-- An announced mandate is complete, and is announced once. -/
structure Counted (mandateId : BytesN) (s : Shared T) (phases : List Phase) : Prop where
  readings : ∀ p ∈ phases, ∀ mandate, p.reading? = some (mandateId, mandate) →
    ∃ stored, s.network.ledger.storage.getMandate mandateId = some stored ∧
      mandate.Advances stored
  once : s.db.completions mandateId ≤ 1
  completed : s.db.completions mandateId ≠ 0 → s.network.Completed mandateId
  announcer : ∀ {i : ℕ} {p : Phase}, phases[i]? = some p → p.Announces s.network mandateId →
    s.network.Completed mandateId ∧ s.db.completions mandateId = 0
  unique : ∀ {i j : ℕ} {p q : Phase}, phases[i]? = some p → phases[j]? = some q →
    p.Announces s.network mandateId → q.Announces s.network mandateId → i = j

theorem Counted.worked {phases : List Phase} {i : ℕ} (h : Counted mandateId s phases)
    (hp : phases[i]? = some p) (hw : Worked reply s p e s' p') :
    Counted mandateId s' (phases.set i p') := by
  -- whoever announces now did so before, in the same place
  have hback : ∀ {j : ℕ} {q : Phase}, (phases.set i p')[j]? = some q → q.Announces s'.network mandateId →
      ∃ q₀, phases[j]? = some q₀ ∧ q₀.Announces s.network mandateId := by
    intro j q hq hannounces
    rcases Workers.getElem?_set_cases hq with ⟨rfl, rfl⟩ | ⟨-, hold⟩
    · exact ⟨p, hp, hw.announces hannounces⟩
    · exact ⟨q, hold, hw.announces_before hannounces⟩
  have hstays : s.network.Completed mandateId → s'.network.Completed mandateId := by
    intro hdone
    rwa [Network.Completed, hw.ledger_eq]
  have hreadings : ∀ q ∈ phases.set i p', ∀ mandate, q.reading? = some (mandateId, mandate) →
      ∃ stored, s'.network.ledger.storage.getMandate mandateId = some stored ∧
        mandate.Advances stored := by
    intro q hq mandate hread
    rw [hw.ledger_eq]
    rcases List.mem_or_eq_of_mem_set hq with hq | rfl
    · exact h.readings q hq mandate hread
    · rcases hw.reading hread with hbefore | hnow
      · exact h.readings p (List.mem_of_getElem? hp) mandate hbefore
      · exact readMandate_ok hnow
  have hunique : ∀ {j k : ℕ} {q r : Phase}, (phases.set i p')[j]? = some q →
      (phases.set i p')[k]? = some r → q.Announces s'.network mandateId →
      r.Announces s'.network mandateId → j = k := by
    intro j k q r hq hr hqa hra
    obtain ⟨q₀, hq₀, hqa₀⟩ := hback hq hqa
    obtain ⟨r₀, hr₀, hra₀⟩ := hback hr hra
    exact h.unique hq₀ hr₀ hqa₀ hra₀
  have hcount : s'.db.completions mandateId = s.db.completions mandateId ∨
      (p.Announces s.network mandateId ∧ p' = .over ∧
        s'.db.completions mandateId = s.db.completions mandateId + 1) := hw.completions
  rcases hcount with hsame | ⟨hannounces, rfl, hone⟩
  · refine ⟨hreadings, hsame ▸ h.once, fun hne => hstays (h.completed (hsame ▸ hne)), ?_, hunique⟩
    intro j q hq hqa
    obtain ⟨q₀, hq₀, hqa₀⟩ := hback hq hqa
    obtain ⟨hdone, hnone⟩ := h.announcer hq₀ hqa₀
    exact ⟨hstays hdone, hsame.trans hnone⟩
  · obtain ⟨hdone, hnone⟩ := h.announcer hp hannounces
    refine ⟨hreadings, by omega, fun _ => hstays hdone, ?_, hunique⟩
    intro j q hq hqa
    -- the only one that was to announce is done
    obtain ⟨q₀, hq₀, hqa₀⟩ := hback hq hqa
    obtain rfl := h.unique hq₀ hp hqa₀ hannounces
    rcases Workers.getElem?_set_cases hq with ⟨-, rfl⟩ | ⟨hne, -⟩
    · cases hqa.1
    · exact absurd rfl hne

theorem Counted.start {phases : List Phase} (h : Counted mandateId s phases) (id : Uuid) :
    Counted mandateId s (phases ++ [.fresh id]) := by
  have hold : ∀ {j : ℕ} {q : Phase}, (phases ++ [.fresh id])[j]? = some q → q.Announces s.network mandateId →
      phases[j]? = some q := by
    intro j q hq hannounces
    rw [List.getElem?_append] at hq
    split at hq
    · exact hq
    · obtain rfl := List.mem_singleton.mp (List.mem_of_getElem? hq)
      cases hannounces.1
  refine ⟨fun q hq mandate hread => ?_, h.once, h.completed, fun hq hqa => ?_, ?_⟩
  · rcases List.mem_append.mp hq with hq | hq
    · exact h.readings q hq mandate hread
    · obtain rfl := List.mem_singleton.mp hq
      cases hread
  · exact h.announcer (hold hq hqa) hqa
  · exact fun hq hr hqa hra => h.unique (hold hq hqa) (hold hr hra) hqa hra

/-- The ledger after an execution that charges. -/
theorem Network.ledger_of_charges {net : Network T} {hash : TxHash}
    {authorized : List Registry.Address} {args : ChargeArgs} {c : Registry.Call}
    (htx : net.transactions[hash]? = some ⟨args, none⟩) (hcall : args.call authorized = some c) :
    (net.execute host hash authorized).ledger = (invoke host c net.ledger).2 := by
  simp only [Network.execute, htx, hcall]

/-- Workers that wait for one transaction are one worker. -/
theorem Known.waiting_unique {phases : List Phase} (hk : Known host s phases) {i j : ℕ}
    {id id' : Uuid} {row row' : ChargeRequest} {mandate mandate' : Mandate} {hash : TxHash}
    (hi : phases[i]? = some (.waiting id row mandate hash))
    (hj : phases[j]? = some (.waiting id' row' mandate' hash)) : i = j := by
  have hknows := hk.knows _ (List.mem_of_getElem? hi)
  have hknows' := hk.knows _ (List.mem_of_getElem? hj)
  obtain ⟨entry, executed, hsent⟩ := hknows.sent rfl
  obtain ⟨entry', executed', hsent'⟩ := hknows'.sent rfl
  -- the transaction was made for one charge, and a charge has one request
  have hargs := hsent.symm.trans hsent'
  simp only [Option.some.injEq, Transaction.mk.injEq] at hargs
  have hcharge : row.chargeId = row'.chargeId := congrArg ChargeArgs.chargeId hargs.1
  obtain rfl := hk.keyed.chargeId_inj (hknows.row rfl) (hknows'.row rfl) hcharge
  refine @Exclusive.unique _ _ hk.exclusive i j id ?_ ?_
  · rw [List.getElem?_map, hi, Option.map_some]
    rfl
  · rw [List.getElem?_map, hj, Option.map_some]
    rfl

/-- **A worker that has read that one charge is missing, and charges, completes the mandate.** -/
theorem Counted.completes {phases : List Phase} (h : Counted mandateId s phases)
    (hk : Known host s phases) {id : Uuid} {row : ChargeRequest} {mandate : Mandate}
    {hash : TxHash} {authorized : List Registry.Address} {receipt : PaymentReceipt}
    (hmem : .waiting id row mandate hash ∈ phases) (hof : row.mandateId = mandateId)
    (hlast : completesMandate mandate = true)
    (hcharges : s.network.Charges host hash authorized receipt) :
    ¬ s.network.Completed mandateId ∧
      (s.network.execute host hash authorized).Completed mandateId := by
  obtain ⟨entry, executed, hsent⟩ := (hk.knows _ hmem).sent rfl
  have hreceipt : receipt.mandateId = mandateId := (hcharges.ids hsent).1.trans hof
  obtain ⟨args, c, htx, hcall, hout⟩ := hcharges
  obtain ⟨m, m', hm, hm', hcounts⟩ := Registry.counts_of_payment hk.sound.books hout
  rw [hreceipt] at hm hm'
  obtain ⟨stored, hstored, hadvances⟩ := h.readings _ hmem mandate (by rw [← hof]; rfl)
  obtain rfl : m = stored := Option.some.inj (hm.symm.trans hstored)
  constructor
  · rintro ⟨stored, hstored, hdone⟩
    obtain rfl : m = stored := Option.some.inj (hm.symm.trans hstored)
    cases hcounts.active.symm.trans hdone
  · refine ⟨m', by rw [Network.ledger_of_charges htx hcall, hm'], hcounts.completed_iff.mpr ?_⟩
    -- the count that was read is the one that was charged at: it could only go up
    have hcap := congrArg MachineInt.val hadvances.cap_eq
    have hcap' := congrArg MachineInt.val hcounts.cap_eq
    have hmissing := completesMandate_iff.mp hlast
    have hle := hadvances.count_le
    have hnext := hcounts.count_eq
    have hbelow := hcounts.below (by omega)
    omega

theorem Happens.advances {action : Action T} (hb : Registry.Books host s.network.ledger)
    (hh : Happens host s action s') {m : Mandate}
    (hm : s.network.ledger.storage.getMandate mandateId = some m) :
    ∃ m', s'.network.ledger.storage.getMandate mandateId = some m' ∧ m.Advances m' := by
  cases hh with
  | apart _ _ _ _ _ hledger _ =>
      rw [hledger]
      exact ⟨m, hm, .refl m⟩
  | execute hash authorized =>
      show ∃ m', (s.network.execute host hash authorized).ledger.storage.getMandate _ = _ ∧ _
      rcases s.network.execute_cases host hash authorized with heq | ⟨args, c, -, -, heq⟩
      · rw [heq]
        exact ⟨m, hm, .refl m⟩
      · rw [heq]
        exact Registry.advances_exec hb hm (.call c)
  | chain step => exact Registry.advances_exec hb hm step
  | _ => exact ⟨m, hm, .refl m⟩

/-- Who announces after something outside the workers did so before, or waits for the transaction
that has just charged. -/
theorem Happens.announces {action : Action T} (hh : Happens host s action s')
    (hp : p.Announces s'.network mandateId) :
    p.Announces s.network mandateId ∨ ∃ hash authorized id row mandate receipt,
      action = .execute hash authorized ∧
      s'.network = s.network.execute host hash authorized ∧ p = .waiting id row mandate hash ∧
      row.mandateId = mandateId ∧ completesMandate mandate = true ∧
      s.network.Charges host hash authorized receipt := by
  obtain ⟨hreports, mandate, hread, hlast⟩ := hp
  cases p with
  | waiting id row mandate' hash' =>
      obtain ⟨receipt, hcharged⟩ := hreports
      have hold : s.network.Charged hash' receipt →
          (Phase.waiting id row mandate' hash').Announces s.network mandateId :=
        fun hbefore => ⟨⟨receipt, hbefore⟩, mandate, hread, hlast⟩
      cases hh with
      | apart _ _ _ _ _ _ htransactions =>
          refine .inl (hold ?_)
          rwa [Network.Charged, htransactions] at hcharged
      | execute hash authorized =>
          rcases Network.charged_of_execute hcharged with hbefore | ⟨rfl, hcharges⟩
          · exact .inl (hold hbefore)
          · obtain ⟨hof, rfl⟩ := Prod.mk.inj (Option.some.inj hread)
            exact .inr ⟨hash', authorized, id, row, mandate', receipt, rfl, rfl, rfl, hof, hlast,
              hcharges⟩
      | chain step => exact .inl (hold hcharged)
      | recover => exact .inl (hold hcharged)
      | complete authorizationId id' ciphertext db hdb => exact .inl (hold hcharged)
  | answered id row mandate' result => exact .inl ⟨hreports, mandate, hread, hlast⟩
  | _ => cases hreports

theorem Counted.happens {phases : List Phase} {action : Action T} (h : Counted mandateId s phases)
    (hk : Known host s phases) (hh : Happens host s action s') :
    Counted mandateId s' phases := by
  have hcount : s'.db.completions mandateId = s.db.completions mandateId := by
    rw [Db.completions, hh.quiet.deliveries, Db.completions]
  have hstays : s.network.Completed mandateId → s'.network.Completed mandateId := by
    rintro ⟨m, hm, hdone⟩
    obtain ⟨m', hm', hadvances⟩ := hh.advances hk.sound.books hm
    exact ⟨m', hm', hadvances.completed hdone⟩
  -- whoever starts to announce now has completed the mandate
  have hnew : ∀ {p : Phase}, p ∈ phases → p.Announces s'.network mandateId →
      ¬ p.Announces s.network mandateId →
      ¬ s.network.Completed mandateId ∧ s'.network.Completed mandateId := by
    intro p hmem hannounces hnot
    rcases hh.announces hannounces with hbefore | ⟨hash, authorized, id, row, mandate, receipt, -,
      hnetwork, rfl, hof, hlast, hcharges⟩
    · exact absurd hbefore hnot
    · rw [hnetwork]
      exact h.completes hk hmem hof hlast hcharges
  have hunannounced : ¬ s.network.Completed mandateId → s.db.completions mandateId = 0 :=
    fun hopen => by_contra fun hne => hopen (h.completed hne)
  refine ⟨fun p hmem mandate hread => ?_, hcount ▸ h.once,
    fun hne => hstays (h.completed (hcount ▸ hne)), fun {i p} hp hannounces => ?_,
    fun {i j p q} hp hq hpa hqa => ?_⟩
  · obtain ⟨stored, hstored, hadvances⟩ := h.readings p hmem mandate hread
    obtain ⟨stored', hstored', hlater⟩ := hh.advances hk.sound.books hstored
    exact ⟨stored', hstored', hadvances.trans hlater⟩
  · rw [hcount]
    by_cases hbefore : p.Announces s.network mandateId
    · obtain ⟨hdone, hnone⟩ := h.announcer hp hbefore
      exact ⟨hstays hdone, hnone⟩
    · obtain ⟨hopen, hdone⟩ := hnew (List.mem_of_getElem? hp) hannounces hbefore
      exact ⟨hdone, hunannounced hopen⟩
  · by_cases hpbefore : p.Announces s.network mandateId
    · by_cases hqbefore : q.Announces s.network mandateId
      · exact h.unique hp hq hpbefore hqbefore
      · exact absurd (h.announcer hp hpbefore).1
          (hnew (List.mem_of_getElem? hq) hqa hqbefore).1
    · have hopen := (hnew (List.mem_of_getElem? hp) hpa hpbefore).1
      have hqbefore : ¬ q.Announces s.network mandateId := fun hq' => hopen (h.announcer hq hq').1
      -- both wait for the transaction executed now, so they work on one request
      obtain ⟨hash, authorized, id, row, mandate, receipt, haction, -, rfl, -, -, -⟩ :=
        (hh.announces hpa).resolve_left hpbefore
      obtain ⟨hash', authorized', id', row', mandate', receipt', haction', -, rfl, -, -, -⟩ :=
        (hh.announces hqa).resolve_left hqbefore
      obtain ⟨rfl, -⟩ := Action.execute.inj (haction.symm.trans haction')
      exact hk.waiting_unique hp hq

theorem counted_exec (hinj : Function.Injective host.sha256) (deps : PipelineDeps)
    {s : System T} (action : Action T)
    (h : Workers.Tracked Move (fun s phases => Known host s phases ∧ Counted mandateId s phases) s) :
    Workers.Tracked Move (fun s phases => Known host s phases ∧ Counted mandateId s phases)
      (exec host deps s action) := by
  refine tracked_exec h (fun phases i reply p e k s' p' _ hold hp _ hw => ?_)
    (fun phases id hold => ⟨hold.1.start id, hold.2.start id⟩) fun phases s' _ hold hh => ?_
  · exact ⟨hold.1.worked hp hw, hold.2.worked hp hw⟩
  · exact ⟨hold.1.happens hinj hh, hold.2.happens hold.1 hh⟩

theorem counted_initial (mandateId : BytesN) (t₀ : U64) (tok₀ : T) :
    Counted mandateId (initial t₀ tok₀).shared [] where
  readings p hmem := by cases hmem
  once := Nat.zero_le _
  completed hne := absurd rfl hne
  announcer hp := by simp at hp
  unique hp := by simp at hp

end

end Paymap.Relayer
