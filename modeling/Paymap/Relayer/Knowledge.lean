import Paymap.Relayer.Ownership

set_option autoImplicit false

/-! # What the workers rely on

Between its read of a row and its last write a worker relies on what it has read, while others write
the same tables. `Known` says what of this stays true in every state of every run: the row in the
worker's hands is the row of the table in all that nobody writes, a transaction it waits for was
made from that row, and a success it was told of is on the ledger. Ownership is part of it.
-/

namespace Paymap.Relayer

open Registry (Host Mandate PaymentReceipt)

/-! ## The invariant -/

/-- A request is stored under its id, and no two requests have one charge id. -/
structure Keyed (db : Db) : Prop where
  id_eq : ∀ {id : Uuid} {row : ChargeRequest}, db.created id = some row → row.id = id
  chargeId_inj : ∀ {id id' : Uuid} {row row' : ChargeRequest}, db.created id = some row →
    db.created id' = some row' → row.chargeId = row'.chargeId → id = id'

/-- The request a worker works on, with the row it has read. -/
def Phase.row? : Phase → Option (Uuid × ChargeRequest)
  | .fresh _ => none
  | .found id row => some (id, row)
  | .working id row _ => some (id, row)
  | .simulated id row _ => some (id, row)
  | .submitting id row _ => some (id, row)
  | .waiting id row _ _ => some (id, row)
  | .answered id row _ _ => some (id, row)
  | .over => none

section

variable {T : Type} {host : Host T} {reply : Reply} {s s' : Shared T} {p p' : Phase} {e : Effect}

/-- What a worker in phase `p` knows is so. -/
structure Phase.Knows (s : Shared T) (p : Phase) : Prop where
  row : ∀ {id : Uuid} {row : ChargeRequest}, p.row? = some (id, row) →
    s.db.created id = some row.asCreated
  sent : ∀ {id : Uuid} {row : ChargeRequest} {mandate : Mandate} {hash : TxHash},
    p = .waiting id row mandate hash →
    ∃ entry executed, s.network.transactions[hash]? = some ⟨chargeArgs row entry, executed⟩
  charged : ∀ {id : Uuid} {row : ChargeRequest} {mandate : Mandate} {receipt : PaymentReceipt}
    {hash : TxHash} {ledger : ℕ}, p = .answered id row mandate (.success receipt hash ledger) →
    ∃ entry executedIn, s.network.transactions[hash]?
      = some ⟨chargeArgs row entry, some ⟨.ok (.payment receipt), executedIn⟩⟩

structure Known (host : Host T) (s : Shared T) (phases : List Phase) : Prop where
  sound : s.network.Sound host
  exclusive : Exclusive s.db (phases.map Phase.owned?)
  keyed : Keyed s.db
  knows : ∀ p ∈ phases, p.Knows s

/-! ## Steps of workers -/

theorem pollResult_success {hash hash' : TxHash} {a : Polled} {receipt : PaymentReceipt}
    {ledger : ℕ} (h : pollResult hash a = .success receipt hash' ledger) :
    hash' = hash ∧ a = .final (.ok receipt) ledger := by
  unfold pollResult at h
  split at h
  · cases h
    exact ⟨rfl, rfl⟩
  all_goals cases h

/-- Polling reports a charge only when there was one. -/
theorem poll_charged {net : Network T} {hash : TxHash} {receipt : PaymentReceipt} {ledger : ℕ}
    (h : net.poll hash = .final (.ok receipt) ledger) : net.Charged hash receipt := by
  unfold Network.poll at h
  split at h
  · cases h
  · split at h
    · rename_i result executedIn hresult
      cases h
      exact Network.result?_ok hresult
    · cases h

/-- Polling that is answered reports a charge when there was one. -/
theorem poll_of_charged {net : Network T} {hash : TxHash} {receipt : PaymentReceipt}
    (h : net.Charged hash receipt) : ∃ ledger, net.poll hash = .final (.ok receipt) ledger := by
  obtain ⟨ledger, hresult⟩ := Network.result?_of_charged h
  obtain ⟨args, executedIn, htx⟩ := h
  exact ⟨ledger, by simp [Network.poll, htx, hresult]⟩

/-- What a worker knows stays so while rows are added and the network goes on. -/
theorem Phase.Knows.frame (h : p.Knows s)
    (hcreated : ∀ id row, s.db.created id = some row → s'.db.created id = some row)
    (hgrows : s.network.Grows s'.network) : p.Knows s' where
  row hrow := hcreated _ _ (h.row hrow)
  sent hp := by
    obtain ⟨entry, executed, htx⟩ := h.sent hp
    obtain ⟨executed', htx', -⟩ := hgrows htx
    exact ⟨entry, executed', htx'⟩
  charged hp := by
    obtain ⟨entry, executedIn, htx⟩ := h.charged hp
    obtain ⟨executed', htx', hsame⟩ := hgrows htx
    rw [hsame rfl] at htx'
    exact ⟨entry, executedIn, htx'⟩

/-- In this phase the worker relies on a transaction. -/
def Phase.relies : Phase → Bool
  | .waiting _ _ _ _ => true
  | .answered _ _ _ result => result.isSuccess
  | _ => false

/-- A phase in which only the row is known. -/
theorem knows_of_row (hrow : ∀ {id row}, p.row? = some (id, row) →
      s.db.created id = some row.asCreated) (hrelies : p.relies = false) : p.Knows s where
  row := hrow
  sent hp := by
    subst hp
    cases hrelies
  charged hp := by
    subst hp
    cases hrelies

/-- A phase in which nothing is known. -/
theorem knows_of_no_row (hrow : p.row? = none) (hrelies : p.relies = false) : p.Knows s :=
  knows_of_row (fun h => by cases hrow.symm.trans h) hrelies

theorem Worked.grows (h : Worked reply s p e s' p') : s.network.Grows s'.network := by
  cases h with
  | unanswered => exact Network.grows_broadcast _ _
  | send => exact Network.grows_broadcast _ _
  | _ => exact Network.Grows.refl _

theorem Worked.sound (h : Worked reply s p e s' p') (hsound : s.network.Sound host) :
    s'.network.Sound host := by
  cases h with
  | unanswered => exact Network.sound_broadcast hsound _
  | send => exact Network.sound_broadcast hsound _
  | _ => exact hsound

theorem Worked.knows (h : Worked reply s p e s' p') (hp : p.Knows s) : p'.Knows s' := by
  have hcreated : ∀ id row, s.db.created id = some row → s'.db.created id = some row := by
    intro id row hrow
    rw [h.passes.created, hrow]
  have hframe : p.Knows s' := hp.frame hcreated h.grows
  cases h with
  | idle => exact hframe
  | ended => exact knows_of_no_row rfl rfl
  | find id row hstored =>
      refine knows_of_row ?_ rfl
      rintro _ _ ⟨⟩
      rw [Db.created, hstored]
      rfl
  | claim id row db _ => exact knows_of_row hframe.row rfl
  | mandateRead id row mandate _ => exact knows_of_row hframe.row rfl
  | expire => exact hframe
  | simulate id row mandate db _ => exact knows_of_row hframe.row rfl
  | submit id row mandate db _ => exact knows_of_row hframe.row rfl
  | unsent id row mandate entry reason => exact knows_of_row hframe.row rfl
  | unanswered id row mandate entry reason => exact knows_of_row hframe.row rfl
  | send id row mandate entry =>
      -- the hash is the transaction's place in the list it was just put at the end of
      refine ⟨hframe.row, ?_, fun heq => by cases heq⟩
      rintro _ _ _ _ ⟨⟩
      refine ⟨entry, none, ?_⟩
      show (s.network.transactions ++ [_])[s.network.transactions.length]? = _
      exact List.getElem?_concat_length
  | poll id row mandate hash =>
      refine ⟨hframe.row, fun heq => (by cases heq), ?_⟩
      intro id' row' mandate' receipt hash' ledger heq
      obtain ⟨rfl, rfl, rfl, hresult⟩ := Phase.answered.inj heq
      obtain ⟨rfl, hpoll⟩ := pollResult_success hresult
      obtain ⟨args, executedIn, htx⟩ := poll_charged hpoll
      -- the transaction is the one the worker has sent
      obtain ⟨entry, executed, hsent⟩ := hp.sent rfl
      have hargs : args = chargeArgs row entry := by
        have := htx.symm.trans hsent
        simp only [Option.some.injEq, Transaction.mk.injEq] at this
        exact this.1
      exact ⟨entry, executedIn, hargs ▸ htx⟩
  | pollFailed id row mandate hash _ => exact knows_of_row hframe.row rfl
  | setHash => exact hframe
  | retry => exact knows_of_no_row rfl rfl
  | giveUp => exact knows_of_no_row rfl rfl
  | succeed => exact knows_of_no_row rfl rfl

/-! ## Everything else -/

theorem Happens.grows {action : Action T} (h : Happens host s action s') :
    s.network.Grows s'.network := by
  cases h with
  | apart _ _ _ _ _ _ htransactions =>
      intro hash args executed htx
      exact ⟨executed, by rw [htransactions, htx], fun _ => rfl⟩
  | execute hash authorized => exact Network.grows_execute host _ hash authorized
  | chain step => exact fun htx => ⟨_, htx, fun _ => rfl⟩
  | _ => exact Network.Grows.refl _

theorem Happens.sound (hinj : Function.Injective host.sha256) {action : Action T}
    (h : Happens host s action s') (hsound : s.network.Sound host) : s'.network.Sound host := by
  cases h with
  | apart _ _ _ _ _ hledger htransactions =>
      constructor
      · rw [hledger]
        exact hsound.books
      · intro hash args receipt ledger htx
        rw [htransactions] at htx
        rw [hledger]
        exact hsound.receipt htx
  | execute hash authorized => exact Network.sound_execute hinj hsound hash authorized
  | chain step => exact Network.sound_other hinj hsound step
  | _ => exact hsound

/-- The row of a new request. -/
theorem created_insert {db db' : Db} {id : Uuid} {row : ChargeRequest}
    (h : db'.chargeRequests = db.chargeRequests.insert id row) (id' : Uuid) :
    db'.created id' = if id' = id then some row.asCreated else db.created id' := by
  unfold Db.created
  rw [h, FinMap.lookup_insert]
  split <;> rfl

theorem Happens.created {action : Action T} (h : Happens host s action s') {id : Uuid}
    {row : ChargeRequest} (hrow : s.db.created id = some row) : s'.db.created id = some row := by
  cases h with
  | apart _ _ hrequests _ _ _ _ => rw [(sameRequests_of_eq hrequests).created, hrow]
  | recover => exact (created_recover _ _ _).trans hrow
  | complete authorizationId id' ciphertext db hdb =>
      obtain ⟨authorization, -, hfresh, -, hrequests, -, -⟩ := completeChargeAuthorization_ok hdb
      have hne : id ≠ id' := by
        rintro rfl
        rw [Db.created, hfresh] at hrow
        cases hrow
      show db.created id = some row
      rw [created_insert hrequests, if_neg hne, hrow]
  | _ => exact hrow

theorem Keyed.congr {db db' : Db} (h : Keyed db) (hsame : ∀ id, db'.created id = db.created id) :
    Keyed db' where
  id_eq hrow := h.id_eq ((hsame _).symm.trans hrow)
  chargeId_inj hrow hrow' := h.chargeId_inj ((hsame _).symm.trans hrow) ((hsame _).symm.trans hrow')

theorem Happens.keyed {action : Action T} (h : Happens host s action s') (hkeyed : Keyed s.db) :
    Keyed s'.db := by
  cases h with
  | apart _ _ hrequests _ _ _ _ => exact hkeyed.congr (sameRequests_of_eq hrequests).created
  | recover => exact hkeyed.congr (created_recover _ _)
  | complete authorizationId id ciphertext db hdb =>
      obtain ⟨authorization, -, -, hcharge, hrequests, -, -⟩ := completeChargeAuthorization_ok hdb
      have hcreated := created_insert hrequests
      -- no stored request has the charge id of the new one
      have hold : ∀ {id' row}, s.db.created id' = some row →
          row.chargeId ≠ authorization.chargeId := by
        intro id' row hrow
        obtain ⟨stored, hstored, rfl⟩ := Option.map_eq_some_iff.mp hrow
        exact hcharge id' stored hstored
      constructor
      · intro id' row hrow
        change db.created id' = some row at hrow
        rw [hcreated] at hrow
        split at hrow
        · rename_i heq
          cases hrow
          exact heq.symm
        · exact hkeyed.id_eq hrow
      · intro id₁ id₂ row₁ row₂ hrow₁ hrow₂ hsame
        change db.created id₁ = some row₁ at hrow₁
        change db.created id₂ = some row₂ at hrow₂
        rw [hcreated] at hrow₁ hrow₂
        split at hrow₁ <;> split at hrow₂
        · rename_i heq₁ heq₂
          rw [heq₁, heq₂]
        · cases hrow₁
          exact absurd hsame.symm (hold hrow₂)
        · cases hrow₂
          exact absurd hsame (hold hrow₁)
        · exact hkeyed.chargeId_inj hrow₁ hrow₂ hsame
  | _ => exact hkeyed

/-- Outside the workers a request is created, or its work is recovered, or its status is kept. -/
theorem Happens.statusOf_cases {action : Action T} (h : Happens host s action s') (id : Uuid) :
    s'.db.statusOf id = s.db.statusOf id ∨
      ((s.db.statusOf id = some .processing ∨ s.db.statusOf id = some .simulated) ∧
        s'.db.statusOf id = some .retryableFailed) ∨
      (s.db.statusOf id = none ∧ s'.db.statusOf id = some .scheduled) := by
  cases h with
  | apart _ _ hrequests _ _ _ _ => exact .inl ((sameRequests_of_eq hrequests).statusOf id)
  | recover =>
      rcases statusOf_recover s.clock s.db id with hsame | hrecovered
      · exact .inl hsame
      · exact .inr (.inl hrecovered)
  | complete authorizationId id' ciphertext db hdb =>
      obtain ⟨hfresh, hstatus⟩ := statusOf_complete hdb
      change db.statusOf id = _ ∨ _ ∨ _ ∧ db.statusOf id = _
      rw [hstatus]
      split
      · rename_i heq
        exact .inr (.inr ⟨heq ▸ hfresh, rfl⟩)
      · exact .inl rfl
  | _ => exact .inl rfl

/-- What happens outside leaves a status as it is, but for work that is not submitted yet. -/
theorem Happens.statusOf {action : Action T} (h : Happens host s action s') {id : Uuid}
    {st : ChargeRequestStatus} (hst : s.db.statusOf id = some st) (hprocessing : st ≠ .processing)
    (hsimulated : st ≠ .simulated) : s'.db.statusOf id = some st := by
  rcases h.statusOf_cases id with hsame | ⟨hopen, -⟩ | ⟨hnone, -⟩
  · exact hsame.trans hst
  · rw [hst] at hopen
    rcases hopen with hopen | hopen
    · exact absurd (Option.some.inj hopen) hprocessing
    · exact absurd (Option.some.inj hopen) hsimulated
  · cases hst.symm.trans hnone

/-! ## Every reachable state -/

theorem Known.worked {phases : List Phase} {i : ℕ} (h : Known host s phases)
    (hp : phases[i]? = some p) (hw : Worked reply s p e s' p') :
    Known host s' (phases.set i p') where
  sound := hw.sound h.sound
  exclusive := by
    rw [List.map_set]
    refine h.exclusive.passes ?_ hw.passes
    rw [List.getElem?_map, hp]
    rfl
  keyed := h.keyed.congr hw.passes.created
  knows q hq := by
    rcases List.mem_or_eq_of_mem_set hq with hq | rfl
    · refine (h.knows q hq).frame (fun id row hrow => ?_) hw.grows
      rw [hw.passes.created, hrow]
    · exact hw.knows (h.knows p (List.mem_of_getElem? hp))

theorem Known.start {phases : List Phase} (h : Known host s phases) (id : Uuid) :
    Known host s (phases ++ [.fresh id]) where
  sound := h.sound
  exclusive := by
    rw [List.map_append]
    exact h.exclusive.start
  keyed := h.keyed
  knows q hq := by
    rcases List.mem_append.mp hq with hq | hq
    · exact h.knows q hq
    · obtain rfl := List.mem_singleton.mp hq
      exact knows_of_no_row rfl rfl

theorem Known.happens (hinj : Function.Injective host.sha256) {phases : List Phase}
    {action : Action T} (h : Known host s phases) (hh : Happens host s action s') :
    Known host s' phases where
  sound := hh.sound hinj h.sound
  exclusive := h.exclusive.frame fun _ hst => hh.statusOf hst (by simp) (by simp)
  keyed := hh.keyed h.keyed
  knows q hq := (h.knows q hq).frame (fun _ _ hrow => hh.created hrow) hh.grows

theorem known_initial (host : Host T) (t₀ : U64) (tok₀ : T) :
    Known host (initial t₀ tok₀).shared [] where
  sound :=
    { books := Registry.books_genesis host t₀ tok₀
      receipt := fun htx => by simp [initial] at htx }
  exclusive :=
    { submitted := fun hi => by simp at hi
      unique := fun hi => by simp at hi }
  keyed :=
    { id_eq := fun hrow => by cases hrow
      chargeId_inj := fun hrow => by cases hrow }
  knows p hp := by cases hp

end

end Paymap.Relayer
