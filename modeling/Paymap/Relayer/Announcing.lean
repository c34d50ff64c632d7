import Paymap.Registry.Isolation
import Paymap.Registry.Money
import Paymap.Relayer.Completion

set_option autoImplicit false

/-! # A complete mandate is announced

The worker whose charge completes a mandate says so if the mandate it has read is still the stored
one, up to the status, and if it learns of its charge. `Attentive` demands both of the steps they
depend on: the execution of the transaction, and the polling for it. `lastRead` is what a worker has
read, kept beside the run.
-/

namespace Paymap.Relayer

open Registry (BytesN Host Mandate PaymentReceipt invoke)

/-! ## What has been read -/

structure MandateRead where
  worker : ℕ
  mandateId : BytesN
  mandate : Mandate

/-- What a worker reads of a mandate when an effect is answered so. -/
def readOf (worker : ℕ) : (e : Effect) → Answer e → List MandateRead
  | .getMandate mandateId, answer =>
      match answer with
      | .ok mandate => [⟨worker, mandateId, mandate⟩]
      | .error _ => []
  | _, _ => []

def MandateRead.by? (worker : ℕ) (read : MandateRead) : Option (BytesN × Mandate) :=
  if read.worker = worker then some (read.mandateId, read.mandate) else none

/-- The mandate a worker has read last. -/
def lastRead (h : List MandateRead) (worker : ℕ) : Option (BytesN × Mandate) :=
  (h.filterMap (MandateRead.by? worker)).getLast?

section

variable {T : Type}

def mandateReads (host : Host T) (s : System T) : Action T → List MandateRead
  | .work worker reply =>
      match s.running[worker]? with
      | some (.call e _) => readOf worker e (perform host reply e s.shared).1
      | _ => []
  | _ => []

/-! ## The condition -/

/-- Nobody but the relayer charges the mandate. -/
def OnlyRelayer (host : Host T) (mandateId : BytesN) (s : System T) : Action T → Prop
  | .chain (.call c) => c.op.isCharge = true → c.op.mandateId host = mandateId →
      (invoke host c s.shared.network.ledger).1.isOk = false
  | _ => True

instance (host : Host T) (mandateId : BytesN) (s : System T) :
    (action : Action T) → Decidable (OnlyRelayer host mandateId s action)
  | .chain (.call c) => inferInstanceAs (Decidable (c.op.isCharge = true →
      c.op.mandateId host = mandateId → (invoke host c s.shared.network.ledger).1.isOk = false))
  | .chain (.close _) | .chain (.token _) => .isTrue trivial
  | .start _ | .work .. | .recoverStale | .tick _ | .execute .. | .closeLedgers _
  | .createAuthorization _ | .completeAuthorization .. | .setMerchant ..
  | .setCheckoutSession .. => .isTrue trivial

/-- A worker polls for the transaction, and has read a mandate with this count. -/
def watched (q : System T × List MandateRead) (hash : TxHash) (count : U32) : Bool :=
  (List.range q.1.running.length).any fun worker =>
    q.1.running[worker]?.bind polling? = some hash &&
      (lastRead q.2 worker).any fun read => read.2.successfulCharges = count

/-- When a transaction makes the charge that was missing, its sender polls for it and has read the
count that is stored; and when the sender polls for a charge that it takes for the last one, it is
answered. -/
def Attentive (host : Host T) (mandateId : BytesN) (q : System T × List MandateRead) :
    Action T → Prop
  | .execute hash authorized =>
      ∀ transaction ∈ q.1.shared.network.transactions[hash]?,
        transaction.args.mandateId = mandateId →
        ∀ stored ∈ q.1.shared.network.ledger.storage.getMandate mandateId,
          completesMandate stored = true →
          q.1.shared.network.wouldCharge host hash authorized = true →
            watched q hash stored.successfulCharges = true
  | .work worker reply =>
      ∀ hash ∈ q.1.running[worker]?.bind polling?,
        q.1.shared.network.hasCharged hash = true →
        ∀ read ∈ lastRead q.2 worker, read.1 = mandateId → completesMandate read.2 = true →
          reply.isServed = true
  | _ => True

instance (host : Host T) (mandateId : BytesN) (q : System T × List MandateRead) :
    (action : Action T) → Decidable (Attentive host mandateId q action)
  | .execute hash authorized => inferInstanceAs (Decidable
      (∀ transaction ∈ q.1.shared.network.transactions[hash]?,
        transaction.args.mandateId = mandateId →
        ∀ stored ∈ q.1.shared.network.ledger.storage.getMandate mandateId,
          completesMandate stored = true →
          q.1.shared.network.wouldCharge host hash authorized = true →
            watched q hash stored.successfulCharges = true))
  | .work worker reply => inferInstanceAs (Decidable
      (∀ hash ∈ q.1.running[worker]?.bind polling?,
        q.1.shared.network.hasCharged hash = true →
        ∀ read ∈ lastRead q.2 worker, read.1 = mandateId → completesMandate read.2 = true →
          reply.isServed = true))
  | .start _ | .recoverStale | .tick _ | .chain _ | .closeLedgers _ | .createAuthorization _
  | .completeAuthorization .. | .setMerchant .. | .setCheckoutSession .. => .isTrue trivial

end

/-! ## The reading in a worker's hands -/

section

variable {h reads : List MandateRead} {phases : List Phase} {p p' : Phase}

theorem lastRead_concat (read : MandateRead) (worker : ℕ) :
    lastRead (h ++ [read]) worker = (read.by? worker).or (lastRead h worker) := by
  unfold lastRead
  rw [List.filterMap_append, List.filterMap_cons]
  cases read.by? worker with
  | none => simp
  | some found => simp

/-- What a worker's step reads, and what the worker holds afterwards. -/
inductive Reads (worker : ℕ) (p p' : Phase) : List MandateRead → Prop where
  | none (held : ∀ {read}, p'.reading? = some read → p.reading? = some read) :
      Reads worker p p' []
  | one (id : BytesN) (mandate : Mandate) (held : p'.reading? = some (id, mandate)) :
      Reads worker p p' [⟨worker, id, mandate⟩]

theorem readOf_read {worker : ℕ} {e : Effect} (h : e.isRead = true) (a : Answer e) :
    readOf worker e a = [] := by
  cases e with
  | findMerchant => rfl
  | findCheckoutSession => rfl
  | findChargeAuthorization => rfl
  | getLatestLedgerSequence => rfl
  | simulateCharge => rfl
  | _ => cases h

theorem reads_of_move {worker : ℕ} {e : Effect} {a : Answer e} (h : Move p e a p') :
    Reads worker p p' (readOf worker e a) := by
  cases h with
  | now => exact .none fun hread => hread
  | read id row mandate e a hreads =>
      rw [readOf_read hreads]
      exact .none fun hread => hread
  | mandateUnread => exact .none fun hread => hread
  | mandateRead id row mandate => exact .one _ mandate rfl
  | expire => exact .none fun hread => hread
  | simulate => exact .none fun hread => hread
  | submit => exact .none fun hread => hread
  | sendFailed => exact .none fun hread => hread
  | send => exact .none fun hread => hread
  | poll => exact .none fun hread => hread
  | setHash => exact .none fun hread => hread
  | _ => exact .none fun hread => by cases hread

/-- Each worker holds what it has read last. -/
def Holds (h : List MandateRead) (phases : List Phase) : Prop :=
  ∀ (i : ℕ) (p : Phase) (read : BytesN × Mandate), phases[i]? = some p →
    p.reading? = some read → lastRead h i = some read

theorem Holds.worked {i : ℕ} (hholds : Holds h phases) (hp : phases[i]? = some p)
    (hreads : Reads i p p' reads) : Holds (h ++ reads) (phases.set i p') := by
  intro j q read hq hread
  cases hreads with
  | none hheld =>
      rw [List.append_nil]
      rcases Workers.getElem?_set_cases hq with ⟨rfl, rfl⟩ | ⟨-, hold⟩
      · exact hholds _ p read hp (hheld hread)
      · exact hholds j q read hold hread
  | one id mandate hheld =>
      rw [lastRead_concat, MandateRead.by?]
      rcases Workers.getElem?_set_cases hq with ⟨rfl, rfl⟩ | ⟨hne, hold⟩
      · rw [if_pos rfl, Option.some_or]
        exact hheld.symm.trans hread
      · rw [if_neg hne.symm, Option.none_or]
        exact hholds j q read hold hread

theorem Holds.start (hholds : Holds h phases) (id : Uuid) : Holds h (phases ++ [.fresh id]) := by
  intro j q read hq hread
  rw [List.getElem?_append] at hq
  split at hq
  · exact hholds j q read hq hread
  · obtain rfl := List.mem_singleton.mp (List.mem_of_getElem? hq)
    cases hread

end

/-! ## The invariant -/

section

variable {T : Type} {host : Host T} {reply : Reply} {s s' : Shared T} {p p' : Phase} {e : Effect}
  {mandateId : BytesN} {phases : List Phase} {h reads : List MandateRead}

/-- A complete mandate is announced, or will be by the one that has its last request. -/
structure Announced (mandateId : BytesN) (h : List MandateRead) (s : Shared T)
    (phases : List Phase) : Prop where
  counted : Counted mandateId s phases
  holds : Holds h phases
  announced : s.network.Completed mandateId → s.db.completions mandateId ≠ 0 ∨
    ∃ id row, s.db.created id = some row ∧ row.mandateId = mandateId ∧
      s.db.statusOf id = some .submitted ∧
      ∀ p ∈ phases, p.owned? = some id → p.Announces s.network mandateId

/-- A worker that was to announce and gives up its submission has announced. -/
theorem Worked.announced (hw : Worked reply s p e s' p') {id : Uuid} (howned : p.owned? = some id)
    (howned' : p'.owned? = none) (hannounces : p.Announces s.network mandateId) :
    s.db.SameRequests s'.db ∨ s'.db.completions mandateId ≠ 0 := by
  obtain ⟨hreports, mandate, hread, hlast⟩ := hannounces
  cases hw with
  | ended => exact .inl (.refl _)
  | retry p id' row source classified now nextAttemptAt db hfails _ hdb =>
      cases hfails with
      | working => cases howned
      | answered id' row mandate' result hfailure => cases hfailure.symm.trans hreports
  | giveUp p id' row source classified now db hfails _ hdb =>
      cases hfails with
      | working => cases howned
      | answered id' row mandate' result hfailure => cases hfailure.symm.trans hreports
  | succeed id' row mandate' receipt txHash ledger now db hdb =>
      obtain ⟨hof, rfl⟩ := Prod.mk.inj (Option.some.inj hread)
      have hcount : db.completions mandateId = _ + completionsIn mandateId _ :=
        completions_transact hdb
      rw [completionsIn_recordSuccess, if_pos ⟨hof, hlast⟩] at hcount
      refine .inr ?_
      show db.completions mandateId ≠ 0
      omega
  | idle => cases howned.symm.trans howned'
  | unsent => cases howned'
  | unanswered => cases howned'
  | send => cases howned'
  | poll => cases howned'
  | pollFailed => cases howned'
  | setHash => cases howned'
  | _ => cases howned

theorem Announced.worked {i : ℕ} (ha : Announced mandateId h s phases) (hp : phases[i]? = some p)
    (hw : Worked reply s p e s' p') (hreads : Reads i p p' reads)
    (hanswered : ∀ hash receipt, e = .pollTransaction hash → s.network.Charged hash receipt →
      ∀ mandate, lastRead h i = some (mandateId, mandate) → completesMandate mandate = true →
        reply.isServed = true) :
    Announced mandateId (h ++ reads) s' (phases.set i p') where
  counted := ha.counted.worked hp hw
  holds := ha.holds.worked hp hreads
  announced hdone := by
    rw [Network.Completed, hw.ledger_eq] at hdone
    rcases ha.announced hdone with hsome | ⟨id, row, hrow, hof, hst, howners⟩
    · have hcount : s'.db.completions mandateId = s.db.completions mandateId ∨
          (p.Announces s.network mandateId ∧ p' = .over ∧
            s'.db.completions mandateId = s.db.completions mandateId + 1) := hw.completions
      exact .inl (by omega)
    · have hself : p.owned? = some id → p'.owned? = some id → p.Announces s.network mandateId →
          p'.Announces s'.network mandateId := by
        rintro howned howned' ⟨hreports, mandate, hread, hlast⟩
        have hreports' : p'.Reports s'.network := by
          refine hw.reports howned howned' hreports fun hash receipt he hcharged => ?_
          exact hanswered hash receipt he hcharged mandate (ha.holds i p _ hp hread) hlast
        exact ⟨hreports', mandate, (hw.reported hreports').2.symm.trans hread, hlast⟩
      rcases hw.submitted hp hst howners (fun q hq => hq.grows hw.grows) hself with
        ⟨hst', howners'⟩ | ⟨howned, howned', hannounces, hchanged⟩
      · exact .inr ⟨id, row, (hw.passes.created id).trans hrow, hof, hst', howners'⟩
      · rcases hw.announced howned howned' hannounces with hsame | hsome
        · exact absurd hsame hchanged
        · exact .inl hsome

theorem Announced.start (ha : Announced mandateId h s phases) (id : Uuid) :
    Announced mandateId h s (phases ++ [.fresh id]) where
  counted := ha.counted.start id
  holds := ha.holds.start id
  announced hdone := by
    rcases ha.announced hdone with hsome | ⟨id', row, hrow, hof, hst, howners⟩
    · exact .inl hsome
    · refine .inr ⟨id', row, hrow, hof, hst, fun q hq hqowned => ?_⟩
      rcases List.mem_append.mp hq with hq | hq
      · exact howners q hq hqowned
      · obtain rfl := List.mem_singleton.mp hq
        cases hqowned

/-- Outside the workers a mandate is completed by a call of somebody else, or by a transaction that
makes the charge that was missing. -/
theorem Happens.completed {action : Action T} (hb : Registry.Books host s.network.ledger)
    (hh : Happens host s action s') (hdone : s'.network.Completed mandateId) :
    s.network.Completed mandateId ∨
      (∃ c receipt, action = .chain (.call c) ∧ receipt.mandateId = mandateId ∧
        (invoke host c s.network.ledger).1 = .ok (.payment receipt)) ∨
      ∃ hash authorized m receipt, action = .execute hash authorized ∧
        s'.network = s.network.execute host hash authorized ∧
        s.network.ledger.storage.getMandate mandateId = some m ∧ completesMandate m = true ∧
        s.network.Charges host hash authorized receipt ∧ receipt.mandateId = mandateId := by
  obtain ⟨m', hm', hstatus⟩ := hdone
  cases hh with
  | apart _ _ _ _ _ hledger _ =>
      rw [hledger] at hm'
      exact .inl ⟨m', hm', hstatus⟩
  | chain step =>
      rcases Registry.completed_exec hb step hm' hstatus with hold | ⟨m, c, receipt, hm, hcounts, rfl,
        hout, hof⟩
      · exact .inl ⟨m', hold, hstatus⟩
      · exact .inr (.inl ⟨c, receipt, rfl, hof, hout⟩)
  | execute hash authorized =>
      change (s.network.execute host hash authorized).ledger.storage.getMandate _ = _ at hm'
      rcases s.network.execute_cases host hash authorized with heq | ⟨args, c, htx, hcall, heq⟩
      · rw [heq] at hm'
        exact .inl ⟨m', hm', hstatus⟩
      · rw [heq] at hm'
        rcases Registry.completed_exec hb (.call c) hm' hstatus with hold | ⟨m, c', receipt, hm,
          hcounts, hstep, hout, hof⟩
        · exact .inl ⟨m', hold, hstatus⟩
        · cases hstep
          have hcap := congrArg MachineInt.val hcounts.cap_eq
          have hcount := hcounts.count_eq
          have hfull := hcounts.completed_iff.mp hstatus
          have hcapped := m.maxSuccessfulCharges.lo_le
          have hlast : completesMandate m = true := completesMandate_iff.mpr (by omega)
          exact .inr (.inr ⟨hash, authorized, m, receipt, rfl, rfl, hm, hlast,
            ⟨args, c, htx, hcall, hout⟩, hof⟩)
  | recover => exact .inl ⟨m', hm', hstatus⟩
  | complete authorizationId id ciphertext db hdb => exact .inl ⟨m', hm', hstatus⟩

/-- Somebody polls for the transaction, and has read the mandate with this count. -/
theorem watched_iff {q : System T × List MandateRead} {hash : TxHash} {count : U32} :
    watched q hash count = true ↔ ∃ i w read, q.1.running[i]? = some w ∧ polling? w = some hash ∧
      lastRead q.2 i = some read ∧ read.2.successfulCharges = count := by
  unfold watched
  rw [List.any_eq_true]
  constructor
  · rintro ⟨i, -, hboth⟩
    rw [Bool.and_eq_true, decide_eq_true_eq, Option.bind_eq_some_iff, Option.any_eq_true] at hboth
    obtain ⟨⟨w, hi, hpolling⟩, read, hread, hcount⟩ := hboth
    exact ⟨i, w, read, hi, hpolling, hread, of_decide_eq_true hcount⟩
  · rintro ⟨i, w, read, hi, hpolling, hread, hcount⟩
    refine ⟨i, List.mem_range.mpr (List.getElem?_eq_some_iff.mp hi).1, ?_⟩
    rw [Bool.and_eq_true, decide_eq_true_eq, Option.bind_eq_some_iff, Option.any_eq_true]
    exact ⟨⟨w, hi, hpolling⟩, read, hread, decide_eq_true hcount⟩

/-- **The sender announces.** When the transaction that makes the missing charge is watched, one of
the workers that wait for it announces. -/
theorem Announced.sender {q : System T × List MandateRead} {hash : TxHash}
    {authorized : List Registry.Address} {m : Mandate} {receipt : PaymentReceipt}
    (ha : Announced mandateId q.2 q.1.shared phases)
    (hin : Workers.InPhase Move phases q.1.running) (hk : Known host q.1.shared phases)
    (hm : q.1.shared.network.ledger.storage.getMandate mandateId = some m)
    (hlast : completesMandate m = true)
    (hcharges : q.1.shared.network.Charges host hash authorized receipt)
    (hof : receipt.mandateId = mandateId)
    (hwatched : watched q hash m.successfulCharges = true) :
    ∃ (i : ℕ) (id : Uuid) (row : ChargeRequest) (mandate : Mandate),
      phases[i]? = some (.waiting id row mandate hash) ∧ row.mandateId = mandateId ∧
      Phase.Announces
        (q.1.shared.network.execute host hash authorized) mandateId
        (.waiting id row mandate hash) := by
  obtain ⟨i, w, read, hi, hpolling, hread, hcount⟩ := watched_iff.mp hwatched
  obtain ⟨id, row, mandate, hp⟩ := waiting_of_polling hin hi hpolling
  have hmem := List.mem_of_getElem? hp
  obtain ⟨entry, executed, hsent⟩ := (hk.knows _ hmem).sent rfl
  have hrow : row.mandateId = mandateId := (hcharges.ids hsent).1.symm.trans hof
  have hheld : (Phase.waiting id row mandate hash).reading? = some (mandateId, mandate) := by
    rw [← hrow]
    rfl
  -- what it holds is what it has read last, and the cap has not changed since
  obtain rfl : read = (mandateId, mandate) :=
    Option.some.inj (hread.symm.trans (ha.holds i _ _ hp hheld))
  obtain ⟨stored, hstored, hadvances⟩ := ha.counted.readings _ hmem mandate hheld
  obtain rfl : m = stored := Option.some.inj (hm.symm.trans hstored)
  have hcap := congrArg MachineInt.val hadvances.cap_eq
  have hsame := congrArg MachineInt.val hcount
  have hmissing := completesMandate_iff.mp hlast
  dsimp only at hsame
  have hreads : completesMandate mandate = true := completesMandate_iff.mpr (by omega)
  exact ⟨i, id, row, mandate, hp, hrow, ⟨receipt, hcharges.charged⟩, mandate, hheld, hreads⟩

theorem Announced.happens {q : System T × List MandateRead} {action : Action T}
    (ha : Announced mandateId q.2 q.1.shared phases)
    (hin : Workers.InPhase Move phases q.1.running) (hk : Known host q.1.shared phases)
    (hh : Happens host q.1.shared action s') (honly : OnlyRelayer host mandateId q.1 action)
    (hattentive : Attentive host mandateId q action) : Announced mandateId q.2 s' phases where
  counted := ha.counted.happens hk hh
  holds := ha.holds
  announced hdone := by
    rcases hh.completed hk.sound.books hdone with hbefore | ⟨c, receipt, rfl, hof, hout⟩ |
      ⟨hash, authorized, m, receipt, rfl, hnetwork, hm, hlast, hcharges, hof⟩
    · rcases ha.announced hbefore with hsome | ⟨id, row, hrow, hrowof, hst, howners⟩
      · refine .inl ?_
        rwa [Db.completions, hh.quiet.deliveries]
      · refine .inr ⟨id, row, hh.created hrow, hrowof, hh.statusOf hst (by simp) (by simp), ?_⟩
        exact fun p hmem howned => (howners p hmem howned).grows hh.grows
    · -- somebody else has charged, which is excluded
      have hop := (Registry.newReceipt_of_payment hout).op_eq
      have hfails := honly (by rw [hop]; rfl) (by rw [hop]; exact hof)
      rw [hout] at hfails
      cases hfails
    · have hsent : ∃ args, q.1.shared.network.transactions[hash]? = some ⟨args, none⟩ := by
        obtain ⟨args, c, htx, -⟩ := hcharges
        exact ⟨args, htx⟩
      obtain ⟨args, htx⟩ := hsent
      have hwatched := hattentive _ htx ((hcharges.ids htx).1.symm.trans hof) m hm hlast
        hcharges.wouldCharge
      obtain ⟨i, id, row, mandate, hp, hrow, hannounces⟩ :=
        ha.sender hin hk hm hlast hcharges hof hwatched
      have hst : q.1.shared.db.statusOf id = some .submitted := by
        refine hk.exclusive.submitted (i := i) ?_
        rw [List.getElem?_map, hp, Option.map_some]
        rfl
      have hknows := hk.knows _ (List.mem_of_getElem? hp)
      refine .inr ⟨id, row.asCreated, hh.created (hknows.row rfl), hrow,
        hh.statusOf hst (by simp) (by simp), ?_⟩
      rw [hnetwork]
      exact hk.exclusive.all hp rfl hannounces

theorem announced_exec (hinj : Function.Injective host.sha256) (deps : PipelineDeps)
    (q : System T × List MandateRead) (action : Action T)
    (honly : OnlyRelayer host mandateId q.1 action) (hattentive : Attentive host mandateId q action)
    (ha : Workers.Tracked Move
      (fun s phases => Known host s phases ∧ Announced mandateId q.2 s phases) q.1) :
    Workers.Tracked Move
      (fun s phases => Known host s phases ∧
        Announced mandateId (q.2 ++ mandateReads host q.1 action) s phases)
      (exec host deps q.1 action) := by
  cases action with
  | start id =>
      simp only [mandateReads, List.append_nil]
      exact ha.start (processChargeRequest_obeys deps id)
        fun phases hold => ⟨hold.1.start id, hold.2.start id⟩
  | work i reply =>
      refine ha.work_to (fun phases p e k p' hold hp hk hmove => ?_) fun hnone phases hold => ?_
      · have hreads : mandateReads host q.1 (.work i reply)
            = readOf i e (perform host reply e q.1.shared).1 := by
          rw [mandateReads, hk]
        rw [hreads]
        have hw := worked_of_move hmove
        refine ⟨hold.1.worked hp hw, hold.2.worked hp hw (reads_of_move hmove) ?_⟩
        rintro hash receipt rfl hcharged mandate hread hlast
        refine hattentive hash ?_ ?_ _ hread rfl hlast
        · rw [hk]
          rfl
        · obtain ⟨ledger, hresult⟩ := Network.result?_of_charged hcharged
          rw [Network.hasCharged, hresult]
      · have hreads : mandateReads host q.1 (.work i reply) = [] := by
          rw [mandateReads]
          split
          · rename_i e k hk
            exact absurd hk (hnone e k)
          · rfl
        rw [hreads, List.append_nil]
        exact hold
  | _ =>
      simp only [mandateReads, List.append_nil]
      refine ha.outside fun phases hin hold => ?_
      exact ⟨hold.1.happens hinj (happens_outside host _ _),
        hold.2.happens hin hold.1 (happens_outside host _ _) honly hattentive⟩

theorem announced_initial (mandateId : BytesN) (t₀ : U64) (tok₀ : T) :
    Announced mandateId [] (initial t₀ tok₀).shared [] where
  counted := counted_initial mandateId t₀ tok₀
  holds i p read hp := by simp at hp
  announced hdone := by
    obtain ⟨m, hm, -⟩ := hdone
    cases hm

end

end Paymap.Relayer
