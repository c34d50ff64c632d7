import Paymap.Indexer.Convergence
import Paymap.Registry.Books

set_option autoImplicit false

/-! # The index mirrors the contract

The index knows the mandates from their events, and from what the API reads for a request. Here it is
compared with what the contract stores. On the chain the last event of a mandate always implies the
status of its record, and every event names the parties of the record (`Mirrors`). So do the rows: in
every run each row is of a stored mandate and of its parties; and where the row says what the last event
implies, it says what is stored (`index_mirrors_registry`).
-/

namespace Paymap.Indexer

open Registry (Address BytesN Event Host Mandate MandateStatus Storage)
open Relayer (Uuid)

/-! ## Events and records -/

/-- What the event says of the record is true. -/
structure MandateLifecycleEvent.Describes (event : MandateLifecycleEvent) (m : Mandate) : Prop where
  payer : event.payer = m.payer
  merchant : event.merchant = m.merchant
  created : ∀ asset, event.kind = .mandateCreated asset → asset = m.asset
  completed : ∀ count, event.kind = .mandateCompleted count →
    m.status = .completed ∧ count = m.successfulCharges

structure Mirrors (events : List MandateLifecycleEvent) (s : Storage) : Prop where
  described : ∀ event ∈ events, ∃ m, s.getMandate event.mandateId = some m ∧ event.Describes m
  /-- The last event of a mandate implies its status; without an event there is no record. -/
  status : ∀ id, (events.filter fun event => event.mandateId = id).getLast?.map
    (fun last => eventToStatus last.kind) = (s.getMandate id).map Mandate.status

section

variable {events new : List MandateLifecycleEvent} {s s' : Storage} {id : BytesN} {m' : Mandate}

/-- One record is written. A completed one never is, and the parties stay what they are. -/
theorem Mirrors.write (h : Mirrors events s) (hid : s'.getMandate id = some m')
    (hother : ∀ id', id' ≠ id → s'.getMandate id' = s.getMandate id')
    (hkept : ∀ m, s.getMandate id = some m → m.status ≠ .completed ∧ m'.terms = m.terms)
    (hnew : (new = [] ∧ ∃ m, s.getMandate id = some m ∧ m'.status = m.status) ∨
      ∃ event, new = [event] ∧ event.mandateId = id ∧ event.Describes m' ∧
        eventToStatus event.kind = m'.status) :
    Mirrors (events ++ new) s' := by
  constructor
  · intro event hmem
    rcases List.mem_append.mp hmem with hmem | hmem
    · obtain ⟨m, hm, hdescribes⟩ := h.described event hmem
      by_cases heq : event.mandateId = id
      · rw [heq] at hm ⊢
        obtain ⟨hopen, hterms⟩ := hkept m hm
        refine ⟨m', hid, ?_, ?_, ?_, ?_⟩
        · exact hdescribes.payer.trans (congrArg Registry.Terms.payer hterms).symm
        · exact hdescribes.merchant.trans (congrArg Registry.Terms.merchant hterms).symm
        · intro asset hkind
          exact (hdescribes.created asset hkind).trans (congrArg Registry.Terms.asset hterms).symm
        · intro count hkind
          exact absurd (hdescribes.completed count hkind).1 hopen
      · exact ⟨m, (hother _ heq).trans hm, hdescribes⟩
    · rcases hnew with ⟨rfl, -⟩ | ⟨event', rfl, hof, hdescribes, -⟩
      · cases hmem
      · obtain rfl := List.mem_singleton.mp hmem
        exact ⟨m', hof ▸ hid, hdescribes⟩
  · intro id'
    rw [List.filter_append]
    by_cases heq : id' = id
    · subst heq
      rw [hid, Option.map_some]
      rcases hnew with ⟨rfl, m, hm, hsame⟩ | ⟨event, rfl, hof, -, hstatus⟩
      · rw [List.filter_nil, List.append_nil, h.status, hm, Option.map_some, hsame]
      · rw [List.filter_cons_of_pos (by simpa using hof), List.filter_nil, List.getLast?_concat,
          Option.map_some, hstatus]
    · have hnone : (new.filter fun event => event.mandateId = id') = [] := by
        rcases hnew with ⟨rfl, -⟩ | ⟨event, rfl, hof, -⟩
        · rfl
        · exact List.filter_cons_of_neg (by simpa [hof] using Ne.symm heq)
      rw [hnone, List.append_nil, h.status, hother id' heq]

end

/-! ## A step of the registry -/

/-- The lifecycle events among the entries for these events. -/
def lifecycleOf (id ledger : ℕ) (ok : Bool) (events : List Event) : List MandateLifecycleEvent :=
  (responses id ledger ok events).filterMap EventResponse.lifecycleEvent?

theorem lifecycleOf_failed (id ledger : ℕ) (events : List Event) :
    lifecycleOf id ledger false events = [] := by
  unfold lifecycleOf
  rw [List.filterMap_eq_nil_iff]
  intro raw hmem
  obtain ⟨i, hi⟩ := List.mem_iff_getElem?.mp hmem
  obtain ⟨-, -, hok, -⟩ := getElem?_responses hi
  unfold EventResponse.lifecycleEvent?
  rw [hok]
  rfl

section

variable {T : Type} {host : Host T} {l : Registry.Ledger T} {events : List MandateLifecycleEvent}

theorem mirrors_exec (host : Host T) (hkeyed : l.storage.Keyed) (h : Mirrors events l.storage)
    (step : Registry.Step T) (id ledger : ℕ) :
    Mirrors (events ++ lifecycleOf id ledger true
        ((Registry.exec host l step).events.drop l.events.length))
      (Registry.exec host l step).storage := by
  have hsame : Mirrors (events ++ lifecycleOf id ledger true (l.events.drop l.events.length))
      l.storage := by
    rw [List.drop_length]
    simpa [lifecycleOf, responses] using h
  have hmoved := Registry.moved_exec host l step
  generalize Registry.exec host l step = l' at hmoved
  cases hmoved with
  | closed t now hle => exact hsame
  | tokens t => exact hsame
  | rejected c f _ => exact hsame
  | done c v l' _ heffect =>
      obtain ⟨op, authorized⟩ := c
      cases heffect with
      | created input _ hfresh _ =>
          rw [Registry.createdLedger, List.drop_left]
          have hlookup := Registry.getMandate_createdLedger host l input
          refine h.write ((hlookup _).trans (if_pos rfl)) (fun id' hne => (hlookup id').trans
            (if_neg hne)) (fun m hm => ?_) (.inr ⟨_, rfl, rfl, ?_, rfl⟩)
          · rw [hfresh] at hm
            cases hm
          · exact ⟨rfl, rfl, fun asset hkind => by cases hkind; rfl, fun _ hkind => by cases hkind⟩
      | statusChanged op mandateId m hm _ hallowed =>
          obtain rfl := hkeyed mandateId m hm
          have hopen : m.status ≠ .completed := by
            intro hdone
            rw [Registry.effectiveStatus_terminal (.inl hdone), hdone] at hallowed
            cases op <;> cases hallowed
          rw [Registry.statusLedger, List.drop_left]
          have hlookup := Registry.getMandate_statusLedger op l m.id m
          refine h.write ((hlookup _).trans (if_pos rfl)) (fun id' hne => (hlookup id').trans
            (if_neg hne)) (fun m₀ hm₀ => ?_) (.inr ?_)
          · obtain rfl := Option.some.inj (hm.symm.trans hm₀)
            exact ⟨hopen, rfl⟩
          · -- none of the three is the kind that says more than the parties
            cases op <;> refine ⟨_, rfl, rfl, ⟨rfl, rfl, ?_, ?_⟩, rfl⟩ <;> intro _ hkind <;> cases hkind
      | charged mandateId chargeId amount invoiceHash m period collected t m' hm hc _ ha =>
          obtain rfl := hkeyed mandateId m hm
          have hid : m'.id = m.id := by rw [ha.frame]
          have hactive := (Registry.effectiveStatus_eq_active.mp hc.active).1
          have hstatus := ha.status_eq
          set r := Registry.newReceipt host m' m.id chargeId amount invoiceHash l.timestamp
          have hlookup := Registry.getMandate_chargedLedger l m' period r t
          rw [hid] at hlookup
          rw [show (Registry.chargedLedger l m' period r t).events.drop l.events.length = _ from
            List.drop_left]
          refine h.write ((hlookup _).trans (if_pos rfl)) (fun id' hne => (hlookup id').trans
            (if_neg hne)) (fun m₀ hm₀ => ?_) ?_
          · obtain rfl := Option.some.inj (hm.symm.trans hm₀)
            exact ⟨by simp [hactive], ha.terms_eq⟩
          · by_cases hdone : Registry.becameCompleted m'
            · rw [if_pos hdone] at hstatus ⊢
              refine .inr ⟨_, rfl, rfl, ⟨rfl, rfl, ?_, ?_⟩, hstatus.symm⟩ <;> intro _ hkind <;> cases hkind
              exact ⟨hstatus, rfl⟩
            · rw [if_neg hdone] at hstatus ⊢
              exact .inl ⟨rfl, m, hm, hstatus⟩
      | refunded mandateId paymentId amount refundId m payment total t _ _ _ _ =>
          rw [Registry.refundedLedger, List.drop_left]
          have hnone : ∀ receipt, lifecycleOf id ledger true
              [Registry.refundSucceededEvent payment mandateId receipt total] = [] := fun _ => rfl
          rw [hnone, List.append_nil]
          exact ⟨h.described, h.status⟩

end

/-! ## The chain -/

section

variable {T : Type} {host : Host T} {chain chain' : Chain T}

/-- The lifecycle events of the chain mirror the records of the registry. -/
structure Chain.Mirrored (chain : Chain T) : Prop where
  keyed : chain.ledger.storage.Keyed
  mirrors : Mirrors chain.lifecycleEvents chain.ledger.storage

theorem Chain.lifecycleEvents_publish (chain : Chain T) (ok : Bool) (events : List Event) :
    (chain.publish ok events).lifecycleEvents = chain.lifecycleEvents
      ++ lifecycleOf chain.stream.length (chain.sequence + 1) ok events :=
  List.filterMap_append

theorem Chain.Mirrored.add (h : chain.Mirrored) (host : Host T) (included : Included T) :
    (chain.add host included).Mirrored := by
  cases included with
  | failedCall events =>
      refine ⟨h.keyed, ?_⟩
      show Mirrors (chain.publish false events).lifecycleEvents chain.ledger.storage
      rw [Chain.lifecycleEvents_publish, lifecycleOf_failed, List.append_nil]
      exact h.mirrors
  | step step =>
      refine ⟨(Registry.indexed_exec h.keyed step).2, ?_⟩
      show Mirrors (Chain.publish { chain with ledger := Registry.exec host chain.ledger step } true
        _).lifecycleEvents _
      rw [Chain.lifecycleEvents_publish]
      exact mirrors_exec host h.keyed h.mirrors step _ _

theorem Chain.Mirrored.close (h : chain.Mirrored) (host : Host T) (included : List (Included T)) :
    (chain.close host included).Mirrored := by
  have hall : (included.foldl (Chain.add host) chain).Mirrored := by
    induction included generalizing chain with
    | nil => exact h
    | cons first rest ih => exact ih (h.add host first)
  exact ⟨hall.keyed, hall.mirrors⟩

theorem Chain.genesis_mirrored (t₀ : U64) (tok₀ : T) (sequence : ℕ) :
    (Chain.genesis t₀ tok₀ sequence).Mirrored where
  keyed id m hm := by cases hm
  mirrors :=
    { described := fun event hmem => by cases hmem
      status := fun id => rfl }

/-- An event on the chain has named these parties of the mandate. -/
def Chain.Names (chain : Chain T) (mandateId : BytesN) (payer merchant : Address) : Prop :=
  ∃ event, chain.OnChain event ∧ event.mandateId = mandateId ∧ event.payer = payer ∧
    event.merchant = merchant

theorem Chain.Extends.names (h : chain.Extends chain') {mandateId : BytesN} {payer merchant : Address}
    (hnames : chain.Names mandateId payer merchant) : chain'.Names mandateId payer merchant := by
  obtain ⟨event, hon, hparties⟩ := hnames
  exact ⟨event, h.onChain hon, hparties⟩

theorem Chain.OnChain.names {event : MandateLifecycleEvent} (hon : chain.OnChain event) :
    chain.Names event.mandateId event.payer event.merchant := ⟨event, hon, rfl, rfl, rfl⟩

/-- The parties that were named are those of the record. -/
theorem Chain.Mirrored.parties (h : chain.Mirrored) {mandateId : BytesN} {payer merchant : Address}
    (hnames : chain.Names mandateId payer merchant) :
    ∃ m, chain.ledger.storage.getMandate mandateId = some m ∧ payer = m.payer ∧
      merchant = m.merchant := by
  obtain ⟨event, hon, rfl, rfl, rfl⟩ := hnames
  obtain ⟨m, hm, hdescribes⟩ := h.mirrors.described event (Chain.mem_lifecycleEvents.mpr hon)
  exact ⟨m, hm, hdescribes.payer, hdescribes.merchant⟩

/-- Every stored mandate has a last event, and it implies the status. -/
theorem Chain.Mirrored.exists_last (h : chain.Mirrored) {mandateId : BytesN} {m : Mandate}
    (hm : chain.ledger.storage.getMandate mandateId = some m) :
    ∃ last, chain.lastEventOf mandateId = some last ∧ eventToStatus last.kind = m.status := by
  have hstatus := h.mirrors.status mandateId
  rw [hm, Option.map_some, Option.map_eq_some_iff] at hstatus
  exact hstatus

theorem Chain.Mirrored.names (h : chain.Mirrored) {mandateId : BytesN} {m : Mandate}
    (hm : chain.ledger.storage.getMandate mandateId = some m) :
    chain.Names mandateId m.payer m.merchant := by
  obtain ⟨last, hlast, -⟩ := h.exists_last hm
  obtain ⟨hon, rfl⟩ := Chain.lastEventOf_mem hlast
  obtain ⟨m', hm', hdescribes⟩ :=
    h.mirrors.described last (Chain.mem_lifecycleEvents.mpr hon)
  obtain rfl := Option.some.inj (hm.symm.trans hm')
  exact ⟨last, hon, rfl, hdescribes.payer, hdescribes.merchant⟩

end

/-! ## The rows -/

section

variable {T : Type} {host : Host T} {retention : ℕ} {h ds : List Deed} {s s' : Shared T}

/-- The chain mirrors the records, and the rows name parties that were named on it. -/
structure Faithful (s : Shared T) : Prop where
  chain : s.chain.Mirrored
  rows : ∀ mandateId row, s.db.mandateIndex.lookup mandateId = some row →
    s.chain.Names mandateId row.payerAddress row.merchantAddress

/-- A worker has the parties of a mandate it is about to write from the chain. -/
def Phase.Cites (s : Shared T) : Phase → Prop
  | .refreshing _ mandateId mandate => s.chain.Names mandateId mandate.payer mandate.merchant
  | _ => True

theorem Phase.Cites.later {p : Phase} (hp : p.Cites s) (hext : s.chain.Extends s'.chain) :
    p.Cites s' := by
  cases p with
  | refreshing merchantId mandateId mandate => exact hext.names hp
  | _ => trivial

theorem Faithful.later (hf : Faithful s) (hext : s.chain.Extends s'.chain)
    (hchain : s'.chain.Mirrored) (hindex : s'.db.mandateIndex = s.db.mandateIndex) :
    Faithful s' where
  chain := hchain
  rows mandateId row hrow := hext.names (hf.rows mandateId row (hindex ▸ hrow))

/-- A row after an upsert is the one there was, or has the parties of the event. -/
theorem parties_upsert (now : Relayer.Time) (db : Db) (event : MandateLifecycleEvent)
    (merchantId : Uuid) (assetAddress : Address) {mandateId : BytesN} {row : MandateIndex}
    (hrow : (upsertMandateIndexFromEvent now db event merchantId
      assetAddress).mandateIndex.lookup mandateId = some row) :
    db.mandateIndex.lookup mandateId = some row ∨ (mandateId = event.mandateId ∧
      row.payerAddress = event.payer ∧ row.merchantAddress = event.merchant) := by
  unfold upsertMandateIndexFromEvent at hrow
  split at hrow
  · rw [FinMap.lookup_insert] at hrow
    split at hrow
    · rename_i heq
      cases hrow
      exact .inr ⟨heq, rfl, rfl⟩
    · exact .inl hrow
  · split at hrow
    · rw [FinMap.lookup_insert] at hrow
      split at hrow
      · rename_i heq
        cases hrow
        exact .inr ⟨heq, rfl, rfl⟩
      · exact .inl hrow
    · exact .inl hrow

/-- A refresh writes the parties it has read, or leaves those of the row, or writes the payer alone. -/
theorem parties_refresh (now : Relayer.Time) (db : Db) (mandateId : BytesN) (merchantId : Uuid)
    (mandate : Mandate) (writesPayer : Bool) {mandateId' : BytesN} {row : MandateIndex}
    (hrow : (refreshMandateIndex now db mandateId merchantId mandate
      writesPayer).mandateIndex.lookup mandateId' = some row) :
    (mandateId' = mandateId ∧ row.payerAddress = mandate.payer ∧
        row.merchantAddress = mandate.merchant) ∨
      ∃ row₀, db.mandateIndex.lookup mandateId' = some row₀ ∧
        row.merchantAddress = row₀.merchantAddress ∧
        (row.payerAddress = row₀.payerAddress ∨
          (mandateId' = mandateId ∧ row.payerAddress = mandate.payer)) := by
  unfold refreshMandateIndex at hrow
  split at hrow
  · rw [FinMap.lookup_insert] at hrow
    split at hrow
    · rename_i heq
      cases hrow
      exact .inl ⟨heq, rfl, rfl⟩
    · exact .inr ⟨row, hrow, rfl, .inl rfl⟩
  · rename_i row₀ hrow₀
    rw [FinMap.lookup_insert] at hrow
    split at hrow
    · rename_i heq
      cases hrow
      refine .inr ⟨row₀, heq ▸ hrow₀, rfl, ?_⟩
      cases writesPayer with
      | false => exact .inl rfl
      | true => exact .inr ⟨heq, rfl⟩
    · exact .inr ⟨row, hrow, rfl, .inl rfl⟩

/-- **A worker's step.** -/
theorem Faithful.worked {reply : Reply} {p p' : Phase} {e : Effect} (hf : Faithful s)
    (hknows : p.Knows s) (hcites : p.Cites s) (hw : Worked retention reply s p e s' p' ds) :
    Faithful s' ∧ p'.Cites s' := by
  cases hw with
  | idle => exact ⟨hf, hcites⟩
  | write task event merchantId todo assetAddress =>
      refine ⟨⟨hf.chain, fun mandateId row hrow => ?_⟩, trivial⟩
      rw [transact_eventStatements] at hrow
      rcases parties_upsert _ _ _ _ _ hrow with hbefore | ⟨rfl, hpayer, hmerchant⟩
      · exact hf.rows mandateId row hbefore
      · rw [hpayer, hmerchant]
        exact (hknows.1 event List.mem_cons_self).names
  | create startLedger next hfree => exact ⟨⟨hf.chain, hf.rows⟩, trivial⟩
  | update previous startLedger next hcurrent => exact ⟨⟨hf.chain, hf.rows⟩, trivial⟩
  | mandateRead merchantId mandateId mandate hanswer =>
      refine ⟨hf, ?_⟩
      -- what was read is the record with its effective status
      unfold Registry.getMandate at hanswer
      obtain ⟨stored, hstored, hret⟩ := Tx.bind_ok.mp hanswer
      cases hret
      have hnames := hf.chain.names (Registry.okOr_ok.mp hstored)
      exact hnames
  | refresh merchantId mandateId mandate writesPayer =>
      refine ⟨⟨hf.chain, fun mandateId' row hrow => ?_⟩, trivial⟩
      rcases parties_refresh _ _ _ _ _ _ hrow with
        ⟨rfl, hpayer, hmerchant⟩ | ⟨row₀, hrow₀, hmerchant, hpayer⟩
      · rw [hpayer, hmerchant]
        exact hcites
      · have hnamed := hf.rows mandateId' row₀ hrow₀
        rw [hmerchant]
        rcases hpayer with hpayer | ⟨rfl, hpayer⟩
        · rw [hpayer]
          exact hnamed
        · -- both name the payer of the one record
          obtain ⟨m, hm, hpayer₀, hmerchant₀⟩ := hf.chain.parties hnamed
          obtain ⟨m', hm', hpayer', -⟩ := hf.chain.parties hcites
          obtain rfl := Option.some.inj (hm.symm.trans hm')
          rw [hpayer, hpayer', ← hpayer₀]
          exact hnamed
  | ended => exact ⟨hf, trivial⟩
  | _ => exact ⟨hf, trivial⟩

theorem Faithful.happens (hf : Faithful s) (hsound : s.chain.Sound) (hh : Happens host s s') :
    Faithful s' := by
  cases hh with
  | passes ms => exact ⟨hf.chain, hf.rows⟩
  | closes included =>
      obtain ⟨-, hext⟩ : (s.chain.close host included).Sound ∧
        s.chain.Extends (s.chain.close host included) := Chain.close_sound hsound included
      exact hf.later hext (hf.chain.close host included) rfl
  | registers id walletAddress hfresh => exact ⟨hf.chain, hf.rows⟩
  | enqueues merchantId uuid eventType => exact ⟨hf.chain, hf.rows⟩

/-- The invariant of a run: that of the deliveries, and that of the parties. -/
abbrev Mirroring (q : System T × List Deed) : Prop :=
  Workers.Tracked Move (fun s phases => (Delivered q.2 s ∧ Faithful s) ∧
    ∀ p ∈ phases, Phase.Knows s p ∧ Phase.Cites s p) q.1

theorem mirroring_exec (q : System T × List Deed) (action : Action T) (h : Mirroring q) :
    Mirroring (execNoting host retention q action) := by
  refine @tracked_execNoting T host retention (fun h s => Delivered h s ∧ Faithful s)
    (fun _ s p => Phase.Knows s p ∧ Phase.Cites s p) q action h ?_ ?_ ?_
  · rintro i reply p e k s' p' ds _ _ ⟨hd, hf⟩ ⟨hknows, hcites⟩ hw
    obtain ⟨hd', hknows', hlater⟩ := hd.worked hknows hw
    obtain ⟨hf', hcites'⟩ := hf.worked hknows hcites hw
    exact ⟨⟨hd', hf'⟩, ⟨hknows', hcites'⟩,
      fun p₀ ⟨hknows₀, hcites₀⟩ => ⟨hknows₀.later hlater, hcites₀.later hlater.chain⟩⟩
  · rintro p (_ | _)
    · exact ⟨trivial, trivial⟩
    · exact ⟨trivial, trivial⟩
  · rintro s' hh ⟨hd, hf⟩
    obtain ⟨hd', hlater⟩ := hd.happens hh
    exact ⟨⟨hd', hf.happens hd.sound hh⟩,
      fun p₀ ⟨hknows₀, hcites₀⟩ => ⟨hknows₀.later hlater, hcites₀.later hlater.chain⟩⟩

theorem mirroring_initial (t₀ : U64) (tok₀ : T) (sequence : ℕ) :
    Mirroring (initial t₀ tok₀ sequence, []) :=
  ⟨[], ⟨rfl, fun hi => by cases hi⟩,
    ⟨⟨delivered_initial t₀ tok₀ sequence,
      ⟨Chain.genesis_mirrored t₀ tok₀ sequence, fun mandateId row hrow => by cases hrow⟩⟩,
      fun p hp => by cases hp⟩⟩

theorem faithful_run (host : Host T) (retention : ℕ) (t₀ : U64) (tok₀ : T) (sequence : ℕ)
    (actions : List (Action T)) :
    let s := (run host retention (initial t₀ tok₀ sequence) actions).shared
    Faithful s ∧ ∀ mandateId row, s.db.mandateIndex.lookup mandateId = some row →
      ∃ merchant, Owns s.chain.ledger.storage mandateId merchant ∧
        s.db.merchants.lookup row.merchantId = some merchant := by
  have hrun : Mirroring
      (Runs.run (execNoting host retention) (initial t₀ tok₀ sequence, []) actions) :=
    Runs.run_invariant (P := Mirroring) (fun q action h => mirroring_exec q action h)
      (mirroring_initial t₀ tok₀ sequence) actions
  rw [Runs.run_noting] at hrun
  obtain ⟨phases, -, ⟨hd, hf⟩, -⟩ := hrun
  exact ⟨hf, hd.rows⟩

/-- **The index mirrors the contract.** In every run, every row of the index is of a mandate that the
contract stores, names its payer and its merchant, and belongs to the merchant with that wallet. And in
a run whose steps are orderly for a mandate, as soon as the cursor is past its events, its row has the
status that the contract stores. -/
theorem index_mirrors_registry (host : Host T) (retention : ℕ) (t₀ : U64) (tok₀ : T)
    (sequence : ℕ) (actions : List (Action T)) :
    let s := (run host retention (initial t₀ tok₀ sequence) actions).shared
    (∀ mandateId row, s.db.mandateIndex.lookup mandateId = some row →
      ∃ m, s.chain.ledger.storage.getMandate mandateId = some m ∧ row.payerAddress = m.payer ∧
        row.merchantAddress = m.merchant ∧
        s.db.merchants.lookup row.merchantId = some m.merchant) ∧
    ∀ mandateId m, s.chain.ledger.storage.getMandate mandateId = some m →
      (∀ q ∈ Runs.trace (execNoting host retention) (initial t₀ tok₀ sequence, []) actions,
        Orderly mandateId retention q.1 q.2) →
      ∀ current, s.db.indexerCursor = some current →
        (∀ event, s.chain.OnChain event → event.mandateId = mandateId →
          event.rpcEventId < current.cursor.consumed) →
        ∃ row, s.db.mandateIndex.lookup mandateId = some row ∧ row.status = m.status := by
  intro s
  obtain ⟨hf, howned⟩ := faithful_run host retention t₀ tok₀ sequence actions
  constructor
  · intro mandateId row hrow
    obtain ⟨m, hm, hpayer, hmerchant⟩ := hf.chain.parties (hf.rows mandateId row hrow)
    obtain ⟨merchant, ⟨m', hm', rfl⟩, hregistered⟩ := howned mandateId row hrow
    obtain rfl := Option.some.inj (hm.symm.trans hm')
    exact ⟨m, hm, hpayer, hmerchant, hregistered⟩
  · intro mandateId m hm horderly current hcurrent hpast
    obtain ⟨last, hlast, hstatus⟩ := hf.chain.exists_last hm
    have hrun := @Runs.run_invariant_along _ _ (execNoting host retention) (Converges mandateId)
      (fun q action => Orderly mandateId retention q action)
      (fun q action hstep hq => converges_exec q action hstep hq) (initial t₀ tok₀ sequence, [])
      (converges_initial mandateId t₀ tok₀ sequence) actions horderly
    rw [Runs.run_noting] at hrun
    have hs := converges_settled hrun
    obtain ⟨hon, hof⟩ := Chain.lastEventOf_mem hlast
    have hprocessed := (hs.processed_iff hlast).mp (hs.passed hlast hcurrent (hpast last hon hof))
    obtain ⟨row, hrow, hsays⟩ := hs.settled hlast hprocessed
    exact ⟨row, hrow, hsays.trans hstatus⟩

end

section

open Registry (mockHost mockId)

set_option maxRecDepth 4000 in
/-- The row of the paused mandate, in the run of `laggard`. -/
theorem index_mirrors_registry_mock :
    ∃ m, (run mockHost 9 mockIndexer laggard).shared.chain.ledger.storage.getMandate mockId = some m ∧
      ∃ row, (run mockHost 9 mockIndexer laggard).shared.db.mandateIndex.lookup mockId = some row ∧
        row.status = m.status := by
  obtain ⟨m, hm⟩ : ∃ m, (run mockHost 9 mockIndexer laggard).shared.chain.ledger.storage.getMandate
      mockId = some m := Option.isSome_iff_exists.mp (by decide)
  have horderly : ∀ q ∈ Runs.trace (execNoting mockHost 9) (mockIndexer, []) laggard,
      Orderly mockId 9 q.1 q.2 := by decide
  have hpast : ∀ event ∈ (run mockHost 9 mockIndexer laggard).shared.chain.lifecycleEvents,
      event.mandateId = mockId → event.rpcEventId < 2 := by decide
  refine ⟨m, hm, (index_mirrors_registry mockHost 9 0 Registry.mockFunds 0 laggard).2 mockId m hm
    horderly ⟨1, ⟨2, 1⟩⟩ (by decide) fun event hon hof => ?_⟩
  exact hpast event (Chain.mem_lifecycleEvents.mpr hon) hof

end

end Paymap.Indexer
