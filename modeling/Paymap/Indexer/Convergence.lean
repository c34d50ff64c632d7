import Paymap.Indexer.Deliveries
import Paymap.Indexer.Gaps

set_option autoImplicit false

/-! # What the mandate index comes to

The status of a row is that of the event written last, and the guard of the upsert keeps an event
out only when the row was indexed at a later ledger. Events of one mandate that share a ledger are
not told apart: the older one, written again by an instance that is behind, takes the row back to
what it said before. And the cache refresh of the API writes what it has read, whatever was indexed
since.

`Orderly` rules out what can set the row wrong for good, and under it the row of a mandate says what
the mandate's last event implies as soon as the cursor has passed all its events
(`index_converges`). `backslide` is a run in which it does not.
-/

namespace Paymap.Indexer

open Registry (Address BytesN Host Mandate)
open Relayer (Uuid Time)

section

variable {T : Type} {host : Host T} {retention : ℕ}

/-! ## The last event of a mandate -/

def Chain.lifecycleEvents (chain : Chain T) : List MandateLifecycleEvent :=
  chain.stream.filterMap EventResponse.lifecycleEvent?

def Chain.lastEventOf (chain : Chain T) (mandateId : BytesN) : Option MandateLifecycleEvent :=
  (chain.lifecycleEvents.filter fun event => event.mandateId = mandateId).getLast?

section

variable {chain chain' : Chain T} {mandateId : BytesN} {event last : MandateLifecycleEvent}

theorem Chain.mem_lifecycleEvents : event ∈ chain.lifecycleEvents ↔ chain.OnChain event :=
  List.mem_filterMap

theorem Chain.mem_eventsOf :
    event ∈ chain.lifecycleEvents.filter (fun event => event.mandateId = mandateId) ↔
      chain.OnChain event ∧ event.mandateId = mandateId := by
  rw [List.mem_filter, mem_lifecycleEvents, decide_eq_true_iff]

theorem Chain.lastEventOf_mem (h : chain.lastEventOf mandateId = some last) :
    chain.OnChain last ∧ last.mandateId = mandateId :=
  mem_eventsOf.mp (List.mem_of_getLast? h)

/-- The ids go up along the stream. -/
theorem Chain.pairwise_lifecycleEvents (hsound : chain.Sound) :
    chain.lifecycleEvents.Pairwise fun a b => a.rpcEventId < b.rpcEventId := by
  have hids : chain.stream.Pairwise fun a b => a.id < b.id := by
    rw [List.pairwise_iff_getElem]
    intro i j hi hj hlt
    rw [hsound.ids (List.getElem?_eq_getElem hi), hsound.ids (List.getElem?_eq_getElem hj)]
    exact hlt
  refine hids.filterMap _ fun a b hlt event hevent event' hevent' => ?_
  rw [(lifecycleEvent?_fields hevent).1, (lifecycleEvent?_fields hevent').1]
  exact hlt

/-- No event of the mandate is later. -/
theorem Chain.le_lastEventOf (hsound : chain.Sound) (h : chain.lastEventOf mandateId = some last)
    (hon : chain.OnChain event) (hof : event.mandateId = mandateId) :
    event.rpcEventId ≤ last.rpcEventId := by
  obtain ⟨before, hsplit⟩ := List.getLast?_eq_some_iff.mp h
  have hordered := (pairwise_lifecycleEvents hsound).sublist
    (List.filter_sublist (p := fun event => decide (event.mandateId = mandateId)))
  have hmem := mem_eventsOf.mpr ⟨hon, hof⟩
  rw [hsplit] at hordered hmem
  rcases List.mem_append.mp hmem with hmem | hmem
  · have hlt := (List.pairwise_append.mp hordered).2.2 event hmem last List.mem_cons_self
    exact hlt.le
  · rw [List.mem_singleton.mp hmem]

/-- The last event was the last one before too, or it is new. -/
theorem Chain.Extends.lastEventOf (hext : chain.Extends chain') (hsound : chain.Sound)
    (hsound' : chain'.Sound) (h : chain'.lastEventOf mandateId = some last) :
    chain.lastEventOf mandateId = some last ∨
      (¬ chain.OnChain last ∧ chain.stream.length ≤ last.rpcEventId) := by
  obtain ⟨hon', hof⟩ := lastEventOf_mem h
  rcases hext.onChain_cases hsound' hon' with hon | ⟨hnew, -⟩
  · left
    cases hbefore : chain.lastEventOf mandateId with
    | none =>
        have hmem := mem_eventsOf.mpr ⟨hon, hof⟩
        rw [List.getLast?_eq_none_iff.mp hbefore] at hmem
        cases hmem
    | some last' =>
        obtain ⟨hon₁, hof₁⟩ := lastEventOf_mem hbefore
        have hle := le_lastEventOf hsound hbefore hon hof
        have hge := le_lastEventOf hsound' h (hext.onChain hon₁) hof₁
        rw [hon.eq_of_id hsound hon₁ (Nat.le_antisymm hle hge)]
  · refine .inr ⟨fun hon => ?_, hnew⟩
    have hlt := hon.lt_length hsound
    omega

end

/-! ## The guard of the upsert -/

/-- The row of the event's mandate was indexed at a later ledger. -/
def Db.IndexedAfter (db : Db) (event : MandateLifecycleEvent) : Prop :=
  ∃ row ledger, db.mandateIndex.lookup event.mandateId = some row ∧
    row.lastIndexedLedger = some ledger ∧ event.ledger < ledger

section

variable {db : Db} {event : MandateLifecycleEvent}

theorem upsert_of_indexedAfter (now : Time) (merchantId : Uuid) (assetAddress : Address)
    (h : db.IndexedAfter event) :
    upsertMandateIndexFromEvent now db event merchantId assetAddress = db := by
  obtain ⟨row, ledger, hrow, hledger, hlt⟩ := h
  simp [upsertMandateIndexFromEvent, hrow, hledger, hlt]

/-- An event that is not kept out is written, and the row is another one afterwards. -/
theorem upsert_of_not_indexedAfter (now : Time) (merchantId : Uuid) (assetAddress : Address)
    (h : ¬ db.IndexedAfter event) :
    ∃ row, (upsertMandateIndexFromEvent now db event merchantId
        assetAddress).mandateIndex.lookup event.mandateId = some row ∧
      row.status = eventToStatus event.kind ∧ row.lastIndexedLedger = some event.ledger ∧
      db.mandateIndex.lookup event.mandateId ≠ some row := by
  unfold upsertMandateIndexFromEvent
  split
  · rename_i hnone
    refine ⟨_, by rw [FinMap.lookup_insert, if_pos rfl], rfl, rfl, ?_⟩
    rw [hnone]
    exact (Option.some_ne_none _).symm
  · rename_i row hrow
    have hadmitted : row.lastIndexedLedger.all (· ≤ event.ledger) = true := by
      rw [Option.all_eq_true_iff_get]
      intro hsome
      by_contra hlater
      refine h ⟨row, _, hrow, (Option.some_get hsome).symm, ?_⟩
      simpa using hlater
    rw [if_pos hadmitted]
    refine ⟨_, by rw [FinMap.lookup_insert, if_pos rfl], rfl, rfl, fun hsame => ?_⟩
    -- the version of the row has been counted up
    rw [hrow] at hsame
    have hversion := congrArg MandateIndex.contractStateVersion (Option.some.inj hsame)
    simp at hversion

theorem lookup_upsert_of_ne (now : Time) (merchantId : Uuid) (assetAddress : Address)
    {mandateId : BytesN} (hne : event.mandateId ≠ mandateId) :
    (upsertMandateIndexFromEvent now db event merchantId
      assetAddress).mandateIndex.lookup mandateId = db.mandateIndex.lookup mandateId := by
  unfold upsertMandateIndexFromEvent
  split
  · rw [FinMap.lookup_insert, if_neg hne.symm]
  · split
    · rw [FinMap.lookup_insert, if_neg hne.symm]
    · rfl

end

/-! ## The condition -/

instance (h : List Deed) (event : MandateLifecycleEvent) : Decidable (Processed h event) := by
  unfold Processed
  infer_instance

def Reply.isServed : Reply → Bool
  | .served _ => true
  | .failed _ => false

/-- The effect a step has performed, and what becomes of it. -/
def performed (s : System T) : Action T → Option (Effect × Reply)
  | .work worker reply =>
      match s.running[worker]? with
      | some (.call e _) => some (e, reply)
      | _ => none
  | _ => none

theorem performed_eq_some {s : System T} {action : Action T} {e : Effect} {reply : Reply}
    (h : performed s action = some (e, reply)) :
    ∃ worker k, action = .work worker reply ∧ s.running[worker]? = some (.call e k) := by
  unfold performed at h
  split at h
  · rename_i worker reply'
    split at h
    · rename_i e' k hk
      obtain ⟨rfl, rfl⟩ := Prod.mk.inj (Option.some.inj h)
      exact ⟨worker, k, rfl, hk⟩
    · cases h
  · cases h

/-- While an event is the last one of its mandate, no older event of its ledger is written once it
was processed, and no other status from a mandate that was read; and it is neither skipped nor does
the first run start behind it. -/
def Effect.Orderly (mandateId : BytesN) (h : List Deed) (s : Shared T) (reply : Reply) :
    Effect → Prop
  | .transact (.upsertMandateIndex event _ _ :: _) =>
      reply.isServed → event.mandateId = mandateId →
        ∀ last ∈ s.chain.lastEventOf mandateId, Processed h last → last.ledger = event.ledger →
          event = last
  | .refreshMandateIndex mandateId' _ mandate _ =>
      reply.isServed → mandateId' = mandateId →
        ∀ last ∈ s.chain.lastEventOf mandateId, Processed h last →
          mandate.status = eventToStatus last.kind
  | .findEventMerchant event =>
      s.db.merchantOf event.merchant = none → s.chain.lastEventOf mandateId ≠ some event
  | .getEvents (.startLedger startLedger _) =>
      reply.isServed → ∀ last ∈ s.chain.lastEventOf mandateId, startLedger ≤ last.ledger
  | _ => True

instance (mandateId : BytesN) (h : List Deed) (s : Shared T) (reply : Reply) (e : Effect) :
    Decidable (e.Orderly mandateId h s reply) := by
  unfold Effect.Orderly
  split <;> infer_instance

/-- The condition on a step, made in a state and after some deeds. -/
def Orderly (mandateId : BytesN) (retention : ℕ) (q : System T × List Deed) (action : Action T) :
    Prop :=
  (∀ step ∈ performed q.1 action, step.1.Orderly mandateId q.2 q.1.shared step.2) ∧
    KeepsUnread (fun event => event.mandateId = mandateId) retention q action

instance (mandateId : BytesN) (retention : ℕ) (q : System T × List Deed) (action : Action T) :
    Decidable (Orderly mandateId retention q action) := by
  unfold Orderly
  infer_instance

/-! ## The invariant -/

/-- What the row of a mandate says, and what is processed of the mandate's events. -/
structure Settled (mandateId : BytesN) (h : List Deed) (s : Shared T) : Prop where
  onChain : ∀ {event registered}, Deed.processed event registered ∈ h → s.chain.OnChain event
  written : ∀ {event}, Deed.processed event true ∈ h → event.mandateId = mandateId →
    ∃ row ledger, s.db.mandateIndex.lookup mandateId = some row ∧
      row.lastIndexedLedger = some ledger ∧ event.ledger ≤ ledger
  indexed : ∀ {row ledger}, s.db.mandateIndex.lookup mandateId = some row →
    row.lastIndexedLedger = some ledger →
    ∃ event, s.chain.OnChain event ∧ event.mandateId = mandateId ∧ event.ledger = ledger
  unskipped : ∀ {last}, s.chain.lastEventOf mandateId = some last →
    Deed.processed last false ∉ h
  settled : ∀ {last}, s.chain.lastEventOf mandateId = some last → Deed.processed last true ∈ h →
    ∃ row, s.db.mandateIndex.lookup mandateId = some row ∧ row.status = eventToStatus last.kind
  passed : ∀ {last current}, s.chain.lastEventOf mandateId = some last →
    s.db.indexerCursor = some current → last.rpcEventId < current.cursor.consumed →
    Processed h last

/-- A first page that leads past the last event begins no later than it. -/
def Task.Begins (mandateId : BytesN) (s : Shared T) (task : Task) : Prop :=
  task.stored = none → ∀ last, s.chain.lastEventOf mandateId = some last →
    last.rpcEventId < task.next.cursor.consumed → task.startLedger ≤ last.ledger

def Phase.Begins (mandateId : BytesN) (s : Shared T) : Phase → Prop
  | .applying task _ => task.Begins mandateId s
  | .writing task _ _ _ => task.Begins mandateId s
  | _ => True

section

variable {mandateId : BytesN} {h ds : List Deed} {s s' : Shared T}

theorem Settled.processed_iff (hs : Settled mandateId h s) {last : MandateLifecycleEvent}
    (hlast : s.chain.lastEventOf mandateId = some last) :
    Processed h last ↔ Deed.processed last true ∈ h := by
  constructor
  · rintro ⟨registered, hmem⟩
    cases registered with
    | true => exact hmem
    | false => exact absurd hmem (hs.unskipped hlast)
  · exact fun hmem => ⟨true, hmem⟩

/-- The chain goes on, and the row of the mandate and the cursor stay. -/
theorem Settled.later (hs : Settled mandateId h s) (hrows : Rows h s)
    (hext : s.chain.Extends s'.chain) (hsound : s'.chain.Sound)
    (hindex : s'.db.mandateIndex.lookup mandateId = s.db.mandateIndex.lookup mandateId)
    (hcursor : s'.db.indexerCursor = s.db.indexerCursor) : Settled mandateId h s' where
  onChain hmem := hext.onChain (hs.onChain hmem)
  written hmem hof := by
    rw [hindex]
    exact hs.written hmem hof
  indexed hrow hledger := by
    rw [hindex] at hrow
    obtain ⟨event, hon, hof, heq⟩ := hs.indexed hrow hledger
    exact ⟨event, hext.onChain hon, hof, heq⟩
  unskipped hlast hmem := by
    rcases hext.lastEventOf hrows.sound hsound hlast with hbefore | ⟨hnew, -⟩
    · exact hs.unskipped hbefore hmem
    · exact hnew (hs.onChain hmem)
  settled hlast hmem := by
    rw [hindex]
    rcases hext.lastEventOf hrows.sound hsound hlast with hbefore | ⟨hnew, -⟩
    · exact hs.settled hbefore hmem
    · exact absurd (hs.onChain hmem) hnew
  passed {last current} hlast hcurrent hlt := by
    rw [hcursor] at hcurrent
    rcases hext.lastEventOf hrows.sound hsound hlast with hbefore | ⟨-, hnew⟩
    · exact hs.passed hbefore hcurrent hlt
    · -- what is new lies behind the cursor
      have hreached := (hrows.reached current (hrows.current_mem hcurrent)).consumed_le
      omega

theorem Task.Begins.later {task : Task} (hb : task.Begins mandateId s)
    (ht : s.chain.Reached task.next) (hsound : s.chain.Sound) (hext : s.chain.Extends s'.chain)
    (hsound' : s'.chain.Sound) : task.Begins mandateId s' := by
  intro hfirst last hlast hlt
  rcases hext.lastEventOf hsound hsound' hlast with hbefore | ⟨-, hnew⟩
  · exact hb hfirst last hbefore hlt
  · have hreached := ht.consumed_le
    omega

theorem Phase.Begins.later {p : Phase} (hb : p.Begins mandateId s) (hp : p.Positioned h s)
    (hsound : s.chain.Sound) (hext : s.chain.Extends s'.chain) (hsound' : s'.chain.Sound) :
    p.Begins mandateId s' := by
  cases p with
  | applying task todo => exact Task.Begins.later hb hp.reached hsound hext hsound'
  | writing task event merchantId todo => exact Task.Begins.later hb hp.reached hsound hext hsound'
  | _ => trivial

/-- **The row the page leads to is stored.** -/
theorem Settled.store {task : Task} (hs : Settled mandateId h s) (hb : task.Begins mandateId s)
    (hcovers : task.Covers (fun event => event.mandateId = mandateId) h s [])
    (hprevious : s.db.indexerCursor = task.stored) :
    Settled mandateId (h ++ [.stored task.next])
      { s with db := { s.db with indexerCursor := some task.next } } := by
  have hmem : ∀ {event registered}, Deed.processed event registered ∈ h ++ [.stored task.next] →
      Deed.processed event registered ∈ h := by
    intro event registered hmem
    rcases List.mem_append.mp hmem with hmem | hmem
    · exact hmem
    · cases List.mem_singleton.mp hmem
  refine ⟨fun h => hs.onChain (hmem h), fun h => hs.written (hmem h), hs.indexed,
    fun hlast h => hs.unskipped hlast (hmem h), fun hlast h => hs.settled hlast (hmem h), ?_⟩
  intro last current hlast hcurrent hlt
  obtain rfl := Option.some.inj hcurrent
  obtain ⟨hon, hof⟩ := Chain.lastEventOf_mem hlast
  have hunread : task.Unread last → Processed (h ++ [.stored task.next]) last := by
    intro hunread
    rcases hcovers last hon hof hunread hlt with hdone | hmem
    · exact hdone.later _
    · cases hmem
  cases hstored : task.stored with
  | none =>
      apply hunread
      rw [Task.Unread, hstored]
      exact hb hstored last hlast hlt
  | some previous =>
      rw [hstored] at hprevious
      by_cases hbefore : last.rpcEventId < previous.cursor.consumed
      · exact (hs.passed hlast hprevious hbefore).later _
      · apply hunread
        rw [Task.Unread, hstored]
        exact not_lt.mp hbefore

/-- What an upsert leaves in the row of a mandate: what there was, or what the event says. -/
theorem lookup_upsert_cases (now : Time) (db : Db) (event : MandateLifecycleEvent)
    (merchantId : Uuid) (assetAddress : Address) (mandateId : BytesN) :
    ((upsertMandateIndexFromEvent now db event merchantId
        assetAddress).mandateIndex.lookup mandateId = db.mandateIndex.lookup mandateId ∧
      (event.mandateId = mandateId → db.IndexedAfter event)) ∨
    (event.mandateId = mandateId ∧ ¬ db.IndexedAfter event ∧
      ∃ row, (upsertMandateIndexFromEvent now db event merchantId
          assetAddress).mandateIndex.lookup mandateId = some row ∧
        row.status = eventToStatus event.kind ∧ row.lastIndexedLedger = some event.ledger) := by
  by_cases hof : event.mandateId = mandateId
  · subst hof
    by_cases hafter : db.IndexedAfter event
    · rw [upsert_of_indexedAfter now merchantId assetAddress hafter]
      exact .inl ⟨rfl, fun _ => hafter⟩
    · obtain ⟨row, hrow, hstatus, hledger, -⟩ :=
        upsert_of_not_indexedAfter now merchantId assetAddress hafter
      exact .inr ⟨rfl, hafter, row, hrow, hstatus, hledger⟩
  · exact .inl ⟨lookup_upsert_of_ne now merchantId assetAddress hof, fun heq => absurd heq hof⟩

/-- Nothing keeps the last event out. -/
theorem Settled.not_indexedAfter (hs : Settled mandateId h s) (hsound : s.chain.Sound)
    {last : MandateLifecycleEvent} (hlast : s.chain.lastEventOf mandateId = some last) :
    ¬ s.db.IndexedAfter last := by
  rintro ⟨row, ledger, hrow, hledger, hlt⟩
  obtain ⟨hon, rfl⟩ := Chain.lastEventOf_mem hlast
  obtain ⟨event, hevent, hof, rfl⟩ := hs.indexed hrow hledger
  have hle := hevent.ledger_le hsound hon (Chain.le_lastEventOf hsound hlast hevent hof)
  omega

/-- **An event is written.** -/
theorem Settled.write (hs : Settled mandateId h s) (hsound : s.chain.Sound)
    {event : MandateLifecycleEvent} (merchantId : Uuid) (assetAddress : Address)
    (hon : s.chain.OnChain event)
    (horderly : event.mandateId = mandateId → ∀ last ∈ s.chain.lastEventOf mandateId,
      Processed h last → last.ledger = event.ledger → event = last) :
    Settled mandateId (h ++ [.processed event true])
      { s with db := transact s.clock s.db (eventStatements event merchantId assetAddress) } := by
  have hmem : ∀ {event' registered},
      Deed.processed event' registered ∈ h ++ [.processed event true] →
      Deed.processed event' registered ∈ h ∨ (event' = event ∧ registered = true) := by
    intro event' registered hmem
    rcases List.mem_append.mp hmem with hmem | hmem
    · exact .inl hmem
    · exact .inr (Deed.processed.inj (List.mem_singleton.mp hmem))
  have hindex : (transact s.clock s.db (eventStatements event merchantId assetAddress)).mandateIndex
      = (upsertMandateIndexFromEvent s.clock s.db event merchantId assetAddress).mandateIndex := by
    rw [transact_eventStatements]
  have hcursor := transact_eventStatements_indexerCursor s.clock s.db event merchantId assetAddress
  have hcases := lookup_upsert_cases s.clock s.db event merchantId assetAddress mandateId
  rw [← hindex] at hcases
  refine ⟨fun hin => ?_, fun hin hof => ?_, fun {row ledger} hrow hledger => ?_,
    fun hlast hin => ?_, fun {last} hlast hin => ?_,
    fun hlast hcurrent hlt => (hs.passed hlast (hcursor ▸ hcurrent) hlt).later _⟩
  · rcases hmem hin with hold | ⟨rfl, -⟩
    · exact hs.onChain hold
    · exact hon
  · rcases hcases with ⟨hsame, hafter⟩ | ⟨hof', hnot, row', hrow', -, hledger'⟩
    · rcases hmem hin with hold | ⟨rfl, -⟩
      · obtain ⟨row, ledger, hrow, hrest⟩ := hs.written hold hof
        exact ⟨row, ledger, hsame.trans hrow, hrest⟩
      · obtain ⟨row, ledger, hrow, hledger, hlt⟩ := hafter hof
        exact ⟨row, ledger, hsame.trans (hof ▸ hrow), hledger, hlt.le⟩
    · refine ⟨row', event.ledger, hrow', hledger', ?_⟩
      rcases hmem hin with hold | ⟨rfl, -⟩
      · obtain ⟨row, ledger, hrow, hledger, hle⟩ := hs.written hold hof
        by_contra hgt
        exact hnot ⟨row, ledger, hof' ▸ hrow, hledger, by omega⟩
      · exact le_rfl
  · rcases hcases with ⟨hsame, -⟩ | ⟨hof, -, row', hrow', -, hledger'⟩
    · exact hs.indexed (hsame.symm.trans hrow) hledger
    · obtain rfl := Option.some.inj (hrow'.symm.trans hrow)
      exact ⟨event, hon, hof, Option.some.inj (hledger'.symm.trans hledger)⟩
  · rcases hmem hin with hold | ⟨-, hfalse⟩
    · exact hs.unskipped hlast hold
    · cases hfalse
  · change s.chain.lastEventOf mandateId = some last at hlast
    obtain ⟨honLast, hofLast⟩ := Chain.lastEventOf_mem hlast
    rcases hcases with ⟨hsame, hafter⟩ | ⟨hof, hnot, row', hrow', hstatus', -⟩
    · rcases hmem hin with hold | ⟨rfl, -⟩
      · obtain ⟨row, hrow, hstatus⟩ := hs.settled hlast hold
        exact ⟨row, hsame.trans hrow, hstatus⟩
      · exact absurd (hafter hofLast) (hs.not_indexedAfter hsound hlast)
    · refine ⟨row', hrow', ?_⟩
      rcases hmem hin with hold | ⟨rfl, -⟩
      · -- the row was indexed where the last event is, and the guard has let this one through
        obtain ⟨row, ledger, hrow, hledger, hle⟩ := hs.written hold hofLast
        have hbelow : ledger ≤ event.ledger := by
          by_contra hgt
          exact hnot ⟨row, ledger, hof ▸ hrow, hledger, by omega⟩
        have habove := hon.ledger_le hsound honLast (Chain.le_lastEventOf hsound hlast hon hof)
        rw [hstatus', horderly hof last hlast ⟨true, hold⟩ (by omega)]
      · exact hstatus'

/-- **An event is skipped** which is not the last one. -/
theorem Settled.skip (hs : Settled mandateId h s) {event : MandateLifecycleEvent}
    (hon : s.chain.OnChain event) (hnot : s.chain.lastEventOf mandateId ≠ some event) :
    Settled mandateId (h ++ [.processed event false]) s := by
  have hmem : ∀ {event' registered},
      Deed.processed event' registered ∈ h ++ [.processed event false] →
      Deed.processed event' registered ∈ h ∨ (event' = event ∧ registered = false) := by
    intro event' registered hmem
    rcases List.mem_append.mp hmem with hmem | hmem
    · exact .inl hmem
    · exact .inr (Deed.processed.inj (List.mem_singleton.mp hmem))
  refine ⟨fun hin => ?_, fun hin hof => ?_, hs.indexed, fun hlast hin => ?_, fun hlast hin => ?_,
    fun hlast hcurrent hlt => (hs.passed hlast hcurrent hlt).later _⟩
  · rcases hmem hin with hold | ⟨rfl, -⟩
    · exact hs.onChain hold
    · exact hon
  · rcases hmem hin with hold | ⟨-, hfalse⟩
    · exact hs.written hold hof
    · cases hfalse
  · rcases hmem hin with hold | ⟨rfl, -⟩
    · exact hs.unskipped hlast hold
    · exact hnot hlast
  · rcases hmem hin with hold | ⟨-, hfalse⟩
    · exact hs.settled hlast hold
    · cases hfalse

/-- What a refresh leaves in a row: the status it has read, and the ledger of the index. -/
theorem lookup_refresh_cases (now : Time) (db : Db) (mandateId : BytesN) (merchantId : Uuid)
    (mandate : Mandate) (writesPayer : Bool) (mandateId' : BytesN) :
    (mandateId = mandateId' ∧ ∃ row, (refreshMandateIndex now db mandateId merchantId mandate
        writesPayer).mandateIndex.lookup mandateId' = some row ∧ row.status = mandate.status ∧
      row.lastIndexedLedger = (db.mandateIndex.lookup mandateId').bind (·.lastIndexedLedger)) ∨
    (mandateId ≠ mandateId' ∧ (refreshMandateIndex now db mandateId merchantId mandate
      writesPayer).mandateIndex.lookup mandateId' = db.mandateIndex.lookup mandateId') := by
  by_cases heq : mandateId = mandateId'
  · subst heq
    refine .inl ⟨rfl, ?_⟩
    unfold refreshMandateIndex
    cases hrow : db.mandateIndex.lookup mandateId with
    | none => exact ⟨_, by rw [FinMap.lookup_insert, if_pos rfl], rfl, rfl⟩
    | some row =>
        refine ⟨_, (FinMap.lookup_insert _ _ _ _).trans (if_pos rfl), rfl, rfl⟩
  · refine .inr ⟨heq, ?_⟩
    unfold refreshMandateIndex
    split
    · rw [FinMap.lookup_insert, if_neg (Ne.symm heq)]
    · rw [FinMap.lookup_insert, if_neg (Ne.symm heq)]

/-- **The API refreshes a row.** -/
theorem Settled.refresh (hs : Settled mandateId h s) {mandateId' : BytesN} {mandate : Mandate}
    (merchantId : Uuid) (writesPayer : Bool)
    (horderly : mandateId' = mandateId → ∀ last ∈ s.chain.lastEventOf mandateId,
      Processed h last → mandate.status = eventToStatus last.kind) :
    Settled mandateId h { s with
      db := refreshMandateIndex s.clock s.db mandateId' merchantId mandate writesPayer } := by
  have hcases := lookup_refresh_cases s.clock s.db mandateId' merchantId mandate writesPayer
    mandateId
  have hcursor := refreshMandateIndex_indexerCursor s.clock s.db mandateId' merchantId mandate
    writesPayer
  refine ⟨hs.onChain, fun hin hof => ?_, fun {row ledger} hrow hledger => ?_, hs.unskipped,
    fun {last} hlast hin => ?_,
    fun hlast hcurrent hlt => hs.passed hlast (hcursor ▸ hcurrent) hlt⟩
  · obtain ⟨row, ledger, hrow, hledger, hle⟩ := hs.written hin hof
    rcases hcases with ⟨-, row', hrow', -, hledger'⟩ | ⟨-, hsame⟩
    · refine ⟨row', ledger, hrow', ?_, hle⟩
      rw [hledger', hrow]
      exact hledger
    · exact ⟨row, ledger, hsame.trans hrow, hledger, hle⟩
  · rcases hcases with ⟨-, row', hrow', -, hledger'⟩ | ⟨-, hsame⟩
    · obtain rfl := Option.some.inj (hrow'.symm.trans hrow)
      rw [hledger'] at hledger
      obtain ⟨row₀, hrow₀, hledger₀⟩ := Option.bind_eq_some_iff.mp hledger
      exact hs.indexed hrow₀ hledger₀
    · exact hs.indexed (hsame.symm.trans hrow) hledger
  · rcases hcases with ⟨hof, row', hrow', hstatus', -⟩ | ⟨-, hsame⟩
    · exact ⟨row', hrow', hstatus'.trans (horderly hof last hlast ⟨true, hin⟩)⟩
    · obtain ⟨row, hrow, hstatus⟩ := hs.settled hlast hin
      exact ⟨row, hsame.trans hrow, hstatus⟩

/-! ## One action -/

theorem Db.isSome_merchantOf {db : Db} {id : Uuid} {walletAddress : Address}
    (h : db.merchants.lookup id = some walletAddress) : (db.merchantOf walletAddress).isSome := by
  have hmem : id ∈ FinMap.keysWhere (fun wallet => wallet = walletAddress) db.merchants :=
    FinMap.mem_keysWhere.mpr ⟨walletAddress, h, decide_eq_true rfl⟩
  exact List.isSome_head?.mpr (List.ne_nil_of_mem hmem)

/-- **A worker's step**, when it is orderly. -/
theorem Settled.worked {reply : Reply} {p p' : Phase} {e : Effect} (hs : Settled mandateId h s)
    (hrows : Rows h s) (hp : p.Positioned h s)
    (hcovers : p.Covers (fun event => event.mandateId = mandateId) h s) (hknows : p.Knows s)
    (hb : p.Begins mandateId s) (horderly : e.Orderly mandateId h s reply)
    (hw : Worked retention reply s p e s' p' ds) :
    Settled mandateId (h ++ ds) s' ∧ p'.Begins mandateId s' := by
  have hsilent : Settled mandateId (h ++ []) s := (List.append_nil h).symm ▸ hs
  cases hw with
  | idle => exact ⟨hsilent, hb⟩
  | page stored startLedger scanned request response hserved hanswer hgap =>
      refine ⟨hsilent, fun hfirst last hlast _ => ?_⟩
      obtain rfl : stored = none := hfirst
      obtain ⟨limit, rfl⟩ := hp
      subst hserved
      exact horderly rfl last hlast
  | owned task event todo row _ => exact ⟨hsilent, hb⟩
  | found task event todo merchantId _ => exact ⟨hsilent, hb⟩
  | skip task event todo hunregistered =>
      exact ⟨hs.skip (hknows event List.mem_cons_self) (horderly hunregistered), hb⟩
  | write task event merchantId todo assetAddress scanned hserved =>
      subst hserved
      rw [Db.isSome_merchantOf hknows.2]
      refine ⟨hs.write hrows.sound merchantId assetAddress (hknows.1 event List.mem_cons_self) ?_,
        hb⟩
      exact fun hof last hlast hdone hledger => horderly rfl hof last hlast hdone hledger
  | create startLedger next hfree => exact ⟨hs.store hb hcovers hfree, trivial⟩
  | update previous startLedger next hcurrent => exact ⟨hs.store hb hcovers hcurrent, trivial⟩
  | refresh merchantId mandateId' mandate writesPayer scanned hserved =>
      subst hserved
      rw [List.append_nil]
      exact ⟨hs.refresh merchantId writesPayer (horderly rfl), trivial⟩
  | _ => exact ⟨hsilent, trivial⟩

end

/-- The invariant of a run: that of the rows and of what they have passed, that of the deliveries,
and what the row of the mandate says. -/
abbrev Converges (mandateId : BytesN) (q : System T × List Deed) : Prop :=
  Workers.Tracked Move (fun s phases =>
    ((Rows q.2 s ∧ Covered (fun event => event.mandateId = mandateId) q.2 s) ∧ Delivered q.2 s ∧
      Settled mandateId q.2 s) ∧
    ∀ p ∈ phases, (Phase.Positioned q.2 s p ∧
      Phase.Covers (fun event => event.mandateId = mandateId) q.2 s p) ∧ Phase.Knows s p ∧
        Phase.Begins mandateId s p) q.1

theorem converges_settled {mandateId : BytesN} {q : System T × List Deed}
    (h : Converges mandateId q) : Settled mandateId q.2 q.1.shared := by
  obtain ⟨phases, -, hgood, -⟩ := h
  exact hgood.2.2

/-- **One action**, when it is orderly. -/
theorem converges_exec {mandateId : BytesN} (q : System T × List Deed) (action : Action T)
    (horderly : Orderly mandateId retention q action) (h : Converges mandateId q) :
    Converges mandateId (execNoting host retention q action) := by
  refine @tracked_execNoting T host retention
    (fun h s => (Rows h s ∧ Covered (fun event => event.mandateId = mandateId) h s) ∧
      Delivered h s ∧ Settled mandateId h s)
    (fun h s p => (Phase.Positioned h s p ∧
      Phase.Covers (fun event => event.mandateId = mandateId) h s p) ∧ Phase.Knows s p ∧
        Phase.Begins mandateId s p) q action h ?_ ?_ ?_
  · rintro i reply p e k s' p' ds rfl hk ⟨hgood, hd, hs⟩ ⟨hfits, hknows, hb⟩ hw
    have hlossless := lossless_of_keepsUnread hgood.1 horderly.2
    have hstep : e.Orderly mandateId q.2 q.1.shared reply := by
      refine horderly.1 (e, reply) ?_
      simp only [performed, hk, Option.mem_def]
    obtain ⟨hgood', hfits', hothers⟩ := tracks_worked hlossless hk hgood hfits hw
    obtain ⟨hd', hknows', hlater⟩ := hd.worked hknows hw
    obtain ⟨hs', hb'⟩ := hs.worked hgood.1 hfits.1 hfits.2 hknows hb hstep hw
    refine ⟨⟨hgood', hd', hs'⟩, ⟨hfits', hknows', hb'⟩, ?_⟩
    rintro p₀ ⟨hfits₀, hknows₀, hb₀⟩
    exact ⟨hothers p₀ hfits₀, hknows₀.later hlater,
      hb₀.later hfits₀.1 hgood.1.sound hlater.chain hgood'.1.sound⟩
  · rintro p (_ | _)
    · exact ⟨⟨trivial, trivial⟩, trivial, trivial⟩
    · exact ⟨⟨trivial, trivial⟩, trivial, trivial⟩
  · rintro s' hh ⟨hgood, hd, hs⟩
    obtain ⟨hgood', hothers⟩ := tracks_happens hgood hh
    obtain ⟨hd', hlater⟩ := hd.happens hh
    have hs' : Settled mandateId q.2 s' := by
      refine hs.later hgood.1 hlater.chain hgood'.1.sound ?_ ?_
      · cases hh <;> rfl
      · cases hh <;> rfl
    refine ⟨⟨hgood', hd', hs'⟩, ?_⟩
    rintro p₀ ⟨hfits₀, hknows₀, hb₀⟩
    exact ⟨hothers p₀ hfits₀, hknows₀.later hlater,
      hb₀.later hfits₀.1 hgood.1.sound hlater.chain hgood'.1.sound⟩

theorem converges_initial (mandateId : BytesN) (t₀ : U64) (tok₀ : T) (sequence : ℕ) :
    Converges mandateId (initial t₀ tok₀ sequence, []) := by
  have hsettled : Settled mandateId [] (initial t₀ tok₀ sequence).shared :=
    { onChain := fun hmem => by cases hmem
      written := fun hmem => by cases hmem
      indexed := fun hrow => by cases hrow
      unskipped := fun _ hmem => by cases hmem
      settled := fun _ hmem => by cases hmem
      passed := fun _ hcurrent => by cases hcurrent }
  exact ⟨[], ⟨rfl, fun hi => by cases hi⟩,
    ⟨⟨rows_initial t₀ tok₀ sequence, fun first current hfirst => by cases hfirst⟩,
      delivered_initial t₀ tok₀ sequence, hsettled⟩, fun p hp => by cases hp⟩

/-! ## Convergence -/

/-- As soon as the cursor is past every event of the mandate, its row says what the last one
implies. -/
def Converged (mandateId : BytesN) (s : Shared T) : Prop :=
  ∀ current, s.db.indexerCursor = some current →
    (∀ event, s.chain.OnChain event → event.mandateId = mandateId →
      event.rpcEventId < current.cursor.consumed) →
    ∀ last, s.chain.lastEventOf mandateId = some last →
      ∃ row, s.db.mandateIndex.lookup mandateId = some row ∧ row.status = eventToStatus last.kind

/-- A worker applies an event, when this event or a later one of its mandate was applied before. -/
def Reapplies (q : System T × List Deed) (action : Action T) (event : MandateLifecycleEvent) :
    Prop :=
  (∃ merchantId assetAddress scanned, performed q.1 action
    = some (.transact (eventStatements event merchantId assetAddress), .served scanned)) ∧
  ∃ later, Deed.processed later true ∈ q.2 ∧ later.mandateId = event.mandateId ∧
    event.rpcEventId ≤ later.rpcEventId

/-- **Index convergence**: in every run whose steps are orderly for a mandate, its row converges.
And in every run, an event that is applied again leaves the row as it is exactly when the row was
indexed at a later ledger. -/
theorem index_converges (host : Host T) (retention : ℕ) (t₀ : U64) (tok₀ : T) (sequence : ℕ)
    (actions : List (Action T)) (mandateId : BytesN) :
    ((∀ q ∈ Runs.trace (execNoting host retention) (initial t₀ tok₀ sequence, []) actions,
        Orderly mandateId retention q.1 q.2) →
      Converged mandateId (run host retention (initial t₀ tok₀ sequence) actions).shared) ∧
    ∀ q ∈ Runs.trace (execNoting host retention) (initial t₀ tok₀ sequence, []) actions,
      ∀ event, Reapplies q.1 q.2 event →
        ((exec host retention q.1.1 q.2).shared.db.mandateIndex.lookup event.mandateId
            = q.1.1.shared.db.mandateIndex.lookup event.mandateId ↔
          q.1.1.shared.db.IndexedAfter event) := by
  constructor
  · intro horderly current hcurrent hpast last hlast
    have hrun := @Runs.run_invariant_along _ _ (execNoting host retention) (Converges mandateId)
      (fun q action => Orderly mandateId retention q action)
      (fun q action hstep hq => converges_exec q action hstep hq) (initial t₀ tok₀ sequence, [])
      (converges_initial mandateId t₀ tok₀ sequence) actions horderly
    rw [Runs.run_noting] at hrun
    have hs := converges_settled hrun
    obtain ⟨hon, hof⟩ := Chain.lastEventOf_mem hlast
    have hdone := hs.passed hlast hcurrent (hpast last hon hof)
    exact hs.settled hlast ((hs.processed_iff hlast).mp hdone)
  · rintro q hq event ⟨⟨merchantId, assetAddress, scanned, hperformed⟩, -⟩
    obtain ⟨worker, k, haction, hk⟩ := performed_eq_some hperformed
    have hwrite : (exec host retention q.1.1 q.2).shared.db.mandateIndex
        = (upsertMandateIndexFromEvent q.1.1.shared.clock q.1.1.shared.db event merchantId
          assetAddress).mandateIndex := by
      rw [haction]
      simp only [exec, Workers.work, hk, perform, transact_eventStatements]
    rw [hwrite]
    constructor
    · intro hsame
      by_contra hnot
      obtain ⟨row, hrow, -, -, hnew⟩ :=
        upsert_of_not_indexedAfter q.1.1.shared.clock merchantId assetAddress hnot
      exact hnew (hsame ▸ hrow)
    · intro hafter
      rw [upsert_of_indexedAfter q.1.1.shared.clock merchantId assetAddress hafter]

section

open Registry (MockToken mockHost mockId)

/-- Two instances read the same page, of two events in one ledger. The one is done with it when the
other is about to write the first event. -/
def laggard : List (Action MockToken) :=
  [.registerMerchant 1 ⟨2⟩, .closeLedger [mockCreate, mockPause], .startTick .default,
    .startTick .default] ++ mockWork 0 3 ++ mockWork 1 3 ++ mockWork 0 8 ++ mockWork 1 2

/-- It writes that event, and the database fails it at the second. -/
def backslide : List (Action MockToken) :=
  laggard ++ .work 1 (.served 10) :: (mockWork 1 2 ++ [.work 1 (.failed "")])

def createdEvent : MandateLifecycleEvent := ⟨.mandateCreated ⟨3⟩, mockId, ⟨1⟩, ⟨2⟩, 1, 0⟩

def pausedEvent : MandateLifecycleEvent := ⟨.mandatePaused, mockId, ⟨1⟩, ⟨2⟩, 1, 1⟩

set_option maxRecDepth 4000 in
/-- **The row is taken back**: an event that was applied already, with a later one, changes the
row; and when nobody is at work any more and the cursor is past both events, the row of the paused
mandate says that it is active. -/
theorem older_event_rolls_back :
    (∃ q ∈ Runs.trace (execNoting mockHost 9) (mockIndexer, []) backslide,
      Reapplies q.1 q.2 createdEvent ∧
      (exec mockHost 9 q.1.1 q.2).shared.db.mandateIndex.lookup mockId
        ≠ q.1.1.shared.db.mandateIndex.lookup mockId) ∧
    (∀ w ∈ (run mockHost 9 mockIndexer backslide).running, w.isCall = false) ∧
    ¬ Converged mockId (run mockHost 9 mockIndexer backslide).shared := by
  have hstep := @Runs.mem_trace_append_cons _ _ (execNoting mockHost 9) (mockIndexer, []) laggard
    (.work 1 (.served 10)) (mockWork 1 2 ++ [.work 1 (.failed "")])
  refine ⟨⟨_, hstep, ⟨⟨1, ⟨3⟩, 10, ?_⟩, pausedEvent, ?_⟩, ?_⟩, by decide, fun hconverged => ?_⟩
  · rw [Runs.run_noting]
    decide
  · rw [Runs.run_noting]
    decide
  · rw [Runs.run_noting]
    decide
  · have hpast : ∀ event ∈ (run mockHost 9 mockIndexer backslide).shared.chain.lifecycleEvents,
        event.mandateId = mockId → event.rpcEventId < 2 := by decide
    obtain ⟨row, hrow, hstatus⟩ := hconverged ⟨1, ⟨2, 1⟩⟩ (by decide)
      (fun event hon hof => hpast event (Chain.mem_lifecycleEvents.mpr hon) hof) pausedEvent
      (by decide)
    have hactive : ∀ row ∈ (run mockHost 9 mockIndexer backslide).shared.db.mandateIndex.lookup
        mockId, row.status = .active := by decide
    cases (hactive row hrow).symm.trans hstatus

set_option maxRecDepth 4000 in
theorem index_converges_mock :
    ∃ row, (run mockHost 9 mockIndexer laggard).shared.db.mandateIndex.lookup mockId = some row ∧
      row.status = .paused := by
  have horderly : ∀ q ∈ Runs.trace (execNoting mockHost 9) (mockIndexer, []) laggard,
      Orderly mockId 9 q.1 q.2 := by decide
  have hpast : ∀ event ∈ (run mockHost 9 mockIndexer laggard).shared.chain.lifecycleEvents,
      event.mandateId = mockId → event.rpcEventId < 2 := by decide
  have hlate := (index_converges mockHost 9 0 Registry.mockFunds 0 laggard mockId).1 horderly
  exact hlate ⟨1, ⟨2, 1⟩⟩ (by decide)
    (fun event hon hof => hpast event (Chain.mem_lifecycleEvents.mpr hon) hof) pausedEvent
    (by decide)

end

end

end Paymap.Indexer
