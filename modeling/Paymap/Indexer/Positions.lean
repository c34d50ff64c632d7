import Paymap.Indexer.Steps

set_option autoImplicit false

/-! # Where the cursor stands

A cursor row divides the stream: the events before its position have been read, and those after it
have not, and `lastLedger` lies between their ledgers. It is the high-water mark of what was read,
from the first row on, so a quiet stretch leaves it where it is. Each row a run has stored, and each
row that a page leads to, stands so (`positions_exec`).
-/

namespace Paymap.Indexer

open Registry (Host)

section

variable {T : Type} {host : Host T} {retention : ℕ} {chain chain' : Chain T}

/-! ## A row and the stream -/

/-- The row lies where it says. -/
structure Chain.Reached (chain : Chain T) (state : IndexerCursorState) : Prop where
  consumed_le : state.cursor.consumed ≤ chain.stream.length
  ledger_le : state.lastLedger ≤ chain.sequence
  read : ∀ {i : ℕ} {raw : EventResponse}, i < state.cursor.consumed →
    chain.stream[i]? = some raw → raw.ledger ≤ state.lastLedger
  unread : ∀ {i : ℕ} {raw : EventResponse}, state.cursor.consumed ≤ i →
    chain.stream[i]? = some raw → state.lastLedger ≤ raw.ledger

theorem Chain.Reached.extends {state : IndexerCursorState} (h : chain.Reached state)
    (hext : chain.Extends chain') : chain'.Reached state where
  consumed_le := h.consumed_le.trans hext.stream.length_le
  ledger_le := h.ledger_le.trans hext.sequence_le
  read hlt hi := h.read hlt (Feed.getElem?_of_grow hext.stream (hlt.trans_le h.consumed_le) hi)
  unread {i raw} hle hi := by
    by_cases hlt : i < chain.stream.length
    · exact h.unread hle (Feed.getElem?_of_grow hext.stream hlt hi)
    · exact h.ledger_le.trans (hext.fresh (by omega) hi).le

/-- Its `lastLedger` goes back to the first row, or to an event that was read. -/
structure Chain.Attained (chain : Chain T) (first state : IndexerCursorState) : Prop where
  consumed_le : first.cursor.consumed ≤ state.cursor.consumed
  ledger_le : first.lastLedger ≤ state.lastLedger
  attained : state.lastLedger = first.lastLedger ∨
    ∃ i raw, i < state.cursor.consumed ∧ chain.stream[i]? = some raw ∧
      raw.ledger = state.lastLedger

theorem Chain.Attained.refl (chain : Chain T) (first : IndexerCursorState) :
    chain.Attained first first := ⟨le_rfl, le_rfl, .inl rfl⟩

theorem Chain.Attained.extends {first state : IndexerCursorState} (h : chain.Attained first state)
    (hext : chain.Extends chain') : chain'.Attained first state where
  consumed_le := h.consumed_le
  ledger_le := h.ledger_le
  attained := by
    rcases h.attained with heq | ⟨i, raw, hlt, hi, heq⟩
    · exact .inl heq
    · exact .inr ⟨i, raw, hlt, Feed.getElem?_grow hext.stream hi, heq⟩

/-- The ledger up to which a reader at this cursor has seen events, from the first row on. -/
def Chain.readUpTo (chain : Chain T) (first : IndexerCursorState) (cursor : Cursor) : ℕ :=
  Feed.highWater EventResponse.ledger first.lastLedger (chain.stream.take cursor.consumed)

/-- **`lastLedger` is the high-water mark of what was read.** -/
theorem Chain.Reached.lastLedger_eq {first state : IndexerCursorState} (h : chain.Reached state)
    (hfirst : chain.Attained first state) :
    state.lastLedger = chain.readUpTo first state.cursor := by
  have hget : ∀ {raw}, raw ∈ chain.stream.take state.cursor.consumed ↔
      ∃ i, i < state.cursor.consumed ∧ chain.stream[i]? = some raw := by
    intro raw
    rw [List.mem_iff_getElem?]
    refine exists_congr fun i => ?_
    rw [List.getElem?_take]
    split <;> simp_all
  refine Feed.eq_highWater hfirst.ledger_le (fun raw hmem => ?_) ?_
  · obtain ⟨i, hlt, hi⟩ := hget.mp hmem
    exact h.read hlt hi
  · rcases hfirst.attained with heq | ⟨i, raw, hlt, hi, heq⟩
    · exact .inl heq
    · exact .inr ⟨raw, hget.mpr ⟨i, hlt, hi⟩, heq⟩

/-! ## A page -/

/-- `pageMaxLedger`, or the base it falls back to. -/
theorem foldl_maxLedger {base : ℕ} {events : List EventResponse}
    (hbase : ∀ raw ∈ events, base ≤ raw.ledger) :
    (events.foldl maxLedger none).getD base
      = Feed.highWater EventResponse.ledger base events := by
  have hsome : ∀ (mark : ℕ) (l : List EventResponse),
      l.foldl maxLedger (some mark) = some (Feed.highWater EventResponse.ledger mark l) := by
    intro mark l
    induction l generalizing mark with
    | nil => rfl
    | cons raw l ih =>
        rw [List.foldl_cons, Feed.highWater, ← ih, maxLedger]
        split <;> rfl
  cases events with
  | nil => rfl
  | cons raw l =>
      have hle := hbase raw List.mem_cons_self
      show (l.foldl maxLedger (some raw.ledger)).getD base = _
      rw [hsome, Option.getD_some, Feed.highWater]
      split
      · rfl
      · rw [show raw.ledger = base by omega]

/-- What the RPC has been asked for decides where the page starts. -/
theorem getEvents_cursor {scanned limit : ℕ} {cursor : Cursor} {response : GetEventsResponse}
    (h : chain.getEvents retention scanned (.cursor cursor limit) = .ok response) :
    response = chain.respond retention
      (max cursor.consumed
        (Feed.firstFrom EventResponse.ledger (chain.oldestLedger retention) chain.stream))
      (min limit scanned) := by
  rw [Chain.getEvents] at h
  exact (Except.ok.inj h).symm

theorem getEvents_startLedger {scanned limit startLedger : ℕ} {response : GetEventsResponse}
    (h : chain.getEvents retention scanned (.startLedger startLedger limit) = .ok response) :
    response = chain.respond retention
        (Feed.firstFrom EventResponse.ledger startLedger chain.stream) (min limit scanned) ∧
      startLedger ≤ chain.sequence := by
  rw [Chain.getEvents] at h
  split at h
  · rename_i hwindow
    exact ⟨(Except.ok.inj h).symm, hwindow.2⟩
  · cases h

/-- **A page that starts between what is not above the base and what is not below it** leads to a row
that stands where it says. -/
theorem reached_respond (retention start size base : ℕ) (hsound : chain.Sound)
    (hstart : start ≤ chain.stream.length) (hbase : base ≤ chain.sequence)
    (hread : ∀ {i raw}, i < start → chain.stream[i]? = some raw → raw.ledger ≤ base)
    (hunread : ∀ {i raw}, start ≤ i → chain.stream[i]? = some raw → base ≤ raw.ledger)
    {state : IndexerCursorState}
    (hcursor : state.cursor = (chain.respond retention start size).cursor)
    (hledger : state.lastLedger
      = ((chain.respond retention start size).events.foldl maxLedger none).getD base) :
    chain.Reached state ∧ base ≤ state.lastLedger ∧
      (state.lastLedger = base ∨ ∃ i raw, i < state.cursor.consumed ∧
        chain.stream[i]? = some raw ∧ raw.ledger = state.lastLedger) := by
  have hconsumed : state.cursor.consumed = start + (Feed.page chain.stream start size).length :=
    congrArg Cursor.consumed hcursor
  have hmem : ∀ {raw}, raw ∈ Feed.page chain.stream start size ↔
      ∃ i, start ≤ i ∧ i < state.cursor.consumed ∧ chain.stream[i]? = some raw := by
    intro raw
    rw [Feed.mem_page_iff, hconsumed]
  have hmark : state.lastLedger
      = Feed.highWater EventResponse.ledger base (Feed.page chain.stream start size) := by
    refine hledger.trans (foldl_maxLedger fun raw hraw => ?_)
    obtain ⟨i, hle, -, hi⟩ := hmem.mp hraw
    exact hunread hle hi
  obtain ⟨hle, hall, hattained⟩ :=
    Feed.highWater_spec EventResponse.ledger base (Feed.page chain.stream start size)
  rw [← hmark] at hle hall hattained
  have hlength : start + (Feed.page chain.stream start size).length ≤ chain.stream.length :=
    Feed.add_length_page_le hstart
  refine ⟨⟨by omega, ?_, ?_, ?_⟩, hle, ?_⟩
  · rcases hattained with heq | ⟨raw, hraw, heq⟩
    · omega
    · obtain ⟨i, -, -, hi⟩ := hmem.mp hraw
      have hseq := hsound.le_top raw (List.mem_of_getElem? hi)
      omega
  · intro i raw hlt hi
    by_cases hbefore : i < start
    · exact (hread hbefore hi).trans hle
    · exact hall raw (hmem.mpr ⟨i, by omega, hlt, hi⟩)
  · intro i raw hafter hi
    rcases hattained with heq | ⟨raw', hraw', heq⟩
    · exact heq ▸ hunread (by omega) hi
    · obtain ⟨j, -, hlt, hj⟩ := hmem.mp hraw'
      rw [← heq]
      exact hsound.ordered (by omega) hj hi
  · rcases hattained with heq | ⟨raw, hraw, heq⟩
    · exact .inl heq
    · obtain ⟨i, -, hlt, hi⟩ := hmem.mp hraw
      exact .inr ⟨i, raw, hlt, hi, heq⟩

/-- The page after a stored row, when the check for a gap has passed. -/
theorem reached_pageTask_stored {stored : IndexerCursorState} {scanned limit : ℕ}
    (startLedger : ℕ) {response : GetEventsResponse} (hsound : chain.Sound) (hstored : chain.Reached stored)
    (hanswer : chain.getEvents retention scanned (.cursor stored.cursor limit) = .ok response)
    (hgap : chain.oldestLedger retention ≤ stored.lastLedger + 1) :
    chain.Reached (pageTask (some stored) startLedger response).next ∧
      stored.cursor.consumed ≤ (pageTask (some stored) startLedger response).next.cursor.consumed ∧
      ∀ first, chain.Attained first stored →
        chain.Attained first (pageTask (some stored) startLedger response).next := by
  obtain rfl := getEvents_cursor hanswer
  set start := max stored.cursor.consumed
    (Feed.firstFrom EventResponse.ledger (chain.oldestLedger retention) chain.stream) with hstart
  have hlength := Feed.firstFrom_le EventResponse.ledger (chain.oldestLedger retention) chain.stream
  set next := (pageTask (some stored) startLedger
    (chain.respond retention start (min limit scanned))).next with hnext
  have hread : ∀ {i raw}, i < start → chain.stream[i]? = some raw →
      raw.ledger ≤ stored.lastLedger := by
    intro i raw hlt hi
    -- before the cursor, or in a ledger that is no longer kept
    rcases lt_max_iff.mp hlt with hlt | hlt
    · exact hstored.read hlt hi
    · have hbelow := Feed.stamp_lt_of_lt_firstFrom hi hlt
      omega
  obtain ⟨hreached, hle, hattained⟩ : chain.Reached next ∧ stored.lastLedger ≤ next.lastLedger ∧ _ :=
    reached_respond retention start (min limit scanned) stored.lastLedger hsound
      (max_le hstored.consumed_le hlength) hstored.ledger_le hread
      (fun hle hi => hstored.unread ((le_max_left _ _).trans hle) hi) rfl rfl
  have hconsumed : stored.cursor.consumed ≤ next.cursor.consumed :=
    (le_max_left _ _).trans (Nat.le_add_right _ _)
  refine ⟨hreached, hconsumed, fun first hfirst => ⟨hfirst.consumed_le.trans hconsumed,
    hfirst.ledger_le.trans hle, ?_⟩⟩
  rcases hattained with heq | hread
  · rcases hfirst.attained with hfirsteq | ⟨i, raw, hlt, hi, hraw⟩
    · exact .inl (heq.trans hfirsteq)
    · exact .inr ⟨i, raw, hlt.trans_le hconsumed, hi, hraw.trans heq.symm⟩
  · exact .inr hread

/-- The page of a first run. -/
theorem reached_pageTask_first {scanned limit startLedger : ℕ} {response : GetEventsResponse}
    (hsound : chain.Sound)
    (hanswer : chain.getEvents retention scanned (.startLedger startLedger limit) = .ok response) :
    chain.Reached (pageTask none startLedger response).next := by
  obtain ⟨rfl, hsequence⟩ := getEvents_startLedger hanswer
  refine (reached_respond retention _ (min limit scanned) startLedger hsound
    (Feed.firstFrom_le _ _ _) hsequence (fun hlt hi => ?_) (fun hle hi => ?_) rfl rfl).1
  · exact (Feed.stamp_lt_of_lt_firstFrom hi hlt).le
  · exact Feed.le_stamp_of_firstFrom_le hsound.ordered hi hle

/-! ## The rows of a run -/

def Deed.stored? : Deed → Option IndexerCursorState
  | .stored state => some state
  | .processed _ _ => none

/-- The rows the cursor has been, in order. -/
def storedRows (h : List Deed) : List IndexerCursorState := h.filterMap Deed.stored?

def firstStored (h : List Deed) : Option IndexerCursorState := (storedRows h).head?

theorem storedRows_append (h ds : List Deed) :
    storedRows (h ++ ds) = storedRows h ++ storedRows ds := List.filterMap_append

theorem mem_storedRows_append {h ds : List Deed} {state : IndexerCursorState}
    (hmem : state ∈ storedRows h) : state ∈ storedRows (h ++ ds) := by
  rw [storedRows_append]
  exact List.mem_append_left _ hmem

/-- There is a first row already, so it stays the first. -/
theorem firstStored_append {h ds : List Deed} {state : IndexerCursorState}
    (hmem : state ∈ storedRows h) : firstStored (h ++ ds) = firstStored h := by
  unfold firstStored
  rw [storedRows_append, List.head?_append_of_ne_nil _ (List.ne_nil_of_mem hmem)]

structure Rows (h : List Deed) (s : Shared T) : Prop where
  sound : s.chain.Sound
  current : s.db.indexerCursor = (storedRows h).getLast?
  reached : ∀ state ∈ storedRows h, s.chain.Reached state
  attained : ∀ {first}, firstStored h = some first →
    ∀ state ∈ storedRows h, s.chain.Attained first state

/-- A row that a page leads to. -/
structure Task.Positioned (h : List Deed) (s : Shared T) (task : Task) : Prop where
  reached : s.chain.Reached task.next
  since : ∀ {previous}, task.stored = some previous → previous ∈ storedRows h ∧
    previous.cursor.consumed ≤ task.next.cursor.consumed ∧
    ∀ first, firstStored h = some first → s.chain.Attained first task.next

/-- What a worker knows of the rows. -/
def Phase.Positioned (h : List Deed) (s : Shared T) : Phase → Prop
  | .asking stored startLedger request =>
      match stored with
      | some stored => stored ∈ storedRows h ∧ ∃ limit, request = .cursor stored.cursor limit
      | none => ∃ limit, request = .startLedger startLedger limit
  | .applying task _ => task.Positioned h s
  | .writing task _ _ _ => task.Positioned h s
  | _ => True

section

variable {h ds : List Deed} {s s' : Shared T}

theorem Rows.current_mem (hrows : Rows h s) {state : IndexerCursorState}
    (hcurrent : s.db.indexerCursor = some state) : state ∈ storedRows h :=
  List.mem_of_getLast? (hrows.current.symm.trans hcurrent)

theorem Task.Positioned.later {task : Task} (ht : task.Positioned h s)
    (hext : s.chain.Extends s'.chain) : task.Positioned (h ++ ds) s' where
  reached := ht.reached.extends hext
  since hprevious := by
    obtain ⟨hmem, hle, hattained⟩ := ht.since hprevious
    refine ⟨mem_storedRows_append hmem, hle, fun first hfirst => ?_⟩
    rw [firstStored_append hmem] at hfirst
    exact (hattained first hfirst).extends hext

theorem Phase.Positioned.later {p : Phase} (hp : p.Positioned h s)
    (hext : s.chain.Extends s'.chain) : p.Positioned (h ++ ds) s' := by
  cases p with
  | asking stored startLedger request =>
      cases stored with
      | none => exact hp
      | some stored => exact ⟨mem_storedRows_append hp.1, hp.2⟩
  | applying task todo => exact Task.Positioned.later hp hext
  | writing task event merchantId todo => exact Task.Positioned.later hp hext
  | _ => trivial

/-- Nothing is stored, and the chain is as it was or has gone on. -/
theorem Rows.later (hrows : Rows h s) (hstored : storedRows ds = [])
    (hsound : s'.chain.Sound) (hext : s.chain.Extends s'.chain)
    (hcursor : s'.db.indexerCursor = s.db.indexerCursor) : Rows (h ++ ds) s' := by
  have hsame : storedRows (h ++ ds) = storedRows h := by
    rw [storedRows_append, hstored, List.append_nil]
  refine ⟨hsound, ?_, fun state hmem => ?_, fun {first} hfirst state hmem => ?_⟩
  · rw [hcursor, hrows.current, hsame]
  · rw [hsame] at hmem
    exact (hrows.reached state hmem).extends hext
  · rw [hsame] at hmem
    rw [firstStored, hsame] at hfirst
    exact (hrows.attained hfirst state hmem).extends hext

/-- The row a task leads to is stored: the first one, or one after the row it was asked from. -/
theorem Rows.store {task : Task} (hrows : Rows h s) (ht : task.Positioned h s)
    (hprevious : s.db.indexerCursor = task.stored) :
    Rows (h ++ [.stored task.next])
      { s with db := { s.db with indexerCursor := some task.next } } := by
  have hrow : storedRows (h ++ [.stored task.next]) = storedRows h ++ [task.next] :=
    storedRows_append _ _
  refine ⟨hrows.sound, ?_, fun state hmem => ?_, fun {first} hfirst state hmem => ?_⟩
  · rw [hrow, List.getLast?_concat]
  · rw [hrow] at hmem
    rcases List.mem_append.mp hmem with hmem | hmem
    · exact hrows.reached state hmem
    · obtain rfl := List.mem_singleton.mp hmem
      exact ht.reached
  · rw [hrow] at hmem
    rw [hrows.current] at hprevious
    cases hlast : task.stored with
    | none =>
        -- this is the first row of all
        rw [hlast, List.getLast?_eq_none_iff] at hprevious
        rw [firstStored, hrow, hprevious] at hfirst
        rw [hprevious] at hmem
        obtain rfl := Option.some.inj hfirst
        obtain rfl := List.mem_singleton.mp hmem
        exact .refl _ _
    | some previous =>
        obtain ⟨hstored, -, hattained⟩ := ht.since hlast
        rw [firstStored_append hstored] at hfirst
        rcases List.mem_append.mp hmem with hmem | hmem
        · exact hrows.attained hfirst state hmem
        · obtain rfl := List.mem_singleton.mp hmem
          exact hattained first hfirst

theorem retentionGap_eq_false {stored : IndexerCursorState} {response : GetEventsResponse} :
    retentionGap (some stored) (fetchMandateLifecycleEvents response) = false ↔
      response.oldestLedger ≤ stored.lastLedger + 1 := by
  show decide (stored.lastLedger + 1 < response.oldestLedger) = false ↔ _
  rw [decide_eq_false_iff_not, not_lt]

/-- **A worker's step.** -/
theorem Rows.worked {reply : Reply} {p p' : Phase} {e : Effect} (hrows : Rows h s)
    (hp : p.Positioned h s) (hw : Worked retention reply s p e s' p' ds) :
    Rows (h ++ ds) s' ∧ p'.Positioned (h ++ ds) s' ∧
      ∀ p₀ : Phase, p₀.Positioned h s → p₀.Positioned (h ++ ds) s' := by
  have hstays := Chain.Extends.refl s.chain
  have hkept : storedRows ds = [] → s'.chain = s.chain →
      s'.db.indexerCursor = s.db.indexerCursor → Rows (h ++ ds) s' := by
    intro hstored hchain hcursor
    exact hrows.later hstored (hchain ▸ hrows.sound) (hchain ▸ hstays) hcursor
  have htodo : ∀ {task : Task}, task.Positioned h s → s'.chain = s.chain →
      task.Positioned (h ++ ds) s' := fun ht hchain => ht.later (hchain ▸ hstays)
  have hothers : s'.chain = s.chain →
      ∀ p₀ : Phase, p₀.Positioned h s → p₀.Positioned (h ++ ds) s' :=
    fun hchain p₀ hp₀ => hp₀.later (hchain ▸ hstays)
  cases hw with
  | idle => exact ⟨hkept rfl rfl rfl, hp.later hstays, hothers rfl⟩
  | ended => exact ⟨hkept rfl rfl rfl, trivial, hothers rfl⟩
  | cursorRead stored limit hcurrent =>
      refine ⟨hkept rfl rfl rfl, ⟨?_, limit, rfl⟩, hothers rfl⟩
      exact mem_storedRows_append (hrows.current_mem hcurrent)
  | ledgerRead startLedger limit => exact ⟨hkept rfl rfl rfl, ⟨limit, rfl⟩, hothers rfl⟩
  | page stored startLedger scanned request response _ hanswer hgap =>
      refine ⟨hkept rfl rfl rfl, ?_, hothers rfl⟩
      refine htodo ?_ rfl
      cases stored with
      | none =>
          obtain ⟨limit, rfl⟩ := hp
          exact ⟨reached_pageTask_first hrows.sound hanswer, fun hnone => by cases hnone⟩
      | some stored =>
          obtain ⟨hmem, limit, rfl⟩ := hp
          have holdest : s.chain.oldestLedger retention ≤ stored.lastLedger + 1 := by
            have hpassed := retentionGap_eq_false.mp hgap
            rw [getEvents_cursor hanswer] at hpassed
            exact hpassed
          obtain ⟨hreached, hle, hattained⟩ := reached_pageTask_stored startLedger
            hrows.sound (hrows.reached stored hmem) hanswer holdest
          refine ⟨hreached, fun {previous} hprevious => ?_⟩
          obtain rfl := Option.some.inj hprevious
          exact ⟨hmem, hle, fun first hfirst =>
            hattained first (hrows.attained hfirst _ hmem)⟩
  | owned task event todo row _ => exact ⟨hkept rfl rfl rfl, htodo hp rfl, hothers rfl⟩
  | skip task event todo => exact ⟨hkept rfl rfl rfl, htodo hp rfl, hothers rfl⟩
  | found task event todo merchantId _ => exact ⟨hkept rfl rfl rfl, htodo hp rfl, hothers rfl⟩
  | write task event merchantId todo assetAddress =>
      refine ⟨hkept rfl rfl ?_, htodo hp rfl, hothers rfl⟩
      exact transact_eventStatements_indexerCursor _ _ _ _ _
  | create startLedger next hfree =>
      exact ⟨hrows.store hp hfree, trivial, hothers rfl⟩
  | update previous startLedger next hcurrent =>
      exact ⟨hrows.store hp hcurrent, trivial, hothers rfl⟩
  | merchantRead merchantId mandateId walletAddress _ =>
      exact ⟨hkept rfl rfl rfl, trivial, hothers rfl⟩
  | mandateRead merchantId mandateId mandate _ => exact ⟨hkept rfl rfl rfl, trivial, hothers rfl⟩
  | refresh merchantId mandateId mandate writesPayer =>
      refine ⟨hkept rfl rfl ?_, trivial, hothers rfl⟩
      exact refreshMandateIndex_indexerCursor _ _ _ _ _ _

theorem Rows.happens (hrows : Rows h s) (hh : Happens host s s') :
    Rows h s' ∧ ∀ p : Phase, p.Positioned h s → p.Positioned h s' := by
  have hext : s'.chain.Sound ∧ s.chain.Extends s'.chain := by
    cases hh with
    | closes included => exact Chain.close_sound hrows.sound included
    | _ => exact ⟨hrows.sound, .refl _⟩
  have hcursor : s'.db.indexerCursor = s.db.indexerCursor := by cases hh <;> rfl
  have hlater : Rows (h ++ []) s' := hrows.later rfl hext.1 hext.2 hcursor
  rw [List.append_nil] at hlater
  refine ⟨hlater, fun p hp => ?_⟩
  have hlater : p.Positioned (h ++ []) s' := hp.later hext.2
  rwa [List.append_nil] at hlater

theorem rows_initial (t₀ : U64) (tok₀ : T) (sequence : ℕ) :
    Rows [] (initial t₀ tok₀ sequence).shared where
  sound := Chain.genesis_sound t₀ tok₀ sequence
  current := rfl
  reached state hmem := by cases hmem
  attained _ state hmem := by cases hmem

end

end

end Paymap.Indexer
