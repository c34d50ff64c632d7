import Paymap.Indexer.Positions

set_option autoImplicit false

/-! # What the cursor has passed was processed

A page takes the cursor from the row it was asked from to the one after its last event, and the row
is written when all its events are processed. So nothing before the cursor is left out, as far as the
RPC has left nothing out: a page begins later than where it was asked from when the events there are
no longer kept. `Lossless` says that no event that matters is lost so, and under it every such event
between the first row and the current one was processed (`covered_exec`).

The check of `indexer.ts` for a gap ensures this up to one ledger, the one the cursor stands in: when
a page has ended inside of it and it is the newest that is no longer kept, the check passes
(`KeepsUnread`).
-/

namespace Paymap.Indexer

open Registry (Host)

section

variable {T : Type} {host : Host T} {retention : ℕ}

/-! ## What a step asks the RPC -/

/-- The cursor with which a step asks for a page, if its request arrives. -/
def polled (s : System T) : Action T → Option Cursor
  | .work worker (.served _) =>
      match s.running[worker]? with
      | some (.call (.getEvents (.cursor cursor _)) _) => some cursor
      | _ => none
  | _ => none

/-- Of the events that matter, a page asked for from a stored row, and for which the check for a gap
passes, leaves out none. -/
def Lossless (P : MandateLifecycleEvent → Prop) (retention : ℕ) (q : System T × List Deed)
    (action : Action T) : Prop :=
  ∀ stored ∈ storedRows q.2, polled q.1 action = some stored.cursor →
    q.1.shared.chain.oldestLedger retention ≤ stored.lastLedger + 1 →
    ∀ event, q.1.shared.chain.OnChain event → P event →
      stored.cursor.consumed ≤ event.rpcEventId →
      q.1.shared.chain.oldestLedger retention ≤ event.ledger

/-! ## Coverage -/

/-- The tick has come to the event: it was written, or skipped for want of its merchant. -/
def Processed (h : List Deed) (event : MandateLifecycleEvent) : Prop :=
  ∃ registered, Deed.processed event registered ∈ h

/-- The event was written to the index. -/
def Applied (h : List Deed) (event : MandateLifecycleEvent) : Prop := Deed.processed event true ∈ h

theorem Processed.later {h : List Deed} {event : MandateLifecycleEvent} (hp : Processed h event)
    (ds : List Deed) : Processed (h ++ ds) event := by
  obtain ⟨registered, hmem⟩ := hp
  exact ⟨registered, List.mem_append_left _ hmem⟩

/-- The event was not read before this task. -/
def Task.Unread (task : Task) (event : MandateLifecycleEvent) : Prop :=
  match task.stored with
  | some previous => previous.cursor.consumed ≤ event.rpcEventId
  | none => task.startLedger ≤ event.ledger

/-- What the task takes the cursor past is processed, or it is still to come. -/
def Task.Covers (P : MandateLifecycleEvent → Prop) (h : List Deed) (s : Shared T) (task : Task)
    (ahead : List MandateLifecycleEvent) : Prop :=
  ∀ event, s.chain.OnChain event → P event → task.Unread event →
    event.rpcEventId < task.next.cursor.consumed → Processed h event ∨ event ∈ ahead

def Phase.Covers (P : MandateLifecycleEvent → Prop) (h : List Deed) (s : Shared T) : Phase → Prop
  | .applying task todo => task.Covers P h s todo
  | .writing task event _ todo => task.Covers P h s (event :: todo)
  | _ => True

/-- What lies between the first row and the current one is processed. -/
def Covered (P : MandateLifecycleEvent → Prop) (h : List Deed) (s : Shared T) : Prop :=
  ∀ first current, firstStored h = some first → s.db.indexerCursor = some current →
    ∀ event, s.chain.OnChain event → P event →
      first.cursor.consumed ≤ event.rpcEventId → event.rpcEventId < current.cursor.consumed →
      Processed h event

section

variable {P : MandateLifecycleEvent → Prop} {h ds : List Deed} {s s' : Shared T}

theorem Task.Covers.later {task : Task} {ahead ahead' : List MandateLifecycleEvent}
    (hcovers : task.Covers P h s ahead) (ht : task.Positioned h s)
    (hext : s.chain.Extends s'.chain) (hsound : s'.chain.Sound)
    (hahead : ∀ event ∈ ahead, Processed (h ++ ds) event ∨ event ∈ ahead') :
    task.Covers P (h ++ ds) s' ahead' := by
  intro event hon hP hunread hlt
  rcases hext.onChain_cases hsound hon with hbefore | ⟨hnew, -⟩
  · rcases hcovers event hbefore hP hunread hlt with hdone | hmem
    · exact .inl (hdone.later ds)
    · exact hahead event hmem
  · -- what is new lies behind the page
    have hreached := ht.reached.consumed_le
    omega

theorem Phase.Covers.later {p : Phase} (hcovers : p.Covers P h s) (hp : p.Positioned h s)
    (hext : s.chain.Extends s'.chain) (hsound : s'.chain.Sound) : p.Covers P (h ++ ds) s' := by
  cases p with
  | applying task todo =>
      exact Task.Covers.later hcovers hp hext hsound fun event hmem => .inr hmem
  | writing task event merchantId todo =>
      exact Task.Covers.later hcovers hp hext hsound fun event hmem => .inr hmem
  | _ => trivial

theorem Covered.later (hcovered : Covered P h s) (hrows : Rows h s)
    (hstored : storedRows ds = []) (hext : s.chain.Extends s'.chain) (hsound : s'.chain.Sound)
    (hcursor : s'.db.indexerCursor = s.db.indexerCursor) : Covered P (h ++ ds) s' := by
  intro first current hfirst hcurrent event hon hP hle hlt
  rw [firstStored, storedRows_append, hstored, List.append_nil] at hfirst
  rw [hcursor] at hcurrent
  rcases hext.onChain_cases hsound hon with hbefore | ⟨hnew, -⟩
  · exact (hcovered first current hfirst hcurrent event hbefore hP hle hlt).later ds
  · have hreached := (hrows.reached current (hrows.current_mem hcurrent)).consumed_le
    omega

/-- The row a task leads to is stored. -/
theorem Covered.store {task : Task} (hcovered : Covered P h s) (hrows : Rows h s)
    (hcovers : task.Covers P h s []) (hprevious : s.db.indexerCursor = task.stored) :
    Covered P (h ++ [.stored task.next])
      { s with db := { s.db with indexerCursor := some task.next } } := by
  intro first current hfirst hcurrent event hon hP hle hlt
  obtain rfl := Option.some.inj hcurrent
  cases hlast : task.stored with
  | none =>
      -- the first row is the current one, and nothing lies between
      have hnone : storedRows h = [] := by
        rw [hlast, hrows.current, List.getLast?_eq_none_iff] at hprevious
        exact hprevious
      rw [firstStored, storedRows_append, hnone] at hfirst
      obtain rfl := Option.some.inj hfirst
      omega
  | some previous =>
      rw [hlast] at hprevious
      rw [firstStored_append (hrows.current_mem hprevious)] at hfirst
      by_cases hbefore : event.rpcEventId < previous.cursor.consumed
      · exact (hcovered first previous hfirst hprevious event hon hP hle hbefore).later _
      · have hunread : task.Unread event := by
          rw [Task.Unread, hlast]
          exact not_lt.mp hbefore
        rcases hcovers event hon hP hunread hlt with hdone | hmem
        · exact hdone.later _
        · cases hmem

/-! ## A page -/

/-- The lifecycle events of a page, by their positions. -/
theorem mem_page_events {chain : Chain T} {start size : ℕ} {event : MandateLifecycleEvent}
    (hsound : chain.Sound) (hon : chain.OnChain event) (hle : start ≤ event.rpcEventId)
    (hlt : event.rpcEventId < (chain.respond retention start size).cursor.consumed) :
    event ∈ (fetchMandateLifecycleEvents (chain.respond retention start size)).events := by
  obtain ⟨raw, hi, hevent, -⟩ := hon.entry hsound
  refine List.mem_filterMap.mpr ⟨raw, ?_, hevent⟩
  exact Feed.mem_page_iff.mpr ⟨_, hle, hlt, hi⟩

/-- The page holds what it takes the cursor past. -/
theorem covers_pageTask {stored : Option IndexerCursorState} {startLedger scanned : ℕ}
    {request : GetEventsRequest} {response : GetEventsResponse} (hrows : Rows h s)
    (hp : (Phase.asking stored startLedger request).Positioned h s)
    (hanswer : s.chain.getEvents retention scanned request = .ok response)
    (hlossless : ∀ previous, stored = some previous →
      ∀ event, s.chain.OnChain event → P event →
        previous.cursor.consumed ≤ event.rpcEventId →
        s.chain.oldestLedger retention ≤ event.ledger) :
    (pageTask stored startLedger response).Covers P h s
      (fetchMandateLifecycleEvents response).events := by
  intro event hon hP hunread hlt
  obtain ⟨raw, hi, -, hledger⟩ := hon.entry hrows.sound
  -- an event whose ledger is not below the bound lies where the page starts, or after it
  have hfrom : ∀ bound, bound ≤ event.ledger →
      Feed.firstFrom EventResponse.ledger bound s.chain.stream ≤ event.rpcEventId := by
    intro bound hbound
    by_contra hbefore
    have hbelow := Feed.stamp_lt_of_lt_firstFrom hi (not_le.mp hbefore)
    omega
  right
  cases stored with
  | none =>
      obtain ⟨limit, rfl⟩ := hp
      obtain ⟨rfl, -⟩ := getEvents_startLedger hanswer
      exact mem_page_events hrows.sound hon (hfrom startLedger hunread) hlt
  | some previous =>
      obtain ⟨-, limit, rfl⟩ := hp
      obtain rfl := getEvents_cursor hanswer
      refine mem_page_events hrows.sound hon (max_le hunread (hfrom _ ?_)) hlt
      exact hlossless previous rfl event hon hP hunread

/-! ## One action -/

/-- **A worker's step.** -/
theorem Covered.worked {reply : Reply} {p p' : Phase} {e : Effect} (hcovered : Covered P h s)
    (hrows : Rows h s) (hp : p.Positioned h s) (hcovers : p.Covers P h s)
    (hw : Worked retention reply s p e s' p' ds)
    (hlossless : ∀ previous startLedger request scanned,
      p = .asking (some previous) startLedger request → reply = .served scanned →
      e = .getEvents request →
      s.chain.oldestLedger retention ≤ previous.lastLedger + 1 →
      ∀ event, s.chain.OnChain event → P event →
        previous.cursor.consumed ≤ event.rpcEventId →
        s.chain.oldestLedger retention ≤ event.ledger) :
    Covered P (h ++ ds) s' ∧ p'.Covers P (h ++ ds) s' := by
  have hrows' := (hrows.worked hp hw).1
  have hkept : storedRows ds = [] → s.chain.Extends s'.chain →
      s'.db.indexerCursor = s.db.indexerCursor → Covered P (h ++ ds) s' :=
    fun hstored hext hcursor => hcovered.later hrows hstored hext hrows'.sound hcursor
  have hstays := Chain.Extends.refl s.chain
  have hgoes : ∀ {task : Task} {ahead ahead' : List MandateLifecycleEvent},
      task.Positioned h s → task.Covers P h s ahead → s.chain.Extends s'.chain →
      (∀ event ∈ ahead, Processed (h ++ ds) event ∨ event ∈ ahead') →
      task.Covers P (h ++ ds) s' ahead' :=
    fun ht hold hext hahead => hold.later ht hext hrows'.sound hahead
  cases hw with
  | idle => exact ⟨hkept rfl hstays rfl, hcovers.later hp hstays hrows.sound⟩
  | page stored startLedger scanned request response hserved hanswer hgap =>
      refine ⟨hkept rfl hstays rfl, ?_⟩
      have hcovers' : (pageTask stored startLedger response).Covers P h s
          (fetchMandateLifecycleEvents response).events := by
        refine covers_pageTask hrows hp hanswer ?_
        rintro previous rfl
        refine hlossless previous startLedger request scanned rfl hserved rfl ?_
        have hpassed := retentionGap_eq_false.mp hgap
        obtain ⟨-, limit, rfl⟩ := hp
        rw [getEvents_cursor hanswer] at hpassed
        exact hpassed
      rw [List.append_nil]
      exact hcovers'
  | owned task event todo row _ =>
      exact ⟨hkept rfl hstays rfl, hgoes hp hcovers hstays fun event hmem => .inr hmem⟩
  | found task event todo merchantId _ =>
      exact ⟨hkept rfl hstays rfl, hgoes hp hcovers hstays fun event hmem => .inr hmem⟩
  -- the first event is done
  | skip task event todo =>
      refine ⟨hkept rfl hstays rfl, hgoes hp hcovers hstays fun event' hmem => ?_⟩
      rcases List.mem_cons.mp hmem with rfl | hmem
      · exact .inl ⟨_, List.mem_append_right _ List.mem_cons_self⟩
      · exact .inr hmem
  | write task event merchantId todo assetAddress =>
      refine ⟨hkept rfl hstays ?_, hgoes hp hcovers hstays fun event' hmem => ?_⟩
      · exact transact_eventStatements_indexerCursor _ _ _ _ _
      · rcases List.mem_cons.mp hmem with rfl | hmem
        · exact .inl ⟨_, List.mem_append_right _ List.mem_cons_self⟩
        · exact .inr hmem
  | create startLedger next hfree => exact ⟨hcovered.store hrows hcovers hfree, trivial⟩
  | update previous startLedger next hcurrent =>
      exact ⟨hcovered.store hrows hcovers hcurrent, trivial⟩
  | refresh merchantId mandateId mandate writesPayer =>
      refine ⟨hkept rfl hstays ?_, trivial⟩
      exact refreshMandateIndex_indexerCursor _ _ _ _ _ _
  | _ => exact ⟨hkept rfl hstays rfl, trivial⟩

end

/-- The invariant of a run: where the rows stand, and that what they have passed is processed. -/
abbrev Tracks (P : MandateLifecycleEvent → Prop) (q : System T × List Deed) : Prop :=
  Workers.Tracked Move (fun s phases => (Rows q.2 s ∧ Covered P q.2 s) ∧
    ∀ p ∈ phases, Phase.Positioned q.2 s p ∧ Phase.Covers P q.2 s p) q.1

theorem tracks_rows {P : MandateLifecycleEvent → Prop} {q : System T × List Deed}
    (h : Tracks P q) : Rows q.2 q.1.shared ∧ Covered P q.2 q.1.shared := by
  obtain ⟨phases, -, hgood, -⟩ := h
  exact hgood

/-- What a worker's step keeps of it, when nothing is lost that matters. -/
theorem tracks_worked {P : MandateLifecycleEvent → Prop} {q : System T × List Deed} {i : ℕ}
    {reply : Reply} {p p' : Phase} {e : Effect} {k : Answer e → Job Outcome} {s' : Shared T}
    {ds : List Deed} (hlossless : Lossless P retention q (.work i reply))
    (hk : q.1.running[i]? = some (.call e k))
    (hgood : Rows q.2 q.1.shared ∧ Covered P q.2 q.1.shared)
    (hfits : Phase.Positioned q.2 q.1.shared p ∧ Phase.Covers P q.2 q.1.shared p)
    (hw : Worked retention reply q.1.shared p e s' p' ds) :
    (Rows (q.2 ++ ds) s' ∧ Covered P (q.2 ++ ds) s') ∧
      (Phase.Positioned (q.2 ++ ds) s' p' ∧ Phase.Covers P (q.2 ++ ds) s' p') ∧
      ∀ p₀, Phase.Positioned q.2 q.1.shared p₀ ∧ Phase.Covers P q.2 q.1.shared p₀ →
        Phase.Positioned (q.2 ++ ds) s' p₀ ∧ Phase.Covers P (q.2 ++ ds) s' p₀ := by
  obtain ⟨hrows, hcovered⟩ := hgood
  obtain ⟨hp, hcovers⟩ := hfits
  obtain ⟨hrows', hp', hothers⟩ := hrows.worked hp hw
  obtain ⟨hcovered', hcovers'⟩ := hcovered.worked hrows hp hcovers hw fun previous startLedger
      request scanned hasking hserved hrequest hpassed => by
    subst hasking hserved hrequest
    obtain ⟨hmem, limit, rfl⟩ := hp
    refine hlossless previous hmem ?_ hpassed
    simp only [polled, hk]
  refine ⟨⟨hrows', hcovered'⟩, ⟨hp', hcovers'⟩, ?_⟩
  rintro p₀ ⟨hp₀, hcovers₀⟩
  refine ⟨hothers p₀ hp₀, hcovers₀.later hp₀ ?_ hrows'.sound⟩
  cases hw <;> exact .refl _

/-- And what happens outside the workers. -/
theorem tracks_happens {P : MandateLifecycleEvent → Prop} {h : List Deed} {s s' : Shared T}
    (hgood : Rows h s ∧ Covered P h s) (hh : Happens host s s') :
    (Rows h s' ∧ Covered P h s') ∧ ∀ p₀, Phase.Positioned h s p₀ ∧ Phase.Covers P h s p₀ →
      Phase.Positioned h s' p₀ ∧ Phase.Covers P h s' p₀ := by
  obtain ⟨hrows, hcovered⟩ := hgood
  obtain ⟨hrows', hothers⟩ := hrows.happens hh
  have hext : s.chain.Extends s'.chain := by
    cases hh with
    | closes included => exact (Chain.close_sound hrows.sound included).2
    | _ => exact .refl _
  have hcursor : s'.db.indexerCursor = s.db.indexerCursor := by cases hh <;> rfl
  have hlater : Covered P (h ++ []) s' := hcovered.later hrows rfl hext hrows'.sound hcursor
  rw [List.append_nil] at hlater
  refine ⟨⟨hrows', hlater⟩, ?_⟩
  rintro p₀ ⟨hp₀, hcovers₀⟩
  have hlater : p₀.Covers P (h ++ []) s' := hcovers₀.later hp₀ hext hrows'.sound
  rw [List.append_nil] at hlater
  exact ⟨hothers p₀ hp₀, hlater⟩

/-- **One action**, when nothing is lost that matters. -/
theorem tracks_exec {P : MandateLifecycleEvent → Prop} (q : System T × List Deed)
    (action : Action T) (hlossless : Lossless P retention q action) (h : Tracks P q) :
    Tracks P (execNoting host retention q action) := by
  refine @tracked_execNoting T host retention (fun h s => Rows h s ∧ Covered P h s)
    (fun h s p => Phase.Positioned h s p ∧ Phase.Covers P h s p) q action h ?_ ?_ ?_
  · rintro i reply p e k s' p' ds rfl hk hgood hfits hw
    exact tracks_worked hlossless hk hgood hfits hw
  · rintro p (_ | _)
    · exact ⟨trivial, trivial⟩
    · exact ⟨trivial, trivial⟩
  · exact fun s' hh hgood => tracks_happens hgood hh

theorem tracks_initial (P : MandateLifecycleEvent → Prop) (t₀ : U64) (tok₀ : T) (sequence : ℕ) :
    Tracks P (initial t₀ tok₀ sequence, []) := by
  refine ⟨[], ⟨rfl, fun hi => by cases hi⟩, ⟨rows_initial t₀ tok₀ sequence, ?_⟩, ?_⟩
  · intro first current hfirst
    cases hfirst
  · intro p hp
    cases hp

end

end Paymap.Indexer
