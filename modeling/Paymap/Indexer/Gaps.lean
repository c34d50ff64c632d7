import Paymap.Indexer.Coverage

set_option autoImplicit false

/-! # The check for a gap

A tick compares the oldest ledger the RPC keeps with the `lastLedger` of the row it has read. That is
the ledger of the last event that was read, not the last ledger that was looked at, and it says
nothing of how far into this ledger the cursor has come. So the check is wrong on both sides.

* It passes when the ledger in which the cursor stands is the newest that is no longer kept, and then
  the rest of that ledger is skipped in silence (`no_silent_skip`, `split_ledger_skipped`).
* It fails when for longer than the retention window there was no event at all, and then a cursor
  that has missed nothing is given up (`no_false_gap_iff`, `quiet_gap`).
-/

namespace Paymap.Indexer

open Registry (Host)

section

variable {T : Type} {host : Host T} {retention : ℕ}

/-! ## What may be lost -/

/-- When the ledger up to which a reader has read is the newest that is no longer kept, no event that
matters is left in it. -/
def KeepsUnread (P : MandateLifecycleEvent → Prop) (retention : ℕ) (q : System T × List Deed)
    (action : Action T) : Prop :=
  ∀ cursor ∈ polled q.1 action, ∀ first ∈ firstStored q.2,
    q.1.shared.chain.oldestLedger retention = q.1.shared.chain.readUpTo first cursor + 1 →
    ∀ raw ∈ q.1.shared.chain.stream.drop cursor.consumed, ∀ event ∈ raw.lifecycleEvent?, P event →
      event.ledger ≠ q.1.shared.chain.readUpTo first cursor

instance (P : MandateLifecycleEvent → Prop) [DecidablePred P] (retention : ℕ)
    (q : System T × List Deed) (action : Action T) :
    Decidable (KeepsUnread P retention q action) := by
  unfold KeepsUnread
  infer_instance

theorem Rows.firstStored_isSome {h : List Deed} {state : IndexerCursorState}
    (hmem : state ∈ storedRows h) : ∃ first, firstStored h = some first := by
  unfold firstStored
  cases hrows : storedRows h with
  | nil =>
      rw [hrows] at hmem
      cases hmem
  | cons first rest => exact ⟨first, rfl⟩

/-- **Where the check passes, only the ledger the cursor stands in can be lost.** -/
theorem lossless_of_keepsUnread {P : MandateLifecycleEvent → Prop} {q : System T × List Deed}
    {action : Action T} (hrows : Rows q.2 q.1.shared) (h : KeepsUnread P retention q action) :
    Lossless P retention q action := by
  intro stored hmem hpolled hpassed event hon hP hunread
  obtain ⟨first, hfirst⟩ := Rows.firstStored_isSome hmem
  have hreached := hrows.reached stored hmem
  have hmark := hreached.lastLedger_eq (hrows.attained hfirst stored hmem)
  obtain ⟨raw, hi, hevent, hledger⟩ := hon.entry hrows.sound
  have hle : stored.lastLedger ≤ event.ledger := hledger ▸ hreached.unread hunread hi
  by_contra hlost
  have hraw : raw ∈ q.1.shared.chain.stream.drop stored.cursor.consumed := by
    refine List.mem_iff_getElem?.mpr ⟨event.rpcEventId - stored.cursor.consumed, ?_⟩
    rw [List.getElem?_drop, Nat.add_sub_cancel' hunread]
    exact hi
  refine h stored.cursor hpolled first hfirst ?_ raw hraw event hevent hP ?_
  · omega
  · omega

/-! ## Who asks with a cursor, and who throws -/

/-- A request for a page from a cursor. -/
def Effect.isPoll : Effect → Bool
  | .getEvents (.cursor _ _) => true
  | _ => false

/-- Programs that neither ask with a cursor nor throw for a gap. -/
abbrev Quiet {α : Type} (w : Job α) : Prop :=
  w.Within (fun e => e.isPoll = false) fun e => e ≠ .indexerRetentionGap

/-- An effect that is no such request, and then the rest. -/
theorem quiet_run {α : Type} {e : Effect} {f : Answer e → Job α} (he : e.isPoll = false)
    (hf : ∀ a, Quiet (f a)) : Quiet (e.run >>= f) := ⟨he, hf⟩

theorem quiet_orThrow {α : Type} (answer : Except DatabaseError α) : Quiet (orThrow answer) := by
  cases answer with
  | ok a => trivial
  | error e => exact fun heq => by cases heq

theorem quiet_resolveMerchant (event : MandateLifecycleEvent) : Quiet (resolveMerchant event) := by
  refine quiet_run rfl fun existing => ?_
  cases existing with
  | some row => trivial
  | none => exact ⟨rfl, fun merchant => trivial⟩

theorem quiet_resolveAssetAddress (event : MandateLifecycleEvent) :
    Quiet (resolveAssetAddress event) := by
  refine quiet_run rfl fun existing => ?_
  cases existing with
  | some row => trivial
  | none =>
      show Quiet (resolveAssetAddressForNewRow event)
      unfold resolveAssetAddressForNewRow
      split
      · trivial
      · refine quiet_run rfl fun mandate => ?_
        cases mandate with
        | some mandate => trivial
        | none => exact fun heq => by cases heq

theorem quiet_applyEvents (events : List MandateLifecycleEvent) : Quiet (applyEvents events) := by
  induction events with
  | nil => trivial
  | cons event events ih =>
      refine Prog.Within.bind ?_ fun _ => ih
      refine Prog.Within.bind (quiet_resolveMerchant event) fun merchant => ?_
      cases merchant with
      | none => trivial
      | some merchantId =>
          refine Prog.Within.bind (quiet_resolveAssetAddress event) fun assetAddress => ?_
          exact quiet_run rfl fun answer => quiet_orThrow answer

theorem quiet_advanceIndexerCursor (previous : Option IndexerCursorState)
    (next : IndexerCursorState) : Quiet (advanceIndexerCursor previous next) := by
  cases previous with
  | none =>
      refine quiet_run rfl fun answer => ?_
      split
      · trivial
      · exact quiet_orThrow answer
  | some previous =>
      exact quiet_run rfl fun answer => quiet_orThrow answer

/-- A first run compares nothing. -/
theorem quiet_processPage_first (startLedger limit : ℕ) :
    Quiet (processPage none startLedger (.startLedger startLedger limit)) := by
  refine quiet_run rfl fun answer => ?_
  cases answer with
  | error message => exact fun heq => by cases heq
  | ok response =>
      refine Prog.Within.bind (quiet_applyEvents _) fun _ => ?_
      exact Prog.Within.bind (quiet_advanceIndexerCursor _ _) fun _ => trivial

/-- After a page the tick throws for a gap exactly when the check says so. -/
theorem raised_afterPage (stored : IndexerCursorState) (response : GetEventsResponse)
    {request : GetEventsRequest} {k : Answer (.getEvents request) → Job Outcome}
    (hk : processPage (some stored) 0 request = .call (.getEvents request) k) :
    (k (.ok response) = .raise .indexerRetentionGap ∧
        stored.lastLedger + 1 < response.oldestLedger) ∨
      (Quiet (k (.ok response)) ∧ response.oldestLedger ≤ stored.lastLedger + 1) := by
  change Prog.call (Effect.getEvents request) _ = Prog.call (Effect.getEvents request) k at hk
  cases hk
  by_cases hgap : retentionGap (some stored) (fetchMandateLifecycleEvents response) = true
  · left
    refine ⟨if_pos hgap, ?_⟩
    by_contra hpassed
    rw [retentionGap_eq_false.mpr (not_lt.mp hpassed)] at hgap
    cases hgap
  · right
    refine ⟨?_, retentionGap_eq_false.mp (by simpa using hgap)⟩
    show Quiet (if _ then _ else _ : Job Outcome)
    rw [if_neg hgap]
    refine Prog.Within.bind (quiet_applyEvents _) fun _ => ?_
    exact Prog.Within.bind (quiet_advanceIndexerCursor _ _) fun _ => trivial

/-- How far a worker has come, as far as gaps go. -/
inductive Stage (h : List Deed) : Job Outcome → Prop where
  | quiet (w : Job Outcome) (quiet : Quiet w) : Stage h w
  | starting (deps : IndexerDeps) : Stage h (runIndexerTick deps)
  | asking (stored : IndexerCursorState) (limit : ℕ) (mem : stored ∈ storedRows h) :
      Stage h (processPage (some stored) 0 (.cursor stored.cursor limit))
  | threw : Stage h (.raise .indexerRetentionGap)

theorem Stage.later {h : List Deed} {w : Job Outcome} (hstage : Stage h w) (ds : List Deed) :
    Stage (h ++ ds) w := by
  cases hstage with
  | quiet w hquiet => exact .quiet w hquiet
  | starting deps => exact .starting deps
  | asking stored limit hmem => exact .asking stored limit (mem_storedRows_append hmem)
  | threw => exact .threw

theorem quiet_getMandateRoute (merchantId : Relayer.Uuid) (mandateId : Registry.BytesN) :
    Quiet (getMandateRoute merchantId mandateId) := by
  refine quiet_run rfl fun wallet => ?_
  cases wallet with
  | none => exact fun heq => by cases heq
  | some walletAddress =>
      refine quiet_run rfl fun answer => ?_
      cases answer with
      | none => exact fun heq => by cases heq
      | some mandate =>
          show Quiet (if _ then _ else _ : Job Outcome)
          split
          · exact ⟨rfl, fun _ => trivial⟩
          · exact fun heq => by cases heq

theorem quiet_linkMandateRoute (merchantId : Relayer.Uuid)
    (assetAddress payerAddress : Registry.Address) (mandateId : Registry.BytesN) :
    Quiet (linkMandateRoute merchantId assetAddress payerAddress mandateId) := by
  refine quiet_run rfl fun wallet => ?_
  cases wallet with
  | none => exact fun heq => by cases heq
  | some walletAddress =>
      refine quiet_run rfl fun answer => ?_
      cases answer with
      | none => exact fun heq => by cases heq
      | some mandate =>
          show Quiet (if _ then _ else _ : Job Outcome)
          split
          · exact ⟨rfl, fun _ => trivial⟩
          · exact fun heq => by cases heq

/-! ## One action -/

/-- What the worker of an action has ended with. -/
def thrown (s : System T) : Action T → Option Thrown
  | .work worker _ => (s.running[worker]?).bind Prog.raised?
  | _ => none

/-- A request for a page from a cursor that does not arrive. -/
def Unreached (s : System T) : Action T → Prop
  | .work worker (.failed _) =>
      match s.running[worker]? with
      | some (.call (.getEvents _) _) => True
      | _ => False
  | _ => False

instance (s : System T) (action : Action T) : Decidable (Unreached s action) := by
  unfold Unreached
  split
  · split <;> infer_instance
  · infer_instance

/-- What a worker's effect, answered, leads to. It throws when it has asked from a stored row and the
check says so, or perhaps when its request has failed. -/
inductive Answered (retention : ℕ) (reply : Reply) (h : List Deed) (s : Shared T) :
    Effect → Job Outcome → Prop where
  | other (e : Effect) (w : Job Outcome) (noPoll : e.isPoll = false)
      (silent : w.raised? ≠ some .indexerRetentionGap) (stage : Stage h w) :
      Answered retention reply h s e w
  | unreached (stored : IndexerCursorState) (limit : ℕ) (message : String) (w : Job Outcome)
      (failed : reply = .failed message) (stage : Stage h w) :
      Answered retention reply h s (.getEvents (.cursor stored.cursor limit)) w
  | gap (stored : IndexerCursorState) (limit scanned : ℕ) (mem : stored ∈ storedRows h)
      (served : reply = .served scanned)
      (behind : stored.lastLedger + 1 < s.chain.oldestLedger retention) :
      Answered retention reply h s (.getEvents (.cursor stored.cursor limit))
        (.raise .indexerRetentionGap)
  | passes (stored : IndexerCursorState) (limit scanned : ℕ) (w : Job Outcome)
      (mem : stored ∈ storedRows h) (served : reply = .served scanned)
      (inTime : s.chain.oldestLedger retention ≤ stored.lastLedger + 1) (quiet : Quiet w) :
      Answered retention reply h s (.getEvents (.cursor stored.cursor limit)) w

theorem Answered.stage {reply : Reply} {h : List Deed} {s : Shared T} {e : Effect}
    {w : Job Outcome} (ha : Answered retention reply h s e w) : Stage h w := by
  cases ha with
  | other e w _ _ hstage => exact hstage
  | unreached stored limit message w _ hstage => exact hstage
  | gap => exact .threw
  | passes stored limit scanned w _ _ _ hquiet => exact .quiet w hquiet

/-- **A worker's effect.** -/
theorem answered_work (retention : ℕ) {h : List Deed} {s : Shared T} {e : Effect}
    {k : Answer e → Job Outcome} (hrows : Rows h s) (reply : Reply) (hstage : Stage h (.call e k)) :
    Answered retention reply h s e (k (perform retention reply e s).1) := by
  generalize hw : Prog.call e k = w at hstage
  cases hstage with
  | quiet _ hquiet =>
      subst hw
      refine .other _ _ hquiet.1 (fun hraised => ?_) (.quiet _ (hquiet.2 _))
      exact (hquiet.2 _).raised? hraised rfl
  | starting deps =>
      change Prog.call e k = Prog.call Effect.getIndexerCursor _ at hw
      cases hw
      have hread : (perform retention reply .getIndexerCursor s).1 = s.db.indexerCursor := rfl
      rw [hread]
      cases hcurrent : s.db.indexerCursor with
      | some stored =>
          refine .other _ _ rfl (fun heq => by cases heq) ?_
          exact .asking stored deps.pageLimit (hrows.current_mem hcurrent)
      | none =>
          refine .other _ _ rfl (fun heq => by cases heq) ?_
          refine .quiet _ (quiet_run rfl fun latest => ?_)
          cases latest with
          | error message => exact fun heq => by cases heq
          | ok latest => exact quiet_processPage_first _ _
  | asking stored limit hmem =>
      change Prog.call e k = Prog.call (Effect.getEvents (.cursor stored.cursor limit)) _ at hw
      have he : e = .getEvents (.cursor stored.cursor limit) := by injection hw
      subst he
      cases reply with
      | failed message =>
          refine .unreached stored limit message _ rfl ?_
          cases hw
          show Stage h (if _ then _ else _)
          split
          · exact .threw
          · exact .quiet _ fun heq => by cases heq
      | served scanned =>
          obtain ⟨response, hanswer, holdest⟩ : ∃ response,
              s.chain.getEvents retention scanned (.cursor stored.cursor limit) = .ok response ∧
                response.oldestLedger = s.chain.oldestLedger retention := ⟨_, rfl, rfl⟩
          have hperform : (perform retention (.served scanned)
              (.getEvents (.cursor stored.cursor limit)) s).1 = .ok response := hanswer
          rw [hperform]
          rcases raised_afterPage stored response hw.symm with ⟨hraise, hbehind⟩ | ⟨hquiet, hpassed⟩
          · rw [hraise]
            exact .gap stored limit scanned hmem rfl (holdest ▸ hbehind)
          · exact .passes stored limit scanned _ hmem rfl (holdest ▸ hpassed) hquiet
  | threw => cases hw

/-- Every worker of a run is at one of the stages. -/
def Staged (q : System T × List Deed) : Prop := ∀ w ∈ q.1.running, Stage q.2 w

theorem staged_exec {q : System T × List Deed} (hrows : Rows q.2 q.1.shared) (h : Staged q)
    (action : Action T) : Staged (execNoting host retention q action) := by
  have hkept : ∀ ds, ∀ w ∈ q.1.running, Stage (q.2 ++ ds) w := fun ds w hw => (h w hw).later ds
  have hstart : ∀ ds w, Stage (q.2 ++ ds) w → ∀ w' ∈ q.1.running ++ [w], Stage (q.2 ++ ds) w' := by
    intro ds w hw w' hw'
    rcases List.mem_append.mp hw' with hw' | hw'
    · exact hkept ds w' hw'
    · exact List.mem_singleton.mp hw' ▸ hw
  cases action with
  | startTick deps => exact hstart _ _ (.starting deps)
  | requestMandate merchantId mandateId =>
      exact hstart _ _ (.quiet _ (quiet_getMandateRoute merchantId mandateId))
  | requestLink merchantId assetAddress payerAddress mandateId =>
      exact hstart _ _ (.quiet _ (quiet_linkMandateRoute _ _ _ _))
  | work i reply =>
      show ∀ w ∈ (q.1.work (perform retention reply) i).running, Stage _ w
      rcases Workers.work_cases (perform retention reply) i q.1 with hidle | ⟨e, k, hk, hwork⟩
      · rw [hidle]
        exact hkept _
      · rw [hwork]
        intro w hw
        rcases List.mem_or_eq_of_mem_set hw with hw | rfl
        · exact hkept _ w hw
        · exact (answered_work retention hrows reply (h _ (List.mem_of_getElem? hk))).stage.later _
  | _ => exact hkept _

/-! ## No silent skip -/

theorem polled_eq_some {s : System T} {action : Action T} {cursor : Cursor}
    (h : polled s action = some cursor) :
    ∃ i scanned limit k, action = .work i (.served scanned) ∧
      s.running[i]? = some (.call (.getEvents (.cursor cursor limit)) k) := by
  unfold polled at h
  split at h
  · rename_i i scanned
    split at h
    · rename_i cursor' limit k hk
      obtain rfl := Option.some.inj h
      exact ⟨i, scanned, limit, k, rfl, hk⟩
    · cases h
  · cases h

/-- A tick whose page would begin behind an event that was not read throws, and changes nothing. -/
theorem skip_throws {q : System T × List Deed} {action : Action T} {cursor : Cursor}
    (hrows : Rows q.2 q.1.shared) (hstaged : Staged q)
    (hlossless : Lossless (fun _ => True) retention q action)
    (hpolled : polled q.1 action = some cursor) {event : MandateLifecycleEvent}
    (hon : q.1.shared.chain.OnChain event) (hunread : cursor.consumed ≤ event.rpcEventId)
    (hlost : event.ledger < q.1.shared.chain.oldestLedger retention) :
    thrown (exec host retention q.1 action) action = some .indexerRetentionGap ∧
      (exec host retention q.1 action).shared = q.1.shared := by
  obtain ⟨i, scanned, limit, k, rfl, hk⟩ := polled_eq_some hpolled
  have hwork : exec host retention q.1 (.work i (.served scanned)) = ⟨q.1.shared,
      q.1.running.set i (k (perform retention (.served scanned)
        (.getEvents (.cursor cursor limit)) q.1.shared).1)⟩ := by
    simp only [exec, Workers.work, hk]
    rfl
  have hanswered := answered_work retention hrows (.served scanned)
    (hstaged _ (List.mem_of_getElem? hk))
  rw [hwork]
  refine ⟨?_, rfl⟩
  simp only [thrown, List.getElem?_set_self (List.getElem?_eq_some_iff.mp hk).1, Option.bind_some]
  generalize k _ = w at hanswered ⊢
  cases hanswered with
  | other _ _ hnoPoll => cases hnoPoll
  | unreached stored _ message _ hfailed => cases hfailed
  | gap => rfl
  | passes stored _ _ _ hmem _ hpassed =>
      -- the check has passed, so nothing unread is lost
      have hkept := hlossless stored hmem hpolled hpassed event hon trivial hunread
      omega

/-! ### Merchants who are known -/

/-- The event whose merchant the effect looks up, or that it writes. -/
def Effect.handles? : Effect → Option MandateLifecycleEvent
  | .findEventMerchant event => some event
  | .transact (.upsertMandateIndex event _ _ :: _) => some event
  | _ => none

/-- When the step comes to a lifecycle event, the event's merchant is registered. -/
def KnowsMerchant (s : System T) : Action T → Prop
  | .work worker _ =>
      match s.running[worker]? with
      | some (.call e _) => ∀ event ∈ e.handles?, (s.shared.db.merchantOf event.merchant).isSome = true
      | _ => True
  | _ => True

instance (s : System T) (action : Action T) : Decidable (KnowsMerchant s action) := by
  unfold KnowsMerchant
  split
  · split <;> infer_instance
  · infer_instance

/-- An effect that handles an event notes whether its merchant is registered. -/
theorem registered_of_deedsOf {s : Shared T} {e : Effect} {answer : Answer e}
    {event : MandateLifecycleEvent} {registered : Bool}
    (h : Deed.processed event registered ∈ deedsOf s e answer) :
    event ∈ e.handles? ∧ registered = (s.db.merchantOf event.merchant).isSome := by
  cases e with
  | findEventMerchant event' =>
      cases answer with
      | some merchantId => cases h
      | none =>
          have hmem : Deed.processed event registered ∈
              [Deed.processed event' (s.db.merchantOf event'.merchant).isSome] := h
          obtain ⟨rfl, hregistered⟩ := Deed.processed.inj (List.mem_singleton.mp hmem)
          exact ⟨rfl, hregistered⟩
  | transact statements =>
      simp only [deedsOf] at h
      split at h
      · obtain ⟨rfl, hregistered⟩ := Deed.processed.inj (List.mem_singleton.mp h)
        exact ⟨rfl, hregistered⟩
      · cases h
  | createIndexerCursor next =>
      simp only [deedsOf] at h
      split at h
      · cases List.mem_singleton.mp h
      · cases h
  | updateIndexerCursor previous next =>
      simp only [deedsOf] at h
      split at h
      · split_ifs at h
        · cases List.mem_singleton.mp h
        · cases h
      · cases h
  | _ => cases h

/-- No event was skipped for want of its merchant. -/
def NoneUnknown (q : System T × List Deed) : Prop := ∀ event, Deed.processed event false ∉ q.2

theorem noneUnknown_exec {q : System T × List Deed} {action : Action T}
    (hknows : KnowsMerchant q.1 action) (h : NoneUnknown q) :
    NoneUnknown (execNoting host retention q action) := by
  intro event hmem
  rcases List.mem_append.mp hmem with hbefore | hnew
  · exact h event hbefore
  · cases action with
    | work worker reply =>
        simp only [note] at hnew
        cases hworker : q.1.running[worker]? with
        | none =>
            rw [hworker] at hnew
            cases hnew
        | some w =>
            rw [hworker] at hnew
            cases w with
            | call e k =>
                obtain ⟨hhandles, hunknown⟩ := registered_of_deedsOf hnew
                simp only [KnowsMerchant, hworker] at hknows
                rw [hknows event hhandles] at hunknown
                cases hunknown
            | _ => cases hnew
    | _ => cases hnew

/-- **No silent skip**, where no split ledger is lost. In a run in which no page is asked for from a
cursor that stands inside the newest ledger no longer kept, with a lifecycle event of it unread, every
step that takes the cursor from one row to another has come to all lifecycle events between the two,
and has all of them applied if the tick has known the merchant of every event it came to; and a tick
that would skip one throws, with all tables as they were. -/
theorem no_silent_skip (host : Host T) (retention : ℕ) (t₀ : U64) (tok₀ : T) (sequence : ℕ)
    (actions : List (Action T))
    (h : ∀ q ∈ Runs.trace (execNoting host retention) (initial t₀ tok₀ sequence, []) actions,
      KeepsUnread (fun _ => True) retention q.1 q.2) :
    ∀ q ∈ Runs.trace (execNoting host retention) (initial t₀ tok₀ sequence, []) actions,
      (∀ previous next, q.1.1.shared.db.indexerCursor = some previous →
        (exec host retention q.1.1 q.2).shared.db.indexerCursor = some next →
        ∀ event, q.1.1.shared.chain.OnChain event →
          previous.cursor.consumed ≤ event.rpcEventId →
          event.rpcEventId < next.cursor.consumed →
          Processed (q.1.2 ++ note retention q.1.1 q.2) event ∧
          ((∀ q ∈ Runs.trace (execNoting host retention) (initial t₀ tok₀ sequence, []) actions,
            KnowsMerchant q.1.1 q.2) → Applied (q.1.2 ++ note retention q.1.1 q.2) event)) ∧
      ∀ cursor ∈ polled q.1.1 q.2,
        (∃ event, q.1.1.shared.chain.OnChain event ∧ cursor.consumed ≤ event.rpcEventId ∧
          event.ledger < q.1.1.shared.chain.oldestLedger retention) →
        thrown (exec host retention q.1.1 q.2) q.2 = some .indexerRetentionGap ∧
          (exec host retention q.1.1 q.2).shared = q.1.1.shared := by
  intro q hq
  have hstep : ∀ (q : System T × List Deed) (action : Action T),
      KeepsUnread (fun _ => True) retention q action →
      Tracks (fun _ => True) q ∧ Staged q →
      Tracks (fun _ => True) (execNoting host retention q action) ∧
        Staged (execNoting host retention q action) := by
    rintro q action hkeeps ⟨htracks, hstaged⟩
    have hrows := (tracks_rows htracks).1
    exact ⟨tracks_exec q action (lossless_of_keepsUnread hrows hkeeps) htracks,
      staged_exec hrows hstaged action⟩
  obtain ⟨htracks, hstaged⟩ := Runs.trace_invariant_along hstep
    ⟨tracks_initial _ t₀ tok₀ sequence, fun w hw => by cases hw⟩ h hq
  have hrows := (tracks_rows htracks).1
  have hlossless := lossless_of_keepsUnread hrows (h q hq)
  constructor
  · intro previous next hprevious hnext event hon hle hlt
    have hmem := hrows.current_mem hprevious
    obtain ⟨first, hfirst⟩ := Rows.firstStored_isSome hmem
    have hbefore := (hrows.attained hfirst previous hmem).consumed_le
    obtain ⟨-, hcovered⟩ := tracks_rows (tracks_exec q.1 q.2 hlossless htracks)
    have hfirst' : firstStored (q.1.2 ++ note retention q.1.1 q.2) = some first :=
      (firstStored_append hmem).trans hfirst
    have hprocessed := hcovered first next hfirst' hnext event
      ((extends_exec hrows.sound q.2).onChain hon) trivial (hbefore.trans hle) hlt
    refine ⟨hprocessed, fun hknows => ?_⟩
    have hnone : NoneUnknown q.1 := Runs.trace_invariant_along
      (fun _ _ hknown hq => noneUnknown_exec hknown hq) (fun _ hmem => by cases hmem) hknows hq
    obtain ⟨registered, hdeed⟩ := hprocessed
    cases registered with
    | true => exact hdeed
    | false => exact absurd hdeed (noneUnknown_exec (hknows q hq) hnone event)
  · rintro cursor hpolled ⟨event, hon, hunread, hlost⟩
    exact skip_throws hrows hstaged hlossless hpolled hon hunread hlost

/-! ## No false gap -/

/-- The ledger after the last one in which the reader has seen an event is still kept; if it has seen
none, that after the ledger from which the first run has asked. -/
def InTime (retention : ℕ) (q : System T × List Deed) (action : Action T) : Prop :=
  ∀ cursor ∈ polled q.1 action, ∀ first ∈ firstStored q.2,
    q.1.shared.chain.oldestLedger retention ≤ q.1.shared.chain.readUpTo first cursor + 1

instance (retention : ℕ) (q : System T × List Deed) (action : Action T) :
    Decidable (InTime retention q action) := by
  unfold InTime
  infer_instance

/-- No tick has thrown for a gap. -/
def NoGap (s : System T) : Prop := ∀ w ∈ s.running, w.raised? ≠ some .indexerRetentionGap

/-- A worker that has ended stays so. -/
theorem noGap_of_exec {s : System T} {action : Action T}
    (h : NoGap (exec host retention s action)) : NoGap s := by
  intro w hw
  cases action with
  | work i reply =>
      rcases Workers.work_cases (perform retention reply) i s with hidle | ⟨e, k, hk, hwork⟩
      · have hkept : w ∈ (s.work (perform retention reply) i).running := by rwa [hidle]
        exact h w hkept
      · obtain ⟨j, hj⟩ := List.mem_iff_getElem?.mp hw
        by_cases hij : i = j
        · -- it is this worker, which has not ended
          subst hij
          obtain rfl := Option.some.inj (hk.symm.trans hj)
          exact fun hraised => by cases hraised
        · refine h w (List.mem_iff_getElem?.mpr ⟨j, ?_⟩)
          show (s.work (perform retention reply) i).running[j]? = _
          rw [hwork, List.getElem?_set_ne hij, hj]
  | startTick deps => exact h w (List.mem_append_left _ hw)
  | requestMandate merchantId mandateId => exact h w (List.mem_append_left _ hw)
  | requestLink merchantId assetAddress payerAddress mandateId =>
      exact h w (List.mem_append_left _ hw)
  | _ => exact h w hw

theorem noGap_start {s : System T} {w : Job Outcome} (h : NoGap s)
    (hw : w.raised? ≠ some .indexerRetentionGap) : NoGap (s.start w) := by
  intro w' hw'
  rcases List.mem_append.mp hw' with hw' | hw'
  · exact h w' hw'
  · exact List.mem_singleton.mp hw' ▸ hw

theorem noGap_set {s : Shared T} {running : List (Job Outcome)} {i : ℕ} {w : Job Outcome}
    (h : ∀ w ∈ running, w.raised? ≠ some .indexerRetentionGap) (hi : i < running.length) :
    NoGap (⟨s, running.set i w⟩ : System T) ↔ w.raised? ≠ some .indexerRetentionGap := by
  constructor
  · exact fun hno => hno w (List.mem_iff_getElem?.mpr ⟨i, List.getElem?_set_self hi⟩)
  · intro hw w' hw'
    rcases List.mem_or_eq_of_mem_set hw' with hw' | rfl
    · exact h w' hw'
    · exact hw

/-- The row that a worker has asked from tells whether it asks in time. -/
theorem inTime_iff {q : System T × List Deed} {action : Action T} {stored : IndexerCursorState}
    (hrows : Rows q.2 q.1.shared) (hmem : stored ∈ storedRows q.2)
    (hpolled : polled q.1 action = some stored.cursor) :
    InTime retention q action ↔
      q.1.shared.chain.oldestLedger retention ≤ stored.lastLedger + 1 := by
  obtain ⟨first, hfirst⟩ := Rows.firstStored_isSome hmem
  have hmark := (hrows.reached stored hmem).lastLedger_eq (hrows.attained hfirst stored hmem)
  constructor
  · intro h
    rw [hmark]
    exact h stored.cursor hpolled first hfirst
  · intro h cursor hcursor first' hfirst'
    obtain rfl := Option.some.inj (hpolled.symm.trans hcursor)
    obtain rfl := Option.some.inj (hfirst.symm.trans hfirst')
    rwa [hmark] at h

/-- **One step throws exactly when it asks too late.** -/
theorem noGap_exec_iff {q : System T × List Deed} {action : Action T}
    (hrows : Rows q.2 q.1.shared) (hstaged : Staged q) (hreached : ¬ Unreached q.1 action)
    (h : NoGap q.1) : NoGap (exec host retention q.1 action) ↔ InTime retention q action := by
  cases action with
  | work i reply =>
      show NoGap (q.1.work (perform retention reply) i) ↔ _
      by_cases hcall : ∃ e k, q.1.running[i]? = some (.call e k)
      · obtain ⟨e, k, hk⟩ := hcall
        have hwork : q.1.work (perform retention reply) i = ⟨(perform retention reply e q.1.shared).2,
            q.1.running.set i (k (perform retention reply e q.1.shared).1)⟩ := by
          simp only [Workers.work, hk]
        rw [hwork, noGap_set h (List.getElem?_eq_some_iff.mp hk).1]
        have hanswered := answered_work retention hrows reply
          (hstaged _ (List.mem_of_getElem? hk))
        generalize k _ = w at hanswered
        cases hanswered with
        | other _ _ hnoPoll hsilent =>
            refine iff_of_true hsilent fun cursor hpolled => ?_
            obtain ⟨i', scanned, limit, k', haction, hk'⟩ := polled_eq_some hpolled
            cases haction
            cases hk.symm.trans hk'
            cases hnoPoll
        | unreached stored limit message _ hfailed =>
            subst hfailed
            simp only [Unreached, hk, not_true_eq_false] at hreached
        | gap stored limit scanned hmem hserved hbehind =>
            subst hserved
            have hpolled : polled q.1 (.work i (.served scanned)) = some stored.cursor := by
              simp only [polled, hk]
            rw [inTime_iff hrows hmem hpolled]
            exact iff_of_false (fun hnot => hnot rfl) (by omega)
        | passes stored limit scanned _ hmem hserved hpassed hquiet =>
            subst hserved
            have hpolled : polled q.1 (.work i (.served scanned)) = some stored.cursor := by
              simp only [polled, hk]
            rw [inTime_iff hrows hmem hpolled]
            exact iff_of_true (fun hraised => hquiet.raised? hraised rfl) hpassed
      · have hidle : q.1.work (perform retention reply) i = q.1 := by
          unfold Workers.work
          split
          · rename_i e k hk
            exact absurd ⟨e, k, hk⟩ hcall
          · rfl
        rw [hidle]
        refine iff_of_true h fun cursor hpolled => ?_
        obtain ⟨i', scanned, limit, k, haction, hk⟩ := polled_eq_some hpolled
        cases haction
        exact absurd ⟨_, k, hk⟩ hcall
  | startTick deps =>
      exact iff_of_true (noGap_start h fun hraised => by cases hraised) fun _ hpolled => by
        cases hpolled
  | requestMandate merchantId mandateId =>
      exact iff_of_true (noGap_start h fun hraised => by cases hraised) fun _ hpolled => by
        cases hpolled
  | requestLink merchantId assetAddress payerAddress mandateId =>
      exact iff_of_true (noGap_start h fun hraised => by cases hraised) fun _ hpolled => by
        cases hpolled
  | _ => exact iff_of_true h fun _ hpolled => by cases hpolled

/-- **When there are false gaps.** Among the runs whose requests with a cursor all arrive, those in
which no tick ever throws for a gap are the ones in which, at every such request, the ledger after the
last one with an event that was read is still kept; where no event was read, the ledger after the one
from which the first run has asked. -/
theorem no_false_gap_iff (host : Host T) (retention : ℕ) (t₀ : U64) (tok₀ : T) (sequence : ℕ)
    (actions : List (Action T))
    (h : ∀ q ∈ Runs.trace (execNoting host retention) (initial t₀ tok₀ sequence, []) actions,
      ¬ Unreached q.1.1 q.2) :
    NoGap (run host retention (initial t₀ tok₀ sequence) actions) ↔
      ∀ q ∈ Runs.trace (execNoting host retention) (initial t₀ tok₀ sequence, []) actions,
        InTime retention q.1 q.2 := by
  have hrows : ∀ (q : System T × List Deed) (action : Action T),
      Tracks (fun _ => False) q ∧ Staged q →
      Tracks (fun _ => False) (execNoting host retention q action) ∧
        Staged (execNoting host retention q action) := by
    rintro q action ⟨htracks, hstaged⟩
    -- no event matters, so none is lost
    have hlossless : Lossless (fun _ => False) retention q action :=
      fun _ _ _ _ _ _ hfalse => hfalse.elim
    exact ⟨tracks_exec q action hlossless htracks, staged_exec (tracks_rows htracks).1 hstaged action⟩
  have hrun := @Runs.run_iff_along (System T × List Deed) (Action T) (execNoting host retention)
    (fun q => Tracks (fun _ => False) q ∧ Staged q) (fun q => NoGap q.1)
    (fun q action => ¬ Unreached q.1 action) (fun q action => InTime retention q action) hrows
    (fun q action _ hno => noGap_of_exec hno)
    (fun q action hinv hreached hno =>
      noGap_exec_iff (tracks_rows hinv.1).1 hinv.2 hreached hno)
    (initial t₀ tok₀ sequence, [])
    ⟨tracks_initial _ t₀ tok₀ sequence, fun w hw => by cases hw⟩ (fun w hw => by cases hw)
    actions h
  rw [Runs.run_noting] at hrun
  exact hrun

/-! ## Two runs -/

section

open Registry (MockToken mockHost mockId)

/-- The merchant is registered. Two events lie in one ledger, and the first page holds one. Two ledgers
close before the next. -/
def splitLedger : List (Action MockToken) :=
  [.registerMerchant 1 ⟨2⟩, .closeLedger [mockCreate, mockPause], .startTick ⟨100, 1⟩] ++
    mockWork 0 8 ++ [.closeLedger [], .closeLedger [], .startTick ⟨100, 1⟩] ++ mockWork 1 2

def skippedEvent : MandateLifecycleEvent := ⟨.mandatePaused, mockId, ⟨1⟩, ⟨2⟩, 1, 1⟩

set_option maxRecDepth 4000 in
/-- **The second event is skipped in silence**: the cursor is taken past it, and it was not
processed. -/
theorem split_ledger_skipped :
    ∃ previous next, (run mockHost 2 mockIndexer splitLedger).shared.db.indexerCursor
        = some previous ∧
      (exec mockHost 2 (run mockHost 2 mockIndexer splitLedger)
        (.work 1 (.served 10))).shared.db.indexerCursor = some next ∧
      (run mockHost 2 mockIndexer splitLedger).shared.chain.OnChain skippedEvent ∧
      previous.cursor.consumed ≤ skippedEvent.rpcEventId ∧
      skippedEvent.rpcEventId < next.cursor.consumed ∧
      ¬ Processed (deeds mockHost 2 mockIndexer (splitLedger ++ [.work 1 (.served 10)]))
        skippedEvent := by
  have hbefore : (run mockHost 2 mockIndexer splitLedger).shared.db.indexerCursor
      = some ⟨1, ⟨1, 1⟩⟩ := by decide
  have hafter : (exec mockHost 2 (run mockHost 2 mockIndexer splitLedger)
      (.work 1 (.served 10))).shared.db.indexerCursor = some ⟨1, ⟨2, 3⟩⟩ := by decide
  have hdeeds : ∀ registered, Deed.processed skippedEvent registered ∉
      deeds mockHost 2 mockIndexer (splitLedger ++ [.work 1 (.served 10)]) := by decide
  refine ⟨_, _, hbefore, hafter, ?_, by decide, by decide, ?_⟩
  · exact List.mem_filterMap.mp (show skippedEvent ∈
      (run mockHost 2 mockIndexer splitLedger).shared.chain.stream.filterMap
        EventResponse.lifecycleEvent? by decide)
  · rintro ⟨registered, hmem⟩
    exact hdeeds registered hmem

/-- The same history, where more ledgers are kept. -/
def keptLedger : List (Action MockToken) := splitLedger ++ mockWork 1 3

set_option maxRecDepth 4000 in
theorem no_silent_skip_mock :
    Applied (deeds mockHost 9 mockIndexer (keptLedger ++ [.work 1 (.served 10)]))
      skippedEvent := by
  have hkeeps : ∀ q ∈ Runs.trace (execNoting mockHost 9) (mockIndexer, [])
      (keptLedger ++ [.work 1 (.served 10)]), KeepsUnread (fun _ => True) 9 q.1 q.2 := by decide
  have hknows : ∀ q ∈ Runs.trace (execNoting mockHost 9) (mockIndexer, [])
      (keptLedger ++ [.work 1 (.served 10)]), KnowsMerchant q.1.1 q.2 := by decide
  have hlast : ((run mockHost 9 mockIndexer keptLedger, deeds mockHost 9 mockIndexer keptLedger),
      Action.work 1 (.served 10)) ∈ Runs.trace (execNoting mockHost 9) (mockIndexer, [])
        (keptLedger ++ [.work 1 (.served 10)]) := by
    have hmem := @Runs.mem_trace_append_cons _ _ (execNoting mockHost 9) (mockIndexer, [])
      keptLedger (.work 1 (.served 10)) []
    rwa [Runs.run_noting] at hmem
  have hon : (run mockHost 9 mockIndexer keptLedger).shared.chain.OnChain skippedEvent :=
    List.mem_filterMap.mp (show skippedEvent ∈
      (run mockHost 9 mockIndexer keptLedger).shared.chain.stream.filterMap
        EventResponse.lifecycleEvent? by decide)
  have hskip := (no_silent_skip mockHost 9 0 Registry.mockFunds 0
    (keptLedger ++ [Action.work 1 (.served 10)]) hkeeps _ hlast).1
  have hdone := hskip ⟨1, ⟨1, 1⟩⟩ ⟨1, ⟨2, 3⟩⟩ (by decide) (by decide) skippedEvent hon (by decide)
    (by decide)
  rw [deeds, Runs.notes_append]
  exact hdone.2 hknows

/-- No event at all. A ledger closes, and the indexer polls. -/
def quietRun : List (Action MockToken) :=
  [.closeLedger [], .startTick .default] ++ mockWork 0 4 ++
    [.closeLedger [], .startTick .default] ++ mockWork 1 3 ++
    [.closeLedger [], .startTick .default] ++ mockWork 2 3 ++
    [.closeLedger [], .startTick .default] ++ mockWork 3 2

/-- The ledger at which a step asks for a page. -/
def pollLedger (s : System MockToken) : Action MockToken → List ℕ
  | .work worker (.served _) =>
      match s.running[worker]? with
      | some (.call (.getEvents _) _) => [s.shared.chain.sequence]
      | _ => []
  | _ => []

set_option maxRecDepth 4000 in
/-- **A false gap.** Every request arrives, the polls are one ledger apart where two are kept, and no
event was ever lost, since there is none; and the fourth tick throws. -/
theorem quiet_gap :
    (∀ q ∈ Runs.trace (execNoting mockHost 2) (mockIndexer, []) quietRun,
      ¬ Unreached q.1.1 q.2) ∧
    (Runs.notes (exec mockHost 2) pollLedger mockIndexer quietRun).IsChain
      (fun ledger ledger' => ledger' < ledger + 2) ∧
    (run mockHost 2 mockIndexer quietRun).shared.chain.stream = [] ∧
    ¬ NoGap (run mockHost 2 mockIndexer quietRun) := by
  refine ⟨by decide, by decide, by decide, fun hno => ?_⟩
  have hraised : ((run mockHost 2 mockIndexer quietRun).running[3]?).bind Prog.raised?
      = some .indexerRetentionGap := by decide
  obtain ⟨w, hw, hgap⟩ := Option.bind_eq_some_iff.mp hraised
  exact hno w (List.mem_of_getElem? hw) hgap

set_option maxRecDepth 4000 in
theorem no_false_gap_iff_mock : NoGap (run mockHost 9 mockIndexer quietRun) := by
  have hreached : ∀ q ∈ Runs.trace (execNoting mockHost 9) (mockIndexer, []) quietRun,
      ¬ Unreached q.1.1 q.2 := by decide
  have hintime : ∀ q ∈ Runs.trace (execNoting mockHost 9) (mockIndexer, []) quietRun,
      InTime 9 q.1 q.2 := by decide
  exact (no_false_gap_iff mockHost 9 0 Registry.mockFunds 0 quietRun hreached).mpr hintime

end

end

end Paymap.Indexer
