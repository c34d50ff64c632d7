import Paymap.Api.Idempotency

set_option autoImplicit false

/-! # What a step of a call can do

The text of a call is read as an automaton first (`Move`). `Worked` then says everything that a step of
a call can do to the table, to its own transaction and to its phase, and is all that an invariant of the
calls has to look at.
-/

namespace Paymap.Api.Idempotency

variable {σ : Handling}

/-! ## A call, move by move -/

/-- The row of a call whose handler has ended. -/
def Call.row (c : Call σ) (result : IdempotentHandlerResult σ) : IdempotencyKey σ :=
  ⟨c.requestHash, some result.status, σ.toJson result.body⟩

inductive Phase (σ : Handling) where
  | starting (c : Call σ)
  | begun (c : Call σ)
  /-- The key is inserted, and this is left of the handler. -/
  | handling (c : Call σ) (rest : Handler σ)
  | recorded (c : Call σ) (result : IdempotentHandlerResult σ)
  | conflicting (c : Call σ)
  | replaying (c : Call σ) (outcome : IdempotentOutcome σ)
  | failing (c : Call σ) (e : Thrown σ)
  | replying (c : Call σ) (result : Except (Thrown σ) (IdempotentOutcome σ))
  | ended (c : Call σ)

def Phase.call : Phase σ → Call σ
  | .starting c => c
  | .begun c => c
  | .handling c _ => c
  | .recorded c _ => c
  | .conflicting c => c
  | .replaying c _ => c
  | .failing c _ => c
  | .replying c _ => c
  | .ended c => c

inductive Move : Phase σ → (e : Effect σ) → Answer e → Phase σ → Prop where
  | begin (c : Call σ) : Move (.starting c) .beginTransaction (some ()) (.begun c)
  | unbegun (c : Call σ) :
      Move (.starting c) .beginTransaction none (.replying c (.error .database))
  | insertFailed (c : Call σ) :
      Move (.begun c) (.insertKey c.key c.requestHash) none (.failing c .database)
  | insert (c : Call σ) :
      Move (.begun c) (.insertKey c.key c.requestHash) (some true)
        (.handling c c.handler)
  | conflict (c : Call σ) :
      Move (.begun c) (.insertKey c.key c.requestHash) (some false) (.conflicting c)
  | statement (c : Call σ) (statement : σ.Statement)
      (k : Option (σ.Answer statement) → Handler σ) (answer : Option (σ.Answer statement)) :
      Move (.handling c (.call statement k)) (.statement statement) answer
        (.handling c (k answer))
  | threw (c : Call σ) (e : σ.Error) :
      Move (.handling c (.raise e)) .rollback () (.replying c (.error (.handler e)))
  | recordFailed (c : Call σ)
      (result : IdempotentHandlerResult σ) :
      Move (.handling c (.ret result))
        (.updateKey c.key result.status (σ.toJson result.body)) none (.failing c .database)
  | record (c : Call σ) (result : IdempotentHandlerResult σ) :
      Move (.handling c (.ret result))
        (.updateKey c.key result.status (σ.toJson result.body)) (some ()) (.recorded c result)
  | commitFailed (c : Call σ)
      (result : IdempotentHandlerResult σ) :
      Move (.recorded c result) .commit none (.replying c (.error .database))
  | commit (c : Call σ) (result : IdempotentHandlerResult σ) :
      Move (.recorded c result) .commit (some ())
        (.replying c (.ok ⟨false, result.status, .inl result.body⟩))
  | findFailed (c : Call σ) : Move (.conflicting c) (.findKey c.key) none (.failing c .database)
  | missing (c : Call σ) :
      Move (.conflicting c) (.findKey c.key) (some none) (.failing c .recordNotFound)
  | reused (c : Call σ) (row : IdempotencyKey σ) (other : row.requestHash ≠ c.requestHash) :
      Move (.conflicting c) (.findKey c.key) (some (some row)) (.failing c .idempotencyKeyReused)
  | processing (c : Call σ) (row : IdempotencyKey σ) (same : row.requestHash = c.requestHash)
      (unset : row.responseStatus = none ∨ row.responseBody = none) :
      Move (.conflicting c) (.findKey c.key) (some (some row))
        (.failing c .idempotencyKeyProcessing)
  | replay (c : Call σ) (row : IdempotencyKey σ) (status : ℕ) (body : σ.Json)
      (same : row.requestHash = c.requestHash) (hasStatus : row.responseStatus = some status)
      (hasBody : row.responseBody = some body) :
      Move (.conflicting c) (.findKey c.key) (some (some row))
        (.replaying c ⟨true, status, .inr body⟩)
  | replayUncommitted (c : Call σ) (outcome : IdempotentOutcome σ) :
      Move (.replaying c outcome) .commit none (.replying c (.error .database))
  | replayed (c : Call σ) (outcome : IdempotentOutcome σ) :
      Move (.replaying c outcome) .commit (some ()) (.replying c (.ok outcome))
  | rollback (c : Call σ) (e : Thrown σ) :
      Move (.failing c e) .rollback () (.replying c (.error e))
  | reply (c : Call σ) (result : Except (Thrown σ) (IdempotentOutcome σ)) :
      Move (.replying c result) (.reply result) () (.ended c)

/-! ## The program makes only these moves -/

section

variable {α : Type} {c : Call σ} {p : Phase σ} {Q : α → Phase σ → Prop}
  {Q' : Thrown σ → Phase σ → Prop}

/-- Ended with an outcome the transaction is about to be committed, with an error to be rolled back. -/
def Returns (c : Call σ) (outcome : IdempotentOutcome σ) (p : Phase σ) : Prop :=
  p = .replaying c outcome ∨ ∃ result, p = .recorded c result ∧
    outcome = ⟨false, result.status, .inl result.body⟩

def Throws (c : Call σ) (e : Thrown σ) (p : Phase σ) : Prop :=
  p = .failing c e ∨ ∃ x, p = .handling c (.raise x) ∧ e = .handler x

theorem ends_run {e : Effect σ} {f : Answer e → Job σ α} :
    (e.run >>= f).Ends Move Q Q' p ↔ ∀ a, ∃ p', Move p e a p' ∧ (f a).Ends Move Q Q' p' := Iff.rfl

theorem ends_runHandler (c : Call σ) :
    (runHandler c.key c.handler).Ends Move (Returns c) (Throws c) (.handling c c.handler) := by
  suffices h : ∀ handler : Handler σ,
      (runHandler c.key handler).Ends Move (Returns c) (Throws c) (.handling c handler) from
    h c.handler
  intro handler
  -- along the text of the handler
  induction handler with
  | ret result =>
      rintro (_ | ⟨⟨⟩⟩)
      · exact ⟨_, .recordFailed c result, .inl rfl⟩
      · exact ⟨_, .record c result, .inr ⟨result, rfl, rfl⟩⟩
  | raise e => exact .inr ⟨e, rfl, rfl⟩
  | call statement k ih =>
      exact fun answer => ⟨_, .statement c statement k answer, ih answer⟩

theorem ends_replay (c : Call σ) :
    (replay c.key c.requestHash).Ends Move (Returns c) (Throws c) (.conflicting c) := by
  unfold replay
  rw [ends_run]
  rintro (_ | _ | row)
  · exact ⟨_, .findFailed c, .inl rfl⟩
  · exact ⟨_, .missing c, .inl rfl⟩
  · by_cases hother : row.requestHash ≠ c.requestHash
    · refine ⟨_, .reused c row hother, ?_⟩
      simp only [if_pos hother]
      exact .inl rfl
    · have hsame := not_ne_iff.mp hother
      simp only [if_neg hother]
      split
      · rename_i status body hstatus hbody
        exact ⟨_, .replay c row status body hsame hstatus hbody, .inl rfl⟩
      · rename_i hnot
        refine ⟨_, .processing c row hsame ?_, .inl rfl⟩
        by_contra hboth
        rw [not_or] at hboth
        obtain ⟨status, hstatus⟩ := Option.ne_none_iff_exists'.mp hboth.1
        obtain ⟨body, hbody⟩ := Option.ne_none_iff_exists'.mp hboth.2
        exact hnot status body hstatus hbody

/-- The call has ended so, and its caller is about to be told. -/
abbrev EndsReplying (c : Call σ) (x : Job σ (IdempotentOutcome σ)) (p : Phase σ) : Prop :=
  x.Ends Move (fun outcome p' => p' = .replying c (.ok outcome))
    (fun e p' => p' = .replying c (.error e)) p

theorem ends_transaction {body : Job σ (IdempotentOutcome σ)}
    (hbody : body.Ends Move (Returns c) (Throws c) (.begun c)) :
    EndsReplying c (transaction body) (.starting c) := by
  unfold EndsReplying transaction
  rw [ends_run]
  rintro (_ | ⟨⟨⟩⟩)
  · exact ⟨_, .unbegun c, rfl⟩
  refine ⟨_, .begin c, ?_⟩
  simp only
  rw [Prog.ends_bind, Prog.ends_attempt]
  refine hbody.mono ?_ ?_
  · rintro outcome p (rfl | ⟨result, rfl, rfl⟩)
    · rw [ends_run]
      rintro (_ | ⟨⟨⟩⟩)
      · exact ⟨_, .replayUncommitted c outcome, rfl⟩
      · exact ⟨_, .replayed c outcome, rfl⟩
    · rw [ends_run]
      rintro (_ | ⟨⟨⟩⟩)
      · exact ⟨_, .commitFailed c result, rfl⟩
      · exact ⟨_, .commit c result, rfl⟩
  · rintro e p (rfl | ⟨x, rfl, rfl⟩)
    · exact fun _ => ⟨_, .rollback c e, rfl⟩
    · exact fun _ => ⟨_, .threw c x, rfl⟩

theorem ends_runIdempotent (c : Call σ) :
    EndsReplying c (runIdempotent c.key c.requestHash c.handler) (.starting c) := by
  refine ends_transaction ?_
  rw [ends_run]
  rintro (_ | _ | _)
  · exact ⟨_, .insertFailed c, .inl rfl⟩
  · exact ⟨_, .conflict c, ends_replay c⟩
  · exact ⟨_, .insert c, ends_runHandler c⟩

theorem serve_obeys (c : Call σ) : (serve c).Follows Move (fun _ _ => True) (.starting c) := by
  unfold serve
  rw [Prog.follows_bind, Prog.follows_attempt]
  refine (ends_runIdempotent c).mono ?_ ?_
  · rintro outcome p rfl
    exact fun _ => ⟨_, .reply c _, trivial⟩
  · rintro e p rfl
    exact fun _ => ⟨_, .reply c _, trivial⟩

end

/-! ## What a step does -/

/-- In these phases a request to the database fails, or the transaction is gone already. -/
inductive Fails : Phase σ → Phase σ → Prop where
  | insert (c : Call σ) : Fails (.begun c) (.failing c .database)
  | find (c : Call σ) : Fails (.conflicting c) (.failing c .database)
  | statement (c : Call σ) (statement : σ.Statement)
      (k : Option (σ.Answer statement) → Handler σ) :
      Fails (.handling c (.call statement k)) (.handling c (k none))
  | record (c : Call σ) (result : IdempotentHandlerResult σ) :
      Fails (.handling c (.ret result)) (.failing c .database)
  | commit (c : Call σ) (result : IdempotentHandlerResult σ) :
      Fails (.recorded c result) (.replying c (.error .database))
  | commitReplay (c : Call σ) (outcome : IdempotentOutcome σ) :
      Fails (.replaying c outcome) (.replying c (.error .database))

/-- What a call is to do about the row it has found. -/
inductive Finds (c : Call σ) : Option (IdempotencyKey σ) → Phase σ → Prop where
  | missing : Finds c none (.failing c .recordNotFound)
  | reused (row : IdempotencyKey σ) (other : row.requestHash ≠ c.requestHash) :
      Finds c (some row) (.failing c .idempotencyKeyReused)
  | processing (row : IdempotencyKey σ) (same : row.requestHash = c.requestHash)
      (unset : row.responseStatus = none ∨ row.responseBody = none) :
      Finds c (some row) (.failing c .idempotencyKeyProcessing)
  | replay (row : IdempotencyKey σ) (status : ℕ) (body : σ.Json)
      (same : row.requestHash = c.requestHash) (hasStatus : row.responseStatus = some status)
      (hasBody : row.responseBody = some body) :
      Finds c (some row) (.replaying c ⟨true, status, .inr body⟩)

inductive Worked (i : ℕ) (s : Shared σ) : Phase σ → Shared σ → Phase σ → Prop where
  | begin (c : Call σ) : Worked i s (.starting c) (s.put i .empty) (.begun c)
  | unbegun (c : Call σ) : Worked i s (.starting c) s (.replying c (.error .database))
  | lost (p p' : Phase σ) (fails : Fails p p') : Worked i s p (s.abort i) p'
  | insert (c : Call σ) (t : Transaction σ) (live : s.transactions.lookup i = some t)
      (unseen : s.find t c.key = none) (alone : s.waits i (.insertKey c.key c.requestHash) = false) :
      Worked i s (.begun c) (s.put i ⟨some (c.key, ⟨c.requestHash, none, none⟩), t.statements⟩)
        (.handling c c.handler)
  | conflict (c : Call σ) (t : Transaction σ) (live : s.transactions.lookup i = some t)
      (seen : (s.find t c.key).isSome) : Worked i s (.begun c) (s.put i t) (.conflicting c)
  | found (c : Call σ) (t : Transaction σ) (p' : Phase σ)
      (live : s.transactions.lookup i = some t) (finds : Finds c (s.find t c.key) p') :
      Worked i s (.conflicting c) (s.put i t) p'
  | statement (c : Call σ) (statement : σ.Statement)
      (k : Option (σ.Answer statement) → Handler σ) (answer : σ.Answer statement)
      (t : Transaction σ) (live : s.transactions.lookup i = some t) :
      Worked i s (.handling c (.call statement k))
        (s.put i ⟨t.row, t.statements ++ [statement]⟩)
        (.handling c (k (some answer)))
  | threw (c : Call σ) (e : σ.Error) :
      Worked i s (.handling c (.raise e)) (s.abort i) (.replying c (.error (.handler e)))
  | record (c : Call σ) (result : IdempotentHandlerResult σ)
      (t : Transaction σ) (live : s.transactions.lookup i = some t) :
      Worked i s (.handling c (.ret result))
        (s.put i ⟨(t.row? c.key).map fun row => (c.key, ⟨row.requestHash, some result.status,
          σ.toJson result.body⟩), t.statements⟩) (.recorded c result)
  | commit (c : Call σ) (result : IdempotentHandlerResult σ)
      (t : Transaction σ) (told : Except (Thrown σ) (IdempotentOutcome σ))
      (live : s.transactions.lookup i = some t)
      (told_eq : told = .ok ⟨false, result.status, .inl result.body⟩ ∨ told = .error .database) :
      Worked i s (.recorded c result) (s.commit i t) (.replying c told)
  | commitReplay (c : Call σ) (outcome : IdempotentOutcome σ) (t : Transaction σ)
      (told : Except (Thrown σ) (IdempotentOutcome σ)) (live : s.transactions.lookup i = some t)
      (told_eq : told = .ok outcome ∨ told = .error .database) :
      Worked i s (.replaying c outcome) (s.commit i t) (.replying c told)
  | rollback (c : Call σ) (e : Thrown σ) :
      Worked i s (.failing c e) (s.abort i) (.replying c (.error e))
  | reply (c : Call σ) (result : Except (Thrown σ) (IdempotentOutcome σ)) :
      Worked i s (.replying c result) { s with replies := s.replies.insert i result } (.ended c)

section

variable {s s' : Shared σ} {i : ℕ} {p p' : Phase σ}

/-- A statement is answered, or the transaction is gone. -/
theorem within_cases {α : Type} {reply : Reply σ}
    {answer : Transaction σ → ((statement : σ.Statement) → σ.Answer statement) → α}
    {f : Transaction σ → Transaction σ} {a : Option α} (h : s.within i reply answer f = (a, s')) :
    (a = none ∧ s' = s.abort i) ∨ ∃ t answers, s.transactions.lookup i = some t ∧
      a = some (answer t answers) ∧ s' = s.put i (f t) := by
  rcases Shared.layer.within_cases s i
    (reply.answers?.map fun answers t => some (answer t answers, f t)) with
    hgone | ⟨t, run, a', t', hlive, hrun, hran, hdone⟩
  · obtain ⟨ha, hs⟩ := Prod.mk.inj (hgone.symm.trans h)
    exact .inl ⟨ha.symm, hs.symm⟩
  · obtain ⟨answers, -, rfl⟩ := Option.map_eq_some_iff.mp hrun
    obtain ⟨rfl, rfl⟩ := Prod.mk.inj (Option.some.inj hran)
    obtain ⟨ha, hs⟩ := Prod.mk.inj (hdone.symm.trans h)
    exact .inr ⟨t, answers, hlive, ha.symm, hs.symm⟩

theorem commit_cases {reply : Reply σ} {a : Option Unit}
    (h : perform i reply .commit s = (a, s')) :
    (a = none ∧ s' = s.abort i) ∨ ∃ t, s.transactions.lookup i = some t ∧ s' = s.commit i t := by
  rcases Shared.layer.commit_cases (Shared.commit i) s i reply.fate with hgone | ⟨t, hlive, hdone⟩
  · obtain ⟨ha, hs⟩ := Prod.mk.inj (hgone.symm.trans h)
    exact .inl ⟨ha.symm, hs.symm⟩
  · exact .inr ⟨t, hlive, (congrArg Prod.snd h).symm.trans hdone⟩

/-- **Everything a step of a call can do**, when it need not wait. -/
theorem worked_of_move {reply : Reply σ} {e : Effect σ} (hwaits : s.waits i e = false)
    (hmove : Move p e (perform i reply e s).1 p') : Worked i s p (perform i reply e s).2 p' := by
  generalize hperf : perform i reply e s = r at hmove ⊢
  obtain ⟨a, s'⟩ := r
  dsimp only at hmove ⊢
  cases hmove with
  | begin c =>
      cases reply with
      | served answers =>
          obtain ⟨-, rfl⟩ := Prod.mk.inj hperf
          exact .begin c
      | _ => cases (Prod.mk.inj hperf).1
  | unbegun c =>
      cases reply with
      | served answers => cases (Prod.mk.inj hperf).1
      | _ =>
          obtain ⟨-, rfl⟩ := Prod.mk.inj hperf
          exact .unbegun c
  | insertFailed c =>
      rcases within_cases hperf with ⟨-, rfl⟩ | ⟨t, answers, -, ha, -⟩
      · exact .lost _ _ (.insert c)
      · cases ha
  | insert c =>
      rcases within_cases hperf with ⟨ha, -⟩ | ⟨t, answers, hlive, ha, rfl⟩
      · cases ha
      · have hunseen := Option.some.inj ha
        rw [if_pos hunseen.symm]
        exact .insert c t hlive (Option.isNone_iff_eq_none.mp hunseen.symm) hwaits
  | conflict c =>
      rcases within_cases hperf with ⟨ha, -⟩ | ⟨t, answers, hlive, ha, rfl⟩
      · cases ha
      · have hseen := Option.some.inj ha
        rw [if_neg (by rw [← hseen]; simp)]
        exact .conflict c t hlive (by rw [← Option.not_isNone, ← hseen]; rfl)
  | statement c statement k answer =>
      rcases within_cases hperf with ⟨rfl, rfl⟩ | ⟨t, answers, hlive, rfl, rfl⟩
      · exact .lost _ _ (.statement c statement k)
      · exact .statement c statement k (answers statement) t hlive
  | threw c e =>
      obtain ⟨-, rfl⟩ := Prod.mk.inj hperf
      exact .threw c e
  | recordFailed c result =>
      rcases within_cases hperf with ⟨-, rfl⟩ | ⟨t, answers, -, ha, -⟩
      · exact .lost _ _ (.record c result)
      · cases ha
  | record c result =>
      rcases within_cases hperf with ⟨ha, -⟩ | ⟨t, answers, hlive, -, rfl⟩
      · cases ha
      · exact .record c result t hlive
  | commitFailed c result =>
      rcases commit_cases hperf with ⟨-, rfl⟩ | ⟨t, hlive, rfl⟩
      · exact .lost _ _ (.commit c result)
      · exact .commit c result t _ hlive (.inr rfl)
  | commit c result =>
      rcases commit_cases hperf with ⟨ha, -⟩ | ⟨t, hlive, rfl⟩
      · cases ha
      · exact .commit c result t _ hlive (.inl rfl)
  | findFailed c =>
      rcases within_cases hperf with ⟨-, rfl⟩ | ⟨t, answers, -, ha, -⟩
      · exact .lost _ _ (.find c)
      · cases ha
  | missing c =>
      rcases within_cases hperf with ⟨ha, -⟩ | ⟨t, answers, hlive, ha, rfl⟩
      · cases ha
      · refine .found c t _ hlive ?_
        rw [← Option.some.inj ha]
        exact .missing
  | reused c row hother =>
      rcases within_cases hperf with ⟨ha, -⟩ | ⟨t, answers, hlive, ha, rfl⟩
      · cases ha
      · refine .found c t _ hlive ?_
        rw [← Option.some.inj ha]
        exact .reused row hother
  | processing c row hsame hunset =>
      rcases within_cases hperf with ⟨ha, -⟩ | ⟨t, answers, hlive, ha, rfl⟩
      · cases ha
      · refine .found c t _ hlive ?_
        rw [← Option.some.inj ha]
        exact .processing row hsame hunset
  | replay c row status body hsame hstatus hbody =>
      rcases within_cases hperf with ⟨ha, -⟩ | ⟨t, answers, hlive, ha, rfl⟩
      · cases ha
      · refine .found c t _ hlive ?_
        rw [← Option.some.inj ha]
        exact .replay row status body hsame hstatus hbody
  | replayUncommitted c outcome =>
      rcases commit_cases hperf with ⟨-, rfl⟩ | ⟨t, hlive, rfl⟩
      · exact .lost _ _ (.commitReplay c outcome)
      · exact .commitReplay c outcome t _ hlive (.inr rfl)
  | replayed c outcome =>
      rcases commit_cases hperf with ⟨ha, -⟩ | ⟨t, hlive, rfl⟩
      · cases ha
      · exact .commitReplay c outcome t _ hlive (.inl rfl)
  | rollback c e =>
      obtain ⟨-, rfl⟩ := Prod.mk.inj hperf
      exact .rollback c e
  | reply c result =>
      obtain ⟨-, rfl⟩ := Prod.mk.inj hperf
      exact .reply c result

end

/-! ## Calls and commits -/

def Action.call? : Action σ → Option (Call σ)
  | .call c => some c
  | _ => none

def Reply.isFailed : Reply σ → Bool
  | .failed => true
  | _ => false

/-- The transaction that is committed by this action, with its call. -/
def committing (s : System σ) : Action σ → Option (ℕ × Transaction σ)
  | .work worker reply =>
      match s.running[worker]? with
      | some (.call .commit _) =>
          if reply.isFailed then none
          else (s.shared.transactions.lookup worker).map fun t => (worker, t)
      | _ => none
  | _ => none

section

/-- No request to the database makes a call. -/
theorem perform_calls (worker : ℕ) (reply : Reply σ) (e : Effect σ) (s : Shared σ) :
    (perform worker reply e s).2.calls = s.calls := by
  have hwithin : ∀ {α : Type}
      (answer : Transaction σ → ((statement : σ.Statement) → σ.Answer statement) → α)
      (f : Transaction σ → Transaction σ),
      (s.within worker reply answer f).2.calls = s.calls :=
    fun _ _ => Shared.layer.within_frame Shared.calls (fun _ _ => rfl) s worker _
  cases e with
  | beginTransaction => cases reply <;> rfl
  | insertKey key requestHash => exact hwithin _ _
  | findKey key => exact hwithin _ _
  | statement statement => exact hwithin _ _
  | updateKey key status body => exact hwithin _ _
  | commit =>
      exact Shared.layer.commit_frame Shared.calls (fun _ _ => rfl) (Shared.commit worker)
        (fun _ _ => rfl) s worker reply.fate
  | rollback => rfl
  | reply result => rfl

theorem exec_calls (s : System σ) (action : Action σ) :
    (exec s action).shared.calls = s.shared.calls ++ action.call?.toList := by
  cases action with
  | call c => rfl
  | abort worker => exact (List.append_nil _).symm
  | work worker reply =>
      simp only [Action.call?, Option.toList_none, List.append_nil, exec]
      split
      · split
        · rfl
        · rcases Workers.work_cases (perform worker reply) worker s with hidle | ⟨e, k, -, hwork⟩
          · rw [hidle]
          · rw [hwork]
            exact perform_calls worker reply e s.shared
      · rfl

theorem run_calls (s : System σ) (actions : List (Action σ)) :
    (run s actions).shared.calls = s.shared.calls ++ actions.filterMap Action.call? := by
  induction actions generalizing s with
  | nil => exact (List.append_nil _).symm
  | cons action actions ih =>
      show (run (exec s action) actions).shared.calls = _
      rw [ih, exec_calls, List.append_assoc]
      cases hcall : action.call? <;> simp [hcall]

theorem perform_committed {worker : ℕ} {reply : Reply σ} {e : Effect σ} (s : Shared σ)
    (he : e ≠ .commit) : (perform worker reply e s).2.committed = s.committed := by
  have hwithin : ∀ {α : Type}
      (answer : Transaction σ → ((statement : σ.Statement) → σ.Answer statement) → α)
      (f : Transaction σ → Transaction σ),
      (s.within worker reply answer f).2.committed = s.committed :=
    fun _ _ => Shared.layer.within_frame Shared.committed (fun _ _ => rfl) s worker _
  cases e with
  | beginTransaction => cases reply <;> rfl
  | insertKey key requestHash => exact hwithin _ _
  | findKey key => exact hwithin _ _
  | statement statement => exact hwithin _ _
  | updateKey key status body => exact hwithin _ _
  | commit => exact absurd rfl he
  | rollback => rfl
  | reply result => rfl

theorem perform_commit {worker : ℕ} {reply : Reply σ} (s : Shared σ) :
    (perform worker reply .commit s).2.committed = s.committed ++
      (if reply.isFailed then none
        else (s.transactions.lookup worker).map fun t => (worker, t)).toList := by
  simp only [perform, Transactions.Layer.commit]
  cases hlive : s.transactions.lookup worker with
  | none => cases reply <;> exact (List.append_nil _).symm
  | some t =>
      cases reply with
      | served answers => rfl
      | unanswered => rfl
      | failed => exact (List.append_nil _).symm

/-- Only a commit adds to what is committed. -/
theorem exec_committed (s : System σ) (action : Action σ) :
    (exec s action).shared.committed = s.shared.committed ++ (committing s action).toList := by
  cases action with
  | call c => exact (List.append_nil _).symm
  | abort worker => exact (List.append_nil _).symm
  | work worker reply =>
      cases hrunning : s.running[worker]? with
      | none =>
          simp only [exec, committing, hrunning]
          exact (List.append_nil _).symm
      | some w =>
          cases w with
          | ret a =>
              simp only [exec, committing, hrunning]
              exact (List.append_nil _).symm
          | raise e =>
              simp only [exec, committing, hrunning]
              exact (List.append_nil _).symm
          | call e k =>
              by_cases he : e = .commit
              · subst he
                simp only [exec, committing, hrunning, Shared.waits, Workers.work]
                exact perform_commit s.shared
              · have hnone : committing s (.work worker reply) = none := by
                  simp only [committing, hrunning]
                  cases e <;> first | rfl | exact absurd rfl he
                rw [hnone, Option.toList_none, List.append_nil]
                simp only [exec, hrunning, Workers.work]
                split
                · rfl
                · exact perform_committed s.shared he

theorem committed_prefix_run (s : System σ) (actions : List (Action σ)) :
    s.shared.committed <+: (run s actions).shared.committed := by
  induction actions generalizing s with
  | nil => exact List.prefix_refl _
  | cons action actions ih =>
      have hfirst : s.shared.committed <+: (exec s action).shared.committed := by
        rw [exec_committed]
        exact List.prefix_append _ _
      exact hfirst.trans (ih (exec s action))

end

end Paymap.Api.Idempotency
