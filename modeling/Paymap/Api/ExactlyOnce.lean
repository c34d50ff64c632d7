import Paymap.Api.Alone

set_option autoImplicit false

/-! # One run of a handler under one key

However calls with the same key overlap, fail and are aborted, the transaction of at most one of them
commits a handler's work, and every caller that gets an answer gets the one of that transaction.
-/

namespace Paymap.Api.Idempotency

variable {σ : Handling}

/-! ## Exactly once -/

structure Shared.ExactlyOnce (s : Shared σ) : Prop where
  /-- Under each key at most one committed transaction has inserted its row. -/
  once : (s.committed.filterMap fun q => q.2.key?).Nodup
  /-- Such a transaction is a whole run of the call's handler and its result; any other one has done
  nothing. -/
  whole : ∀ i t, (i, t) ∈ s.committed → t = .empty ∨ ∃ c, s.calls[i]? = some c ∧ c.Yields t
  /-- The rows are those of the committed transactions. -/
  rows_iff : ∀ key row, s.rows.lookup key = some row ↔ ∃ i t, (i, t) ∈ s.committed ∧
    t.row = some (key, row)
  /-- Who gets an answer gets the committed one. -/
  returned : ∀ i outcome, s.replies.lookup i = some (.ok outcome) →
    ∃ c j c' t result, s.calls[i]? = some c ∧ s.calls[j]? = some c' ∧ (j, t) ∈ s.committed ∧
      c'.key = c.key ∧ c'.requestHash = c.requestHash ∧
      t.row = some (c'.key, c'.row result) ∧ c'.handler.Reaches t.statements (.ret result) ∧
      outcome.status = result.status ∧ outcome.json = σ.toJson result.body
  /-- A call with another hash than the committed one has committed nothing, and has been rejected,
  unless the database or its own handler had failed before. -/
  rejected : ∀ i c row, s.calls[i]? = some c → s.rows.lookup c.key = some row →
    row.requestHash ≠ c.requestHash → (∀ t, (i, t) ∈ s.committed → t = .empty) ∧
    ∀ result, s.replies.lookup i = some result → result = .error .idempotencyKeyReused ∨
      result = .error .database ∨ ∃ e, result = .error (.handler e)
  /-- A call whose handler has thrown leaves nothing. -/
  thrown : ∀ i e, s.replies.lookup i = some (.error (.handler e)) → s.Untouched i
  /-- A row that is found is there, and has its status. -/
  found : ∀ i, s.replies.lookup i ≠ some (.error .recordNotFound)
  processed : ∀ i, s.replies.lookup i = some (.error .idempotencyKeyProcessing) →
    ∃ c status, s.calls[i]? = some c ∧ s.rows.lookup c.key = some ⟨c.requestHash, some status, none⟩

section

variable {s : Shared σ} {phases : List (Phase σ)}

/-- A row is the result of a handler that has run to its end. -/
theorem Shared.Consistent.source (h : s.Consistent) {key : Key} {row : IdempotencyKey σ}
    (hrow : s.rows.lookup key = some row) : ∃ j c t result, s.calls[j]? = some c ∧
      (j, t) ∈ s.committed ∧ c.key = key ∧ row = c.row result ∧ t.row = some (c.key, c.row result) ∧
      c.handler.Reaches t.statements (.ret result) := by
  obtain ⟨⟨j, t⟩, hmem, ht⟩ := (h.rows_iff key row).mp hrow
  rcases h.whole (j, t) hmem with rfl | ⟨c, hc, result, hyields, hreaches⟩
  · cases ht
  · obtain ⟨hkey, hrow'⟩ := Prod.mk.inj (Option.some.inj (ht.symm.trans hyields))
    exact ⟨j, c, t, result, hc, hmem, hkey.symm, hrow', hyields, hreaches⟩

theorem Settled.told_call (h : Settled s phases) {i : ℕ}
    {result : Except (Thrown σ) (IdempotentOutcome σ)} (hr : s.replies.lookup i = some result) :
    ∃ c, s.calls[i]? = some c ∧ s.Justifies i c result := by
  obtain ⟨c, hover, hjust⟩ := h.told i result hr
  exact ⟨c, h.call_of hover, hjust⟩

theorem Settled.rejected (h : Settled s phases) {i : ℕ} {c : Call σ} {row : IdempotencyKey σ}
    (hc : s.calls[i]? = some c) (hrow : s.rows.lookup c.key = some row)
    (hother : row.requestHash ≠ c.requestHash) {result : Except (Thrown σ) (IdempotentOutcome σ)}
    (hr : s.replies.lookup i = some result) : result = .error .idempotencyKeyReused ∨
      result = .error .database ∨ ∃ e, result = .error (.handler e) := by
  obtain ⟨c', hc', hjust⟩ := h.told_call hr
  obtain rfl := Option.some.inj (hc.symm.trans hc')
  -- the row is the one that is there, and its hash is another one
  have hsame : ∀ row', s.rows.lookup c.key = some row' → row'.requestHash ≠ c.requestHash := by
    intro row' hrow'
    exact Option.some.inj (hrow.symm.trans hrow') ▸ hother
  rcases result with (_ | _ | _ | _ | e) | outcome
  · exact .inl rfl
  · obtain ⟨-, row', hrow', heq, -⟩ := hjust
    exact absurd heq (hsame row' hrow')
  · exact hjust.elim
  · exact .inr (.inl rfl)
  · exact .inr (.inr ⟨e, rfl⟩)
  · obtain ⟨row', hrow', heq, -⟩ := hjust
    exact absurd heq (hsame row' hrow')

theorem Settled.exactlyOnce (h : Settled s phases) : s.ExactlyOnce where
  once := h.consistent.once
  whole i t hmem := h.consistent.whole (i, t) hmem
  rows_iff key row := by
    rw [h.consistent.rows_iff]
    exact ⟨fun ⟨q, hmem, hrow⟩ => ⟨q.1, q.2, hmem, hrow⟩, fun ⟨i, t, hmem, hrow⟩ => ⟨(i, t), hmem, hrow⟩⟩
  returned i outcome hr := by
    obtain ⟨c, hc, row, hrow, hhash, hstatus, hbody⟩ := h.told_call hr
    obtain ⟨j, c', t, result, hc', hmem, hkey, rfl, ht, hreaches⟩ := h.consistent.source hrow
    exact ⟨c, j, c', t, result, hc, hc', hmem, hkey, hhash, ht, hreaches,
      (Option.some.inj hstatus).symm, hbody.symm⟩
  rejected i c row hc hrow hother := by
    refine ⟨fun t hmem => ?_, fun result hr => h.rejected hc hrow hother hr⟩
    rcases h.consistent.whole (i, t) hmem with hempty | ⟨c', hc', result, ht, -⟩
    · exact hempty
    · -- its own row would be the committed one
      obtain rfl := Option.some.inj (hc.symm.trans hc')
      have hown := (h.consistent.rows_iff c.key (c.row result)).mpr ⟨(i, t), hmem, ht⟩
      exact absurd (Option.some.inj (hrow.symm.trans hown) ▸ rfl) hother
  thrown i e hr := by
    obtain ⟨c, -, hjust⟩ := h.told_call hr
    exact hjust
  found i hr := by
    obtain ⟨c, -, hjust⟩ := h.told_call hr
    exact hjust
  processed i hr := by
    obtain ⟨c, hc, -, row, hrow, hhash, hunset⟩ := h.told_call hr
    obtain ⟨j, c', t, result, -, -, -, rfl, -, -⟩ := h.consistent.source hrow
    have hnone : σ.toJson result.body = none := hunset.resolve_left (by simp [Call.row])
    refine ⟨c, result.status, hc, hrow.trans ?_⟩
    rw [← hhash, ← hnone]
    rfl

end

/-! ## A call that comes too late -/

/-- All that a call may be told whose key is taken for another request. -/
def Refusal (result : Except (Thrown σ) (IdempotentOutcome σ)) : Prop :=
  result = .error .idempotencyKeyReused ∨ result = .error .database

/-- Its handler has not been run and will not be. -/
def Phase.Refused : Phase σ → Prop
  | .starting _ => True
  | .begun _ => True
  | .conflicting _ => True
  | .failing _ e => Refusal (.error e)
  | .replying _ result => Refusal result
  | .ended _ => True
  | _ => False

/-- The key of call `i` is taken for another request. -/
structure Late (i : ℕ) (c : Call σ) (s : Shared σ) (phases : List (Phase σ)) : Prop where
  settled : Settled s phases
  taken : ∃ row, s.rows.lookup c.key = some row ∧ row.requestHash ≠ c.requestHash
  refused : ∃ p, phases[i]? = some p ∧ p.call = c ∧ p.Refused
  told : ∀ result, s.replies.lookup i = some result → Refusal result

section

variable {s s' : Shared σ} {phases : List (Phase σ)} {i j : ℕ} {c : Call σ} {p p' : Phase σ}

theorem refused_of_worked (h : Late i c s phases) (hp : phases[i]? = some p) (hcall : p.call = c)
    (hrefused : p.Refused) (hw : Worked i s p s' p') : p'.call = c ∧ p'.Refused ∧
      ∀ result, s'.replies.lookup i = some result → Refusal result := by
  have hi := h.settled.fits i p hp
  obtain ⟨row, hrow, hother⟩ := h.taken
  cases hw with
  | begin c => exact ⟨hcall, trivial, h.told⟩
  | unbegun c => exact ⟨hcall, .inr rfl, h.told⟩
  | lost _ _ hfails =>
      cases hfails with
      | insert c => exact ⟨hcall, .inr rfl, h.told⟩
      | find c => exact ⟨hcall, .inr rfl, h.told⟩
      | statement c statement k => exact hrefused.elim
      | record c result => exact hrefused.elim
      | commit c result => exact hrefused.elim
      | commitReplay c outcome => exact hrefused.elim
  | insert c t hlive hunseen _ =>
      -- the row is there
      obtain rfl := hi.2 t hlive
      obtain rfl : c = _ := hcall
      rw [find_empty, hrow] at hunseen
      cases hunseen
  | conflict c t hlive _ => exact ⟨hcall, trivial, h.told⟩
  | found c t p' hlive hfinds =>
      obtain rfl := hi.2.1 t hlive
      obtain rfl : c = _ := hcall
      rw [find_empty, hrow] at hfinds
      cases hfinds with
      | reused _ _ => exact ⟨rfl, .inl rfl, h.told⟩
      | processing _ hsame _ => exact absurd hsame hother
      | replay _ status body hsame _ _ => exact absurd hsame hother
  | statement c statement k answer t hlive => exact hrefused.elim
  | threw c e => exact hrefused.elim
  | record c result t hlive => exact hrefused.elim
  | commit c result t told hlive _ => exact hrefused.elim
  | commitReplay c outcome t told hlive _ => exact hrefused.elim
  | rollback c e => exact ⟨hcall, hrefused, h.told⟩
  | reply c result =>
      refine ⟨hcall, trivial, fun told htold => ?_⟩
      obtain rfl := Option.some.inj ((AList.lookup_insert _).symm.trans htold)
      exact hrefused

theorem late_of_worked (h : Late i c s phases) (hp : phases[j]? = some p)
    (hw : Worked j s p s' p') : Late i c s' (phases.set j p') := by
  have hsettled := settled_of_worked h.settled hp hw
  have hext := hw.extends h.settled.consistent
  obtain ⟨row, hrow, hother⟩ := h.taken
  have htaken := hext.rows c.key row hrow
  obtain ⟨q, hq, hcall, hrefused⟩ := h.refused
  by_cases hj : j = i
  · subst hj
    obtain rfl := Option.some.inj (hp.symm.trans hq)
    obtain ⟨hcall', hrefused', htold⟩ := refused_of_worked h hp hcall hrefused hw
    exact ⟨hsettled, ⟨row, htaken, hother⟩,
      ⟨p', List.getElem?_set_self (List.getElem?_eq_some_iff.mp hp).1, hcall', hrefused'⟩, htold⟩
  · refine ⟨hsettled, ⟨row, htaken, hother⟩, ⟨q, (List.getElem?_set_ne hj).trans hq, hcall, hrefused⟩,
      fun result hr => ?_⟩
    exact h.told result ((hext.replies i (Ne.symm hj)).symm.trans hr)

end

theorem tracked_late {i : ℕ} {c : Call σ} (s : System σ) (action : Action σ)
    (h : Workers.Tracked Move (Late i c) s) : Workers.Tracked Move (Late i c) (exec s action) := by
  refine tracked_exec_of ?_ ?_ ?_ s action h
  · intro s phases c' h
    obtain ⟨q, hq, hrefused⟩ := h.refused
    have hi : i < phases.length := (List.getElem?_eq_some_iff.mp hq).1
    exact ⟨h.settled.call c', h.taken, ⟨q, (List.getElem?_append_left hi).trans hq, hrefused⟩, h.told⟩
  · exact fun s phases j h => ⟨h.settled.abort j, h.taken, h.refused, h.told⟩
  · exact fun s phases j p s' p' h hp hw => late_of_worked h hp hw

/-- Whatever else goes on, a late call is told nothing but a refusal. -/
theorem refusal_of_late (actions : List (Action σ)) {c : Call σ} {row : IdempotencyKey σ}
    (hrow : (run initial actions).shared.rows.lookup c.key = some row)
    (hother : row.requestHash ≠ c.requestHash) (later : List (Action σ))
    {result : Except (Thrown σ) (IdempotentOutcome σ)}
    (hr : (run (exec (run initial actions) (.call c)) later).shared.replies.lookup
      (run initial actions).shared.calls.length = some result) : Refusal result := by
  obtain ⟨phases, hin, hsettled⟩ := tracked_run actions
  have hlen : phases.length = (run initial actions).shared.calls.length := by
    rw [← hsettled.calls_eq, List.length_map]
  have hbefore : Workers.Tracked Move (fun _ phases' => phases' = phases)
      ((run initial actions).outside fun shared => { shared with calls := shared.calls ++ [c] }) :=
    ⟨phases, hin, rfl⟩
  have hlate : Workers.Tracked Move (Late phases.length c) (exec (run initial actions) (.call c)) := by
    refine hbefore.start_to (serve_obeys c) fun phases' hphases' => ?_
    subst hphases'
    refine ⟨hsettled.call c, ⟨row, hrow, hother⟩, ⟨.starting c, ?_, rfl, trivial⟩, ?_⟩
    · rw [List.getElem?_append_right (Nat.le_refl _), Nat.sub_self]
      rfl
    · -- nobody has told it anything yet
      intro result hresult
      obtain ⟨c', hover, -⟩ := hsettled.told _ result hresult
      exact absurd (List.getElem?_eq_some_iff.mp hover).1 (Nat.lt_irrefl _)
  obtain ⟨phases', -, hfinal⟩ := Runs.run_invariant tracked_late hlate later
  exact hfinal.told result (hlen ▸ hr)

/-! ## The register -/

/-- A call that comes now and is served alone is told what the row of its key says. -/
theorem run_served_alone (actions : List (Action σ)) (c : Call σ)
    (hfree : ∀ j u, (run initial actions).shared.transactions.lookup j = some u →
      u.key? ≠ some c.key) (answers : (statement : σ.Statement) → σ.Answer statement) :
    let s : System σ := run initial actions
    ∃ n,
      let s' := run (exec s (.call c))
        (List.replicate n (.work s.shared.calls.length (.served answers)))
      s'.shared.replies.lookup s.shared.calls.length
        = some (c.told answers (s.shared.rows.lookup c.key)) ∧
      s'.shared.rows.lookup c.key = c.leaves answers (s.shared.rows.lookup c.key) := by
  intro s
  obtain ⟨phases, hin, hsettled⟩ := tracked_run actions
  have hlen : s.running.length = s.shared.calls.length := by
    rw [← hin.length_eq, ← hsettled.calls_eq, List.length_map]
  obtain ⟨sh', halone, htold, hleaves, -⟩ := @alone_serve σ
    s.shared.calls.length answers { s.shared with calls := s.shared.calls ++ [c] } c
    fun j u _ hu => hfree j u hu
  have hserved : (exec s (.call c)).running[s.shared.calls.length]? = some (serve c) := by
    show (s.running ++ [serve c])[s.shared.calls.length]? = some (serve c)
    rw [← hlen, List.getElem?_append_right (Nat.le_refl _), Nat.sub_self]
    rfl
  obtain ⟨n, hn⟩ := run_alone halone (s := exec s (.call c)) rfl hserved
  refine ⟨n, ?_, ?_⟩
  · rw [hn]
    exact htold
  · rw [hn]
    exact hleaves

/-- **`runIdempotent` is an exactly-once register.** However the calls overlap, fail and are aborted,
the state reached is `ExactlyOnce`; a call that comes when its key is taken for another request is told
so; and a call that is served alone does what the row of its key says, as on a fresh key when there is
none. -/
theorem runIdempotent_exactly_once (actions : List (Action σ)) :
    let s : System σ := run initial actions
    s.shared.ExactlyOnce ∧
    (∀ c row, s.shared.rows.lookup c.key = some row → row.requestHash ≠ c.requestHash →
      ∀ later result, (run (exec s (.call c)) later).shared.replies.lookup s.shared.calls.length
        = some result → Refusal result) ∧
    ∀ c, (∀ j u, s.shared.transactions.lookup j = some u → u.key? ≠ some c.key) →
      ∀ answers, ∃ n,
        let s' := run (exec s (.call c))
          (List.replicate n (.work s.shared.calls.length (.served answers)))
        s'.shared.replies.lookup s.shared.calls.length
          = some (c.told answers (s.shared.rows.lookup c.key)) ∧
        s'.shared.rows.lookup c.key = c.leaves answers (s.shared.rows.lookup c.key) := by
  intro s
  obtain ⟨phases, -, hsettled⟩ := tracked_run actions
  exact ⟨hsettled.exactlyOnce,
    fun c row hrow hother later result hr => refusal_of_late actions hrow hother later hr,
    fun c hfree answers => run_served_alone actions c hfree answers⟩

end Paymap.Api.Idempotency
