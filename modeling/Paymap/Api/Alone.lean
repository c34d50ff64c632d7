import Paymap.Api.Settled

set_option autoImplicit false

/-! # A call that is served alone

What a call is told that nobody comes between, and the row it leaves, are functions of the row of its
key, `Call.told` and `Call.leaves`.
-/

namespace Paymap.Api.Idempotency

variable {σ : Handling}

/-! ## What it is told -/

/-- What the handler ends with when its statements are answered so. -/
def Handler.result (answers : (statement : σ.Statement) → σ.Answer statement) :
    Handler σ → Except σ.Error (IdempotentHandlerResult σ)
  | .ret result => .ok result
  | .raise e => .error e
  | .call statement k => result answers (k (some (answers statement)))

/-- What a call is told, given the row of its key. -/
def Call.told (c : Call σ) (answers : (statement : σ.Statement) → σ.Answer statement) :
    Option (IdempotencyKey σ) → Except (Thrown σ) (IdempotentOutcome σ)
  | none =>
      match c.handler.result answers with
      | .ok result => .ok ⟨false, result.status, .inl result.body⟩
      | .error e => .error (.handler e)
  | some existing =>
      if existing.requestHash ≠ c.requestHash then .error .idempotencyKeyReused
      else
        match existing.responseStatus, existing.responseBody with
        | some status, some body => .ok ⟨true, status, .inr body⟩
        | _, _ => .error .idempotencyKeyProcessing

/-- The row of its key afterwards. -/
def Call.leaves (c : Call σ) (answers : (statement : σ.Statement) → σ.Answer statement) :
    Option (IdempotencyKey σ) → Option (IdempotencyKey σ)
  | none => (c.handler.result answers).toOption.map c.row
  | some existing => some existing

/-- The effect need not wait. -/
abbrev Ready (i : ℕ) (s : Shared σ) (e : Effect σ) : Prop := s.waits i e = false

abbrev Alone (i : ℕ) (answers : (statement : σ.Statement) → σ.Answer statement) {α : Type}
    (w : Job σ α) (s : Shared σ) (r : Except (Thrown σ) α) (s' : Shared σ) : Prop :=
  w.Evaluates (perform i (.served answers)) (Ready i) s r s'

section

variable {i : ℕ} {answers : (statement : σ.Statement) → σ.Answer statement} {s s' : Shared σ}
  {α : Type}

theorem within_put {t : Transaction σ}
    {answer : Transaction σ → ((statement : σ.Statement) → σ.Answer statement) → α}
    {f : Transaction σ → Transaction σ} :
    (s.put i t).within i (.served answers) answer f = (some (answer t answers), s.put i (f t)) :=
  Shared.layer.within_put rfl

theorem alone_handler (handler : Handler σ) (t : Transaction σ) : ∃ statements,
    Alone i answers handler.run (s.put i t) ((handler.result answers).mapError .handler)
      (s.put i ⟨t.row, statements⟩) := by
  induction handler generalizing t with
  | ret result => exact ⟨t.statements, .ret result _⟩
  | raise e => exact ⟨t.statements, .raise _ _⟩
  | call statement k ih =>
      obtain ⟨statements, hrest⟩ := ih (some (answers statement)) ⟨t.row, t.statements ++ [statement]⟩
      refine ⟨statements, .call rfl ?_⟩
      simp only [perform, within_put]
      exact hrest

theorem alone_runHandler (c : Call σ) : ∃ t : Transaction σ,
    Alone i answers (runHandler c.key c.handler)
      (s.put i ⟨some (c.key, ⟨c.requestHash, none, none⟩), []⟩) (c.told answers none) (s.put i t) ∧
    ∀ result, c.handler.result answers = .ok result → t.row = some (c.key, c.row result) := by
  obtain ⟨statements, hhandler⟩ := @alone_handler σ i answers s c.handler
    ⟨some (c.key, ⟨c.requestHash, none, none⟩), []⟩
  unfold Call.told runHandler
  cases hresult : c.handler.result answers with
  | error e =>
      rw [hresult] at hhandler
      exact ⟨_, hhandler.bind_error, fun result h => by cases h⟩
  | ok result =>
      rw [hresult] at hhandler
      refine ⟨⟨some (c.key, c.row result), statements⟩, hhandler.bind (.perform_bind rfl ?_), ?_⟩
      · simp only [perform, within_put, Transaction.row?, if_pos]
        exact .ret _ _
      · intro result' hresult'
        rw [Except.ok.inj hresult']

theorem alone_replay (c : Call σ) {row : IdempotencyKey σ} (hrow : s.rows.lookup c.key = some row) :
    Alone i answers (replay c.key c.requestHash) (s.put i .empty) (c.told answers (some row))
      (s.put i .empty) := by
  have hfind : (s.put i .empty).find .empty c.key = some row := hrow
  refine .perform_bind rfl ?_
  simp only [perform, within_put, hfind, Call.told, id]
  split
  · exact .raise _ _
  · obtain ⟨requestHash, responseStatus, responseBody⟩ := row
    rcases responseStatus with _ | status
    · exact .raise _ _
    · rcases responseBody with _ | body
      · exact .raise _ _
      · exact .ret _ _

theorem alone_transaction {body : Job σ (IdempotentOutcome σ)}
    {r : Except (Thrown σ) (IdempotentOutcome σ)} {t : Transaction σ} {P : Shared σ → Prop}
    (h : Alone i answers body (s.put i .empty) r (s.put i t))
    (hok : ∀ outcome, r = .ok outcome → P ((s.put i t).commit i t))
    (herror : ∀ e, r = .error e → P ((s.put i t).abort i)) :
    ∃ s', Alone i answers (transaction body) s r s' ∧ P s' := by
  cases r with
  | ok outcome =>
      refine ⟨_, .perform_bind rfl (h.attempt.bind (.perform_bind rfl ?_)), hok outcome rfl⟩
      simp only [perform, Transactions.Layer.commit, Shared.layer.lookup_put_self, Reply.fate]
      exact .ret _ _
  | error e =>
      exact ⟨_, .perform_bind rfl (h.attempt.bind (.perform_bind rfl (.raise _ _))), herror e rfl⟩

/-- Nobody else has inserted the key, so the insert need not wait. -/
theorem ready_insert {key : Key} {requestHash : String}
    (hfree : ∀ j u, j ≠ i → s.transactions.lookup j = some u → u.key? ≠ some key) :
    Ready i (s.put i .empty) (.insertKey key requestHash) := by
  have hheld : (s.put i .empty).held i key = false := by
    by_contra hheld
    obtain ⟨j, hj, hne⟩ := List.any_eq_true.mp (Bool.eq_true_of_not_eq_false hheld)
    obtain ⟨u, hu, hrow⟩ := FinMap.mem_keysWhere.mp hj
    have hji : j ≠ i := of_decide_eq_true hne
    obtain ⟨row, hrow⟩ := Option.isSome_iff_exists.mp hrow
    exact hfree j u hji ((extends_put.transactions j hji).symm.trans hu)
      (key?_eq_some.mpr ⟨row, row?_eq_some.mp hrow⟩)
  simp only [Ready, Shared.waits, hheld, Bool.and_false]

theorem alone_runIdempotent (c : Call σ)
    (hfree : ∀ j u, j ≠ i → s.transactions.lookup j = some u → u.key? ≠ some c.key) :
    ∃ s', Alone i answers (runIdempotent c.key c.requestHash c.handler) s
        (c.told answers (s.rows.lookup c.key)) s' ∧
      s'.rows.lookup c.key = c.leaves answers (s.rows.lookup c.key) ∧
      ∀ key ≠ c.key, s'.rows.lookup key = s.rows.lookup key := by
  have hready : Ready i (s.put i .empty) (.insertKey c.key c.requestHash) := ready_insert hfree
  unfold runIdempotent
  cases hrow : s.rows.lookup c.key with
  | none =>
      have hunseen : (s.put i .empty).find .empty c.key = none := hrow
      obtain ⟨t, hrun, hok⟩ := @alone_runHandler σ i answers s c
      refine alone_transaction (t := t) (.perform_bind hready ?_) (fun outcome htold => ?_)
        fun e htold => ?_
      · simp only [perform, within_put, hunseen, Option.isNone_none, if_true]
        exact hrun
      · cases hresult : c.handler.result answers with
        | error e =>
            simp only [Call.told, hresult] at htold
            cases htold
        | ok result =>
            have ht := hok result hresult
            refine ⟨?_, fun key hkey => ?_⟩
            · rw [lookup_rows_commit, row?_eq_some.mpr ht]
              simp only [Call.leaves, hresult]
              rfl
            · have hother : t.row? key = none := by
                simp only [Transaction.row?, ht, if_neg (Ne.symm hkey)]
              rw [lookup_rows_commit, hother]
              rfl
      · cases hresult : c.handler.result answers with
        | error e =>
            refine ⟨?_, fun _ _ => rfl⟩
            simp only [Call.leaves, hresult]
            exact hrow
        | ok result =>
            simp only [Call.told, hresult] at htold
            cases htold
  | some row =>
      have hseen : (s.put i .empty).find .empty c.key = some row := hrow
      -- committed or not, nothing has been inserted
      refine alone_transaction (t := .empty) (.perform_bind hready ?_)
        (fun _ _ => ⟨hrow, fun _ _ => rfl⟩) fun _ _ => ⟨hrow, fun _ _ => rfl⟩
      simp only [perform, within_put, hseen, Option.isNone_some]
      exact alone_replay c hrow

theorem alone_serve (c : Call σ)
    (hfree : ∀ j u, j ≠ i → s.transactions.lookup j = some u → u.key? ≠ some c.key) :
    ∃ s', Alone i answers (serve c) s (.ok ()) s' ∧
      s'.replies.lookup i = some (c.told answers (s.rows.lookup c.key)) ∧
      s'.rows.lookup c.key = c.leaves answers (s.rows.lookup c.key) ∧
      ∀ key ≠ c.key, s'.rows.lookup key = s.rows.lookup key := by
  obtain ⟨s', hs', hleaves, hother⟩ := @alone_runIdempotent σ i answers s c hfree
  exact ⟨_, hs'.attempt.bind (.call rfl (.ret _ _)), AList.lookup_insert _, hleaves, hother⟩

end

/-- A call that is worked on alone is carried to its end. -/
theorem run_alone {i : ℕ} {answers : (statement : σ.Statement) → σ.Answer statement}
    {w : Job σ Unit} {sh sh' : Shared σ} {r : Except (Thrown σ) Unit}
    (h : Alone i answers w sh r sh') {s : System σ} (hshared : s.shared = sh)
    (hw : s.running[i]? = some w) :
    ∃ n, (run s (List.replicate n (.work i (.served answers)))).shared = sh' := by
  induction h generalizing s with
  | ret a sh => exact ⟨0, hshared⟩
  | raise e sh => exact ⟨0, hshared⟩
  | @call e k sh r sh' hready _ ih =>
      have hi : i < s.running.length := (List.getElem?_eq_some_iff.mp hw).1
      have hstep : exec s (.work i (.served answers))
          = ⟨(perform i (.served answers) e sh).2,
            s.running.set i (k (perform i (.served answers) e sh).1)⟩ := by
        have hnot : ¬sh.waits i e = true := Bool.not_eq_true _ ▸ hready
        simp only [exec, hw, Workers.work, hshared, if_neg hnot]
      obtain ⟨n, hn⟩ := ih (s := exec s (.work i (.served answers))) (by rw [hstep])
        (by rw [hstep]; exact List.getElem?_set_self hi)
      exact ⟨n + 1, hn⟩

end Paymap.Api.Idempotency
