import Paymap.Lib.Runs

set_option autoImplicit false

/-! # Views rebuilt from an event log

A machine appends to a log of events; a reader that sees nothing but the log folds it, one event at
a time, into a view. `Explains` says that a step has logged enough for its own part: the events it
appends take the view before it to the view after it. When every step of a machine does, the whole
log of a run rebuilds the view of the state it reaches (`replay_run`).

The fold may fail, as a reader that meets an event it has no place for would.
-/

namespace EventLog

variable {σ α ε ι : Type}

/-- The view after the events `es`, from `i`. -/
def replay (apply : ι → ε → Option ι) (i : ι) (es : List ε) : Option ι := es.foldlM apply i

variable {apply : ι → ε → Option ι}

@[simp] theorem replay_nil (i : ι) : replay apply i [] = some i := rfl

@[simp] theorem replay_cons (i : ι) (e : ε) (es : List ε) :
    replay apply i (e :: es) = (apply i e).bind fun i' => replay apply i' es := rfl

theorem replay_append (i : ι) (es₁ es₂ : List ε) :
    replay apply i (es₁ ++ es₂) = (replay apply i es₁).bind fun i' => replay apply i' es₂ :=
  List.foldlM_append

/-- From `s` to `s'` the log has grown by events that take one view to the other. -/
def Explains (apply : ι → ε → Option ι) (log : σ → List ε) (view : σ → ι) (s s' : σ) : Prop :=
  ∃ es, log s' = log s ++ es ∧ replay apply (view s) es = some (view s')

variable {log : σ → List ε} {view : σ → ι}

/-- Nothing happened that a reader could see. -/
theorem explains_of_eq {s s' : σ} (hlog : log s' = log s) (hview : view s' = view s) :
    Explains apply log view s s' :=
  ⟨[], by rw [hlog, List.append_nil], by rw [hview, replay_nil]⟩

/-- **The log of a run rebuilds the view of its last state.** -/
theorem replay_run {exec : σ → α → σ} {P : σ → Prop} (hP : ∀ s a, P s → P (exec s a))
    (hstep : ∀ s a, P s → Explains apply log view s (exec s a)) {s : σ} (hs : P s)
    (hlog : log s = []) (l : List α) :
    replay apply (view s) (log (Runs.run exec s l)) = some (view (Runs.run exec s l)) := by
  have hrebuilt : P (Runs.run exec s l) ∧
      replay apply (view s) (log (Runs.run exec s l)) = some (view (Runs.run exec s l)) := by
    refine Runs.run_invariant
      (P := fun s' => P s' ∧ replay apply (view s) (log s') = some (view s')) ?_ ?_ l
    · intro s' a h
      obtain ⟨es, happended, hview⟩ := hstep s' a h.1
      refine ⟨hP s' a h.1, ?_⟩
      rw [happended, replay_append, h.2]
      exact hview
    · exact ⟨hs, by rw [hlog, replay_nil]⟩
  exact hrebuilt.2

end EventLog
