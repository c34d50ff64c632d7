import Mathlib.Algebra.BigOperators.Group.List.Basic
import Mathlib.Data.List.Forall2

set_option autoImplicit false

/-! # Runs of a state machine

A state machine is a total step function `exec : σ → ι → σ`; a run is a list of labels, and the
state it reaches is the fold. The rules here are the inductions over runs, each made once:

* `run_invariant` — what every step preserves holds of every state a run reaches; `run_invariant_of`
  and `run_invariant_along` are the same for runs whose steps meet a condition;
* `total_eq` — a quantity that every step changes by a measured amount has changed, over a run,
  by the sum of what was measured;
* `run_noting` — a history variable follows a run without taking part in it, so an invariant may
  speak of what has happened so far;
* `run_side_by_side` — what two runs have in common, when they agree on part of their steps.

`trace` lists the labels of a run, each with the state it was executed in.
-/

namespace Runs

variable {σ ι : Type}

/-- The state reached from `s` by the labels `l`. -/
def run (exec : σ → ι → σ) (s : σ) (l : List ι) : σ := l.foldl exec s

/-- The labels of a run, each with the state it was executed in. -/
def trace (exec : σ → ι → σ) : σ → List ι → List (σ × ι)
  | _, [] => []
  | s, i :: l => (s, i) :: trace exec (exec s i) l

variable {exec : σ → ι → σ}

@[simp] theorem run_nil (s : σ) : run exec s [] = s := rfl

@[simp] theorem run_cons (s : σ) (i : ι) (l : List ι) :
    run exec s (i :: l) = run exec (exec s i) l := rfl

theorem run_append (s : σ) (l₁ l₂ : List ι) :
    run exec s (l₁ ++ l₂) = run exec (run exec s l₁) l₂ := List.foldl_append

theorem run_concat (s : σ) (l : List ι) (i : ι) :
    run exec s (l ++ [i]) = exec (run exec s l) i := by
  rw [run_append]; rfl

/-! ## Inductions over a run -/

theorem mem_of_mem_trace {s : σ} {l : List ι} {q : σ × ι} (h : q ∈ trace exec s l) : q.2 ∈ l := by
  induction l generalizing s with
  | nil => cases h
  | cons i l ih =>
      rcases List.mem_cons.mp h with rfl | h
      · exact List.mem_cons_self
      · exact List.mem_cons_of_mem i (ih h)

/-- What every step preserves that meets the condition `C` on its label and on the state it is made
in holds at the end of a run of such steps. -/
theorem run_invariant_along {P : σ → Prop} {C : σ → ι → Prop}
    (hstep : ∀ s i, C s i → P s → P (exec s i)) {s : σ} (hs : P s) {l : List ι}
    (hl : ∀ q ∈ trace exec s l, C q.1 q.2) : P (run exec s l) := by
  induction l generalizing s with
  | nil => exact hs
  | cons i l ih =>
      have hfirst : C s i := hl (s, i) List.mem_cons_self
      exact ih (hstep s i hfirst hs) fun q hq => hl q (List.mem_cons_of_mem _ hq)

/-- The condition is on the labels alone. -/
theorem run_invariant_of {P : σ → Prop} {A : ι → Prop} (hstep : ∀ s i, A i → P s → P (exec s i))
    {s : σ} (hs : P s) {l : List ι} (hl : ∀ i ∈ l, A i) : P (run exec s l) :=
  run_invariant_along (C := fun _ i => A i) hstep hs fun q hq => hl q.2 (mem_of_mem_trace hq)

theorem run_invariant {P : σ → Prop} (hstep : ∀ s i, P s → P (exec s i)) {s : σ} (hs : P s)
    (l : List ι) : P (run exec s l) :=
  run_invariant_of (A := fun _ => True) (fun s i _ => hstep s i) hs fun _ _ => trivial

theorem trace_append (s : σ) (l₁ l₂ : List ι) :
    trace exec s (l₁ ++ l₂) = trace exec s l₁ ++ trace exec (run exec s l₁) l₂ := by
  induction l₁ generalizing s with
  | nil => rfl
  | cons i l₁ ih => exact congrArg ((s, i) :: ·) (ih (exec s i))

/-- A step of a run is made in the state that the run before it has reached. -/
theorem mem_trace_append_cons (s : σ) (l₁ : List ι) (i : ι) (l₂ : List ι) :
    (run exec s l₁, i) ∈ trace exec s (l₁ ++ i :: l₂) := by
  induction l₁ generalizing s with
  | nil => exact List.mem_cons_self
  | cons j l₁ ih => exact List.mem_cons_of_mem _ (ih (exec s j))

theorem exists_of_mem_trace {s : σ} {l : List ι} {q : σ × ι} (h : q ∈ trace exec s l) :
    ∃ l₁ l₂, l = l₁ ++ q.2 :: l₂ ∧ q.1 = run exec s l₁ := by
  induction l generalizing s with
  | nil => cases h
  | cons i l ih =>
      rcases List.mem_cons.mp h with rfl | h
      · exact ⟨[], l, rfl, rfl⟩
      · obtain ⟨l₁, l₂, hl, hq⟩ := ih h
        exact ⟨i :: l₁, l₂, congrArg (i :: ·) hl, hq⟩

/-- What every step preserves that meets the condition holds in each state a run of such steps passes
through. -/
theorem trace_invariant_along {P : σ → Prop} {C : σ → ι → Prop}
    (hstep : ∀ s i, C s i → P s → P (exec s i)) {s : σ} (hs : P s) {l : List ι}
    (hl : ∀ q ∈ trace exec s l, C q.1 q.2) {q : σ × ι} (hq : q ∈ trace exec s l) : P q.1 := by
  induction l generalizing s with
  | nil => cases hq
  | cons i l ih =>
      rcases List.mem_cons.mp hq with rfl | hq
      · exact hs
      · have hfirst : C s i := hl (s, i) List.mem_cons_self
        exact ih (hstep s i hfirst hs) (fun q hq => hl q (List.mem_cons_of_mem _ hq)) hq

/-- There is no condition on the steps. -/
theorem trace_invariant {P : σ → Prop} (hstep : ∀ s i, P s → P (exec s i)) {s : σ} (hs : P s)
    {l : List ι} {q : σ × ι} (hq : q ∈ trace exec s l) : P q.1 :=
  trace_invariant_along (C := fun _ _ => True) (fun s i _ => hstep s i) hs (fun _ _ => trivial) hq

/-- When `P`, once lost, stays lost, and a step keeps it exactly if it meets the condition `C`, then a
run keeps it exactly if all its steps do. `I` is an invariant, and `A` is assumed of the steps. -/
theorem run_iff_along {I P : σ → Prop} {A C : σ → ι → Prop} (hI : ∀ s i, I s → I (exec s i))
    (hback : ∀ s i, I s → P (exec s i) → P s)
    (hstep : ∀ s i, I s → A s i → P s → (P (exec s i) ↔ C s i)) {s : σ} (hIs : I s) (hs : P s)
    {l : List ι} (hl : ∀ q ∈ trace exec s l, A q.1 q.2) :
    P (run exec s l) ↔ ∀ q ∈ trace exec s l, C q.1 q.2 := by
  have hstart : ∀ s (l : List ι), I s → P (run exec s l) → P s := by
    intro s l
    induction l generalizing s with
    | nil => exact fun _ h => h
    | cons i l ih => exact fun hI' h => hback s i hI' (ih (exec s i) (hI s i hI') h)
  induction l generalizing s with
  | nil => exact iff_of_true hs fun q hq => by cases hq
  | cons i l ih =>
      have hfirst := hstep s i hIs (hl (s, i) List.mem_cons_self) hs
      have hrest : ∀ q ∈ trace exec (exec s i) l, A q.1 q.2 :=
        fun q hq => hl q (List.mem_cons_of_mem _ hq)
      constructor
      · intro h q hq
        have hkept : P (exec s i) := hstart _ l (hI s i hIs) h
        rcases List.mem_cons.mp hq with rfl | hq
        · exact hfirst.mp hkept
        · exact (ih (hI s i hIs) hkept hrest).mp h q hq
      · intro h
        have hkept : P (exec s i) := hfirst.mpr (h (s, i) List.mem_cons_self)
        exact (ih (hI s i hIs) hkept hrest).mpr fun q hq => h q (List.mem_cons_of_mem _ hq)

/-- What a step keeps exactly if it meets the condition `C` holds in every state of a run exactly if all
its steps do. `I` is an invariant. -/
theorem prefixes_iff_along {I P : σ → Prop} {C : σ → ι → Prop} (hI : ∀ s i, I s → I (exec s i))
    (hstep : ∀ s i, I s → P s → (P (exec s i) ↔ C s i)) {s : σ} (hIs : I s) (hs : P s) {l : List ι} :
    (∀ l₁ l₂, l = l₁ ++ l₂ → P (run exec s l₁)) ↔ ∀ q ∈ trace exec s l, C q.1 q.2 := by
  constructor
  · intro h q hq
    induction l generalizing s with
    | nil => cases hq
    | cons i l ih =>
        have hnext : P (exec s i) := h [i] l rfl
        rcases List.mem_cons.mp hq with rfl | hq
        · exact (hstep s i hIs hs).mp hnext
        · exact ih (hI s i hIs) hnext (fun l₁ l₂ hl => h (i :: l₁) l₂ (congrArg (i :: ·) hl)) hq
  · rintro h l₁ l₂ rfl
    have hprefix : ∀ q ∈ trace exec s l₁, C q.1 q.2 := fun q hq =>
      h q (trace_append s l₁ l₂ ▸ List.mem_append_left _ hq)
    refine (run_invariant_along (P := fun s => I s ∧ P s) (fun s i hC hIP => ?_) ⟨hIs, hs⟩ hprefix).2
    exact ⟨hI s i hIP.1, (hstep s i hIP.1 hIP.2).mpr hC⟩

/-- The sum over a run of what `f` measures at each step. -/
def total {M : Type} [AddMonoid M] (exec : σ → ι → σ) (f : σ → ι → M) (s : σ) (l : List ι) : M :=
  ((trace exec s l).map fun p => f p.1 p.2).sum

theorem total_nil {M : Type} [AddMonoid M] (f : σ → ι → M) (s : σ) : total exec f s [] = 0 := rfl

theorem total_cons {M : Type} [AddMonoid M] (f : σ → ι → M) (s : σ) (i : ι) (l : List ι) :
    total exec f s (i :: l) = f s i + total exec f (exec s i) l := rfl

/-- **Telescoping.** -/
theorem total_eq {M : Type} [AddMonoid M] {P : σ → Prop} {f : σ → ι → M} {g : σ → M}
    (hP : ∀ s i, P s → P (exec s i)) (hg : ∀ s i, P s → g (exec s i) = g s + f s i)
    {s : σ} (hs : P s) (l : List ι) : g (run exec s l) = g s + total exec f s l := by
  induction l generalizing s with
  | nil => rw [run_nil, total_nil, add_zero]
  | cons i l ih => rw [run_cons, total_cons, ih (hP s i hs), hg s i hs, add_assoc]

/-! ## History variables -/

section

variable {η : Type} {note : σ → ι → List η}

/-- The machine with a history: what `note` says of a step is added at the end. -/
def noting (exec : σ → ι → σ) (note : σ → ι → List η) (q : σ × List η) (i : ι) : σ × List η :=
  (exec q.1 i, q.2 ++ note q.1 i)

/-- What there is to note of a run. -/
def notes (exec : σ → ι → σ) (note : σ → ι → List η) (s : σ) (l : List ι) : List η :=
  (trace exec s l).flatMap fun q => note q.1 q.2

theorem run_noting (q : σ × List η) (l : List ι) :
    run (noting exec note) q l = (run exec q.1 l, q.2 ++ notes exec note q.1 l) := by
  induction l generalizing q with
  | nil => simp [notes, trace]
  | cons i l ih =>
      rw [run_cons, ih, run_cons]
      simp [noting, notes, trace]

/-- The machine with a history makes the same steps in the same states. -/
theorem mem_trace_noting {p : σ × List η} {l : List ι} {q : (σ × List η) × ι}
    (h : q ∈ trace (noting exec note) p l) : (q.1.1, q.2) ∈ trace exec p.1 l := by
  induction l generalizing p with
  | nil => cases h
  | cons i l ih =>
      rcases List.mem_cons.mp h with rfl | h
      · exact List.mem_cons_self
      · exact List.mem_cons_of_mem _ (ih h)

theorem notes_append (s : σ) (l₁ l₂ : List ι) :
    notes exec note s (l₁ ++ l₂)
      = notes exec note s l₁ ++ notes exec note (run exec s l₁) l₂ := by
  have h := @run_append _ _ (noting exec note) (s, []) l₁ l₂
  simp only [run_noting, List.nil_append, Prod.mk.injEq] at h
  exact h.2

end

/-! ## Two runs side by side

Two machines that note at most one thing a step. A relation between them, each with its history, that
no silent step of either breaks and that two noted steps keep when their notes match, holds at the
end of any two runs whose histories match, however the silent steps lie between the noted ones. -/

section

variable {σ' ι' η : Type} {exec' : σ' → ι' → σ'} {note : σ → ι → List η} {note' : σ' → ι' → List η}
  {M : η → η → Prop} {R : σ → List η → σ' → List η → Prop}

theorem notes_cons (s : σ) (i : ι) (l : List ι) :
    notes exec note s (i :: l) = note s i ++ notes exec note (exec s i) l := rfl

/-- The right run goes on alone. -/
theorem run_silent (hright : ∀ s h s' h' i, note' s' i = [] → R s h s' h' → R s h (exec' s' i) h')
    {s : σ} {h : List η} {s' : σ'} {h' : List η} (hR : R s h s' h') {l' : List ι'}
    (hl' : notes exec' note' s' l' = []) : R s h (run exec' s' l') h' := by
  induction l' generalizing s' with
  | nil => exact hR
  | cons i l' ih =>
      rw [notes_cons, List.append_eq_nil_iff] at hl'
      exact ih (hright s h s' h' i hl'.1 hR) hl'.2

theorem run_side_by_side (hone : ∀ s i, note s i = [] ∨ ∃ e, note s i = [e])
    (hone' : ∀ s i, note' s i = [] ∨ ∃ e, note' s i = [e])
    (hleft : ∀ s h s' h' i, note s i = [] → R s h s' h' → R (exec s i) h s' h')
    (hright : ∀ s h s' h' i, note' s' i = [] → R s h s' h' → R s h (exec' s' i) h')
    (hboth : ∀ s h s' h' i i' e e', note s i = [e] → note' s' i' = [e'] → M e e' → R s h s' h' →
      R (exec s i) (h ++ [e]) (exec' s' i') (h' ++ [e']))
    {s : σ} {h : List η} {s' : σ'} {h' : List η} (hR : R s h s' h') (l : List ι) (l' : List ι')
    (hM : List.Forall₂ M (notes exec note s l) (notes exec' note' s' l')) :
    R (run exec s l) (h ++ notes exec note s l)
      (run exec' s' l') (h' ++ notes exec' note' s' l') := by
  induction l generalizing s h s' h' l' with
  | nil =>
      have hl' : notes exec' note' s' l' = [] := List.forall₂_nil_left_iff.mp hM
      rw [hl', show notes exec note s [] = [] from rfl, List.append_nil, List.append_nil]
      exact run_silent hright hR hl'
  | cons i l ih =>
      rcases hone s i with hsilent | ⟨e, hnoted⟩
      · rw [notes_cons, hsilent, List.nil_append] at hM ⊢
        exact ih (hleft s h s' h' i hsilent hR) l' hM
      · rw [notes_cons, hnoted, List.singleton_append] at hM ⊢
        -- the right run first gets to its next noted step
        induction l' generalizing s' with
        | nil => cases hM
        | cons i' l' ih' =>
            rcases hone' s' i' with hsilent | ⟨e', hnoted'⟩
            · rw [notes_cons, hsilent, List.nil_append] at hM ⊢
              exact ih' (hright s h s' h' i' hsilent hR) hM
            · rw [notes_cons, hnoted', List.singleton_append] at hM ⊢
              obtain ⟨he, hrest⟩ := List.forall₂_cons.mp hM
              have hnext := ih (hboth s h s' h' i i' e e' hnoted hnoted' he hR) l' hrest
              rwa [List.append_assoc, List.append_assoc] at hnext

end

end Runs
