import Mathlib.Data.List.Basic

set_option autoImplicit false

/-! # Programs that run side by side

A program is a tree of atomic effects: it asks for an effect, is answered, and goes on; it ends in
a value or by raising an error. Workers running such programs share a state. They are interleaved
at the effects, in any order, and a worker may be left where it is for ever, which is a crash.

What a worker may do to the shared state is described by an automaton over *phases*: a relation
`R p e a p'` saying that in phase `p` the effect `e` may be asked for and, answered `a`, leads to
phase `p'`. `Follows` says that a program makes only such moves, and is proved once, along the text
of the program. `Tracked` then carries an invariant that speaks of the phases of all workers
through an interleaving: to keep it, only the moves of the automaton have to be looked at.

`attempt` catches an error, and `Ends` says in which phases a program returns and raises. `Evaluates` is
what becomes of a program whose effects nobody comes between.

What a program is bound to do needs no automaton: `ComesTo` says that a program is on its way to an
effect, and `Answers` what it is ready for after certain others; `Within` bounds the effects it asks
for and the errors it ends with.
-/

/-- A program over the effects `E`, the effect `e` being answered by an `A e`. -/
inductive Prog (E : Type) (A : E → Type) (ε α : Type) where
  | ret (a : α)
  | raise (e : ε)
  | call (e : E) (k : A e → Prog E A ε α)

namespace Prog

variable {E : Type} {A : E → Type} {ε α β : Type}

protected def bind : Prog E A ε α → (α → Prog E A ε β) → Prog E A ε β
  | .ret a, f => f a
  | .raise e, _ => .raise e
  | .call e k, f => .call e fun a => (k a).bind f

instance : Monad (Prog E A ε) where
  pure := .ret
  bind := Prog.bind

/-- Ask for one effect. -/
def perform (e : E) : Prog E A ε (A e) := .call e .ret

/-! ## Following an automaton -/

section

variable {Phase : Type} {R : Phase → (e : E) → A e → Phase → Prop}

/-- Started in phase `p`, the program makes only moves of `R`, however its effects are answered,
and returns `a` only in a phase `p'` with `Q a p'`. -/
def Follows (R : Phase → (e : E) → A e → Phase → Prop) (Q : α → Phase → Prop) :
    Prog E A ε α → Phase → Prop
  | .ret a, p => Q a p
  | .raise _, _ => True
  | .call e k, p => ∀ a, ∃ p', R p e a p' ∧ Follows R Q (k a) p'

variable {Q : α → Phase → Prop} {p : Phase}

@[simp] theorem follows_pure {a : α} : (pure a : Prog E A ε α).Follows R Q p ↔ Q a p := Iff.rfl

@[simp] theorem follows_raise {e : ε} : (raise e : Prog E A ε α).Follows R Q p ↔ True := Iff.rfl

@[simp] theorem follows_perform {e : E} {Q : A e → Phase → Prop} :
    (perform e : Prog E A ε (A e)).Follows R Q p ↔ ∀ a, ∃ p', R p e a p' ∧ Q a p' := Iff.rfl

/-- **Sequencing**: the phase `x` returns in is the one `f` starts in. -/
theorem follows_bind {x : Prog E A ε α} {f : α → Prog E A ε β} {Q : β → Phase → Prop} :
    (x >>= f).Follows R Q p ↔ x.Follows R (fun a p' => (f a).Follows R Q p') p := by
  induction x generalizing p with
  | ret a => exact Iff.rfl
  | raise e => exact Iff.rfl
  | call e k ih => exact forall_congr' fun a => exists_congr fun _ => and_congr_right' (ih a)

theorem Follows.mono {Q' : α → Phase → Prop} {x : Prog E A ε α} (h : x.Follows R Q p)
    (hQ : ∀ a p', Q a p' → Q' a p') : x.Follows R Q' p := by
  induction x generalizing p with
  | ret a => exact hQ a p h
  | raise e => trivial
  | call e k ih =>
      intro a
      obtain ⟨p', hmove, hrest⟩ := h a
      exact ⟨p', hmove, ih a hrest⟩

/-- One effect, then the rest. -/
theorem follows_perform_bind {e : E} {f : A e → Prog E A ε β} {Q : β → Phase → Prop} :
    (perform e >>= f).Follows R Q p ↔ ∀ a, ∃ p', R p e a p' ∧ (f a).Follows R Q p' := by
  rw [follows_bind, follows_perform]

end

/-! ## Errors that are caught -/

section

variable {Phase : Type} {R : Phase → (e : E) → A e → Phase → Prop} {ε' : Type}

/-- The program with the error it may raise as its value: `try` and `catch`. -/
def attempt : Prog E A ε α → Prog E A ε' (Except ε α)
  | .ret a => .ret (.ok a)
  | .raise e => .ret (.error e)
  | .call e k => .call e fun a => (k a).attempt

/-- As `Follows`, and an error `e` is raised only in a phase `p'` with `Q' e p'`. -/
def Ends (R : Phase → (e : E) → A e → Phase → Prop) (Q : α → Phase → Prop)
    (Q' : ε → Phase → Prop) : Prog E A ε α → Phase → Prop
  | .ret a, p => Q a p
  | .raise e, p => Q' e p
  | .call e k, p => ∀ a, ∃ p', R p e a p' ∧ Ends R Q Q' (k a) p'

variable {Q : α → Phase → Prop} {Q' : ε → Phase → Prop} {p : Phase}

theorem ends_bind {x : Prog E A ε α} {f : α → Prog E A ε β} {Q : β → Phase → Prop} :
    (x >>= f).Ends R Q Q' p ↔ x.Ends R (fun a p' => (f a).Ends R Q Q' p') Q' p := by
  induction x generalizing p with
  | ret a => exact Iff.rfl
  | raise e => exact Iff.rfl
  | call e k ih => exact forall_congr' fun a => exists_congr fun _ => and_congr_right' (ih a)

theorem Ends.mono {x : Prog E A ε α} {P : α → Phase → Prop} {P' : ε → Phase → Prop}
    (h : x.Ends R Q Q' p) (hQ : ∀ a p', Q a p' → P a p') (hQ' : ∀ e p', Q' e p' → P' e p') :
    x.Ends R P P' p := by
  induction x generalizing p with
  | ret a => exact hQ a p h
  | raise e => exact hQ' e p h
  | call e k ih =>
      intro a
      obtain ⟨p', hmove, hrest⟩ := h a
      exact ⟨p', hmove, ih a hrest⟩

/-- Catching an error is going on with it as a value. -/
theorem follows_attempt {x : Prog E A ε α} {P : Except ε α → Phase → Prop} :
    (x.attempt : Prog E A ε' (Except ε α)).Follows R P p ↔
      x.Ends R (fun a => P (.ok a)) (fun e => P (.error e)) p := by
  induction x generalizing p with
  | ret a => exact Iff.rfl
  | raise e => exact Iff.rfl
  | call e k ih => exact forall_congr' fun a => exists_congr fun _ => and_congr_right' (ih a)

theorem ends_attempt {x : Prog E A ε α} {P : Except ε α → Phase → Prop}
    {P' : ε' → Phase → Prop} :
    (x.attempt : Prog E A ε' (Except ε α)).Ends R P P' p ↔
      x.Ends R (fun a => P (.ok a)) (fun e => P (.error e)) p := by
  induction x generalizing p with
  | ret a => exact Iff.rfl
  | raise e => exact Iff.rfl
  | call e k ih => exact forall_congr' fun a => exists_congr fun _ => and_congr_right' (ih a)

end

/-! ## A program alone -/

section

variable {S : Type} {perform : (e : E) → S → A e × S} {ready : S → E → Prop}

/-- With its effects performed one after the other, each of them when it is ready, the program ends with
`r` and turns the state into another. -/
inductive Evaluates (perform : (e : E) → S → A e × S) (ready : S → E → Prop) :
    Prog E A ε α → S → Except ε α → S → Prop where
  | ret (a : α) (s : S) : Evaluates perform ready (.ret a) s (.ok a) s
  | raise (e : ε) (s : S) : Evaluates perform ready (.raise e) s (.error e) s
  | call {e : E} {k : A e → Prog E A ε α} {s : S} {r : Except ε α} {s' : S} (hready : ready s e)
      (rest : Evaluates perform ready (k (perform e s).1) (perform e s).2 r s') :
      Evaluates perform ready (.call e k) s r s'

/-- One effect, then the rest. -/
theorem Evaluates.perform_bind {e : E} {f : A e → Prog E A ε β} {s s' : S} {r : Except ε β}
    (hready : ready s e) (h : Evaluates perform ready (f (perform e s).1) (perform e s).2 r s') :
    Evaluates perform ready (Prog.perform e >>= f) s r s' := .call hready h

theorem Evaluates.bind {x : Prog E A ε α} {f : α → Prog E A ε β} {s s₁ s' : S} {a : α}
    {r : Except ε β} (hx : Evaluates perform ready x s (.ok a) s₁)
    (hf : Evaluates perform ready (f a) s₁ r s') : Evaluates perform ready (x >>= f) s r s' := by
  generalize hr : (Except.ok a : Except ε α) = r₁ at hx
  induction hx with
  | ret a' s =>
      obtain rfl := Except.ok.inj hr
      exact hf
  | raise e s => cases hr
  | call hready _ ih => exact .call hready (ih hf hr)

theorem Evaluates.bind_error {x : Prog E A ε α} {f : α → Prog E A ε β} {s s' : S} {e : ε}
    (hx : Evaluates perform ready x s (.error e) s') :
    Evaluates perform ready (x >>= f) s (.error e) s' := by
  generalize hr : (Except.error e : Except ε α) = r₁ at hx
  induction hx with
  | ret a s => cases hr
  | raise e' s =>
      obtain rfl := Except.error.inj hr
      exact .raise e s
  | call hready _ ih => exact .call hready (ih hr)

theorem Evaluates.attempt {ε' : Type} {x : Prog E A ε α} {s s' : S} {r : Except ε α}
    (hx : Evaluates perform ready x s r s') :
    Evaluates perform ready (x.attempt : Prog E A ε' (Except ε α)) s (.ok r) s' := by
  induction hx with
  | ret a s => exact .ret (Except.ok a) s
  | raise e s => exact .ret (Except.error e) s
  | call hready _ ih => exact .call hready ih

end

/-! ## What a program comes to -/

/-- Through effects with `through`, and as long as these are answered well, the program comes to an
effect that is `final`: it neither ends nor raises an error before. -/
def ComesTo (through : E → Prop) (good : (e : E) → A e → Prop) (final : E → Prop) :
    Prog E A ε α → Prop
  | .ret _ => False
  | .raise _ => False
  | .call e k => final e ∨ (through e ∧ ∀ a, good e a → ComesTo through good final (k a))

/-- The program asks for `allowed` effects only, and after an answer that is a `trigger` for some `x`
it is `ready x`. -/
def Answers {X : Type} (allowed : E → Prop) (trigger : X → (e : E) → A e → Prop)
    (ready : X → Prog E A ε α → Prop) : Prog E A ε α → Prop
  | .ret _ => True
  | .raise _ => True
  | .call e k => allowed e ∧ ∀ a, (∀ x, trigger x e a → ready x (k a)) ∧
      Answers allowed trigger ready (k a)

/-- The program asks only for these effects and raises only these errors. -/
def Within (asks : E → Prop) (raises : ε → Prop) : Prog E A ε α → Prop
  | .ret _ => True
  | .raise e => raises e
  | .call e k => asks e ∧ ∀ a, Within asks raises (k a)

theorem Within.bind {asks : E → Prop} {raises : ε → Prop} {x : Prog E A ε α}
    {f : α → Prog E A ε β} (hx : x.Within asks raises) (hf : ∀ a, (f a).Within asks raises) :
    (x >>= f).Within asks raises := by
  induction x with
  | ret a => exact hf a
  | raise e => exact hx
  | call e k ih => exact ⟨hx.1, fun a => ih a (hx.2 a)⟩

/-- The error a program has ended with. -/
def raised? : Prog E A ε α → Option ε
  | .raise e => some e
  | _ => none

theorem Within.raised? {asks : E → Prop} {raises : ε → Prop} {w : Prog E A ε α}
    (h : w.Within asks raises) {e : ε} (he : w.raised? = some e) : raises e := by
  cases w with
  | raise e' =>
      obtain rfl := Option.some.inj he
      exact h
  | _ => cases he

/-- The program has neither ended nor raised an error. -/
def isCall : Prog E A ε α → Bool
  | .call _ _ => true
  | _ => false

theorem ComesTo.isCall {through : E → Prop} {good : (e : E) → A e → Prop} {final : E → Prop}
    {w : Prog E A ε α} (h : w.ComesTo through good final) : w.isCall = true := by
  cases w with
  | call e k => rfl
  | _ => cases h

end Prog

/-! ## Workers on a shared state -/

/-- A shared state and the programs that are running on it. -/
structure Workers (S : Type) (W : Type) where
  shared : S
  running : List W

namespace Workers

variable {E : Type} {A : E → Type} {ε α S Phase : Type}

/-- An element of a list in which place `i` was overwritten. -/
theorem getElem?_set_cases {α : Type} {l : List α} {i j : ℕ} {a b : α}
    (h : (l.set i a)[j]? = some b) : (j = i ∧ b = a) ∨ (j ≠ i ∧ l[j]? = some b) := by
  by_cases hij : i = j
  · subst hij
    have hlt : i < l.length := by
      have := (List.getElem?_eq_some_iff.mp h).1
      rwa [List.length_set] at this
    rw [List.getElem?_set_self hlt] at h
    exact .inl ⟨rfl, (Option.some.inj h).symm⟩
  · rw [List.getElem?_set_ne hij] at h
    exact .inr ⟨Ne.symm hij, h⟩

/-- In a list of pairs the second of a pair was overwritten. -/
theorem map_fst_set {α β : Type} {l : List (α × β)} {i : ℕ} {a : α} {b : β}
    (h : l[i]? = some (a, b)) (b' : β) : (l.set i (a, b')).map Prod.fst = l.map Prod.fst := by
  have hfst : (l.map Prod.fst)[i]? = some a := by
    rw [List.getElem?_map, h]
    rfl
  obtain ⟨hi, hget⟩ := List.getElem?_eq_some_iff.mp hfst
  rw [List.map_set]
  exact hget ▸ List.set_getElem_self hi

/-- Worker `i` has its next effect performed. A worker that has ended, or that was never started,
does nothing. -/
def work (perform : (e : E) → S → A e × S) (i : ℕ) (c : Workers S (Prog E A ε α)) :
    Workers S (Prog E A ε α) :=
  match c.running[i]? with
  | some (.call e k) =>
      ⟨(perform e c.shared).2, c.running.set i (k (perform e c.shared).1)⟩
  | _ => c

/-- One more worker starts. -/
def start (w : Prog E A ε α) (c : Workers S (Prog E A ε α)) : Workers S (Prog E A ε α) :=
  { c with running := c.running ++ [w] }

/-- Worker `i` ends with the error `e`, wherever it was. -/
def stop (e : ε) (i : ℕ) (c : Workers S (Prog E A ε α)) : Workers S (Prog E A ε α) :=
  { c with running := c.running.set i (.raise e) }

/-- The shared state changes, no worker doing it. -/
def outside (f : S → S) (c : Workers S (Prog E A ε α)) : Workers S (Prog E A ε α) :=
  { c with shared := f c.shared }

/-- A worker's step does nothing, or it performs the worker's next effect. -/
theorem work_cases (perform : (e : E) → S → A e × S) (i : ℕ) (c : Workers S (Prog E A ε α)) :
    c.work perform i = c ∨ ∃ e k, c.running[i]? = some (.call e k) ∧
      c.work perform i
        = ⟨(perform e c.shared).2, c.running.set i (k (perform e c.shared).1)⟩ := by
  unfold Workers.work
  split
  · rename_i e k hw
    exact .inr ⟨e, k, hw, rfl⟩
  · exact .inl rfl

section

variable {R : Phase → (e : E) → A e → Phase → Prop} {Inv : S → List Phase → Prop}

/-- Each worker's program follows the automaton from the phase that is listed for it. -/
structure InPhase (R : Phase → (e : E) → A e → Phase → Prop) (phases : List Phase)
    (running : List (Prog E A ε α)) : Prop where
  length_eq : phases.length = running.length
  follows : ∀ {i : ℕ} {p : Phase} {w : Prog E A ε α}, phases[i]? = some p →
    running[i]? = some w → w.Follows R (fun _ _ => True) p

/-- The invariant holds of the shared state and of phases the workers are in. -/
def Tracked (R : Phase → (e : E) → A e → Phase → Prop) (Inv : S → List Phase → Prop)
    (c : Workers S (Prog E A ε α)) : Prop :=
  ∃ phases, InPhase R phases c.running ∧ Inv c.shared phases

/-- A worker that is about to ask for `e` is in a phase that allows it. -/
theorem InPhase.allows {phases : List Phase} {running : List (Prog E A ε α)}
    (h : InPhase R phases running) {i : ℕ} {e : E} {k : A e → Prog E A ε α}
    (hw : running[i]? = some (.call e k)) :
    ∃ p, phases[i]? = some p ∧
      ∀ a, ∃ p', R p e a p' ∧ (k a).Follows R (fun _ _ => True) p' := by
  have hi : i < phases.length := by
    have := (List.getElem?_eq_some_iff.mp hw).1
    have := h.length_eq
    omega
  exact ⟨phases[i], List.getElem?_eq_getElem hi, h.follows (List.getElem?_eq_getElem hi) hw⟩

theorem Tracked.outside {c : Workers S (Prog E A ε α)} (h : Tracked R Inv c) {f : S → S}
    (hstep : ∀ phases, InPhase R phases c.running → Inv c.shared phases →
      Inv (f c.shared) phases) :
    Tracked R Inv (c.outside f) := by
  obtain ⟨phases, hin, hinv⟩ := h
  exact ⟨phases, hin, hstep phases hin hinv⟩

/-- No worker has moved. -/
theorem Tracked.of_running_eq {Inv' : S → List Phase → Prop} {c c' : Workers S (Prog E A ε α)}
    (h : Tracked R Inv c) (hrunning : c'.running = c.running)
    (hstep : ∀ phases, Inv c.shared phases → Inv' c'.shared phases) : Tracked R Inv' c' := by
  obtain ⟨phases, hin, hinv⟩ := h
  exact ⟨phases, hrunning ▸ hin, hstep phases hinv⟩

theorem Tracked.start_to {Inv' : S → List Phase → Prop} {c : Workers S (Prog E A ε α)}
    (h : Tracked R Inv c) {w : Prog E A ε α} {p : Phase} (hw : w.Follows R (fun _ _ => True) p)
    (hstep : ∀ phases, Inv c.shared phases → Inv' c.shared (phases ++ [p])) :
    Tracked R Inv' (c.start w) := by
  obtain ⟨phases, hin, hinv⟩ := h
  have hlen := hin.length_eq
  refine ⟨phases ++ [p], ⟨?_, ?_⟩, hstep phases hinv⟩
  · show (phases ++ [p]).length = (c.running ++ [w]).length
    simp [hlen]
  · intro i q v hq hv
    change (c.running ++ [w])[i]? = some v at hv
    by_cases hi : i < phases.length
    · rw [List.getElem?_append_left hi] at hq
      rw [List.getElem?_append_left (hlen ▸ hi)] at hv
      exact hin.follows hq hv
    · -- the new worker
      rw [List.getElem?_append_right (by omega)] at hq
      rw [List.getElem?_append_right (by omega)] at hv
      have hqp : q = p := List.mem_singleton.mp (List.mem_of_getElem? hq)
      have hvw : v = w := List.mem_singleton.mp (List.mem_of_getElem? hv)
      rw [hqp, hvw]
      exact hw

theorem Tracked.start {c : Workers S (Prog E A ε α)} (h : Tracked R Inv c) {w : Prog E A ε α}
    {p : Phase} (hw : w.Follows R (fun _ _ => True) p)
    (hstep : ∀ phases, Inv c.shared phases → Inv c.shared (phases ++ [p])) :
    Tracked R Inv (c.start w) :=
  h.start_to hw hstep

/-- A worker that is stopped makes no further move, and stays in the phase it was in. -/
theorem Tracked.stop {c : Workers S (Prog E A ε α)} (h : Tracked R Inv c) (e : ε) (i : ℕ) :
    Tracked R Inv (c.stop e i) := by
  obtain ⟨phases, hin, hinv⟩ := h
  refine ⟨phases, ⟨?_, ?_⟩, hinv⟩
  · show phases.length = (c.running.set i (.raise e)).length
    rw [List.length_set, hin.length_eq]
  · intro j p w hp hw
    rcases getElem?_set_cases hw with ⟨-, rfl⟩ | ⟨-, hold⟩
    · trivial
    · exact hin.follows hp hold

/-- **A worker's step.** The worker is in some phase `p`, the effect and its answer are a move of
the automaton, and only the phase of this worker changes. The invariant may be another one after the
step; one that has no next effect leaves everything as it is. -/
theorem Tracked.work_to {Inv' : S → List Phase → Prop} {c : Workers S (Prog E A ε α)}
    (h : Tracked R Inv c) {perform : (e : E) → S → A e × S} {i : ℕ}
    (hstep : ∀ phases p e k p', Inv c.shared phases → phases[i]? = some p →
      c.running[i]? = some (.call e k) → R p e (perform e c.shared).1 p' →
      Inv' (perform e c.shared).2 (phases.set i p'))
    (hidle : (∀ e k, c.running[i]? ≠ some (.call e k)) →
      ∀ phases, Inv c.shared phases → Inv' c.shared phases) :
    Tracked R Inv' (c.work perform i) := by
  obtain ⟨phases, hin, hinv⟩ := h
  unfold Workers.work
  split
  · rename_i e k hw
    obtain ⟨p, hp, hmoves⟩ := hin.allows hw
    obtain ⟨p', hmove, hrest⟩ := hmoves (perform e c.shared).1
    have hi := (List.getElem?_eq_some_iff.mp hp).1
    have hlen := hin.length_eq
    refine ⟨phases.set i p', ⟨?_, ?_⟩, hstep phases p e k p' hinv hp hw hmove⟩
    · simp [hlen]
    · -- the worker itself has moved, and any other one is where it was
      intro j q v hq hv
      change (c.running.set i (k (perform e c.shared).1))[j]? = some v at hv
      by_cases hij : i = j
      · subst hij
        rw [List.getElem?_set_self hi] at hq
        rw [List.getElem?_set_self (hlen ▸ hi)] at hv
        cases hq; cases hv
        exact hrest
      · rw [List.getElem?_set_ne hij] at hq hv
        exact hin.follows hq hv
  · rename_i hnone
    exact ⟨phases, hin, hidle (fun e k hw => hnone e k hw) phases hinv⟩

theorem Tracked.work {c : Workers S (Prog E A ε α)} (h : Tracked R Inv c)
    {perform : (e : E) → S → A e × S} {i : ℕ}
    (hstep : ∀ phases p e k p', Inv c.shared phases → phases[i]? = some p →
      c.running[i]? = some (.call e k) → R p e (perform e c.shared).1 p' →
      Inv (perform e c.shared).2 (phases.set i p')) :
    Tracked R Inv (c.work perform i) :=
  h.work_to hstep fun _ _ hinv => hinv

end

end Workers
