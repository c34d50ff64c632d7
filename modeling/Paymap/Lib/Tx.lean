import Mathlib.Data.List.Forall2
import Mathlib.Tactic.Common

set_option autoImplicit false

/-! # Computations that may fail after they have written

`EStateM ε σ` runs on a state `σ` and ends in a value or in a failure `ε`; a failing run still
has a final state, the one its writes had produced. `atomic` is the environment's answer to a
failure: it puts the state back. Four kinds of rules are developed:

* inversion of a run through `>>=` (`run_bind_ok`, `run_bind_error`);
* early rejection in straight-line checks (`rejectIf`) and their inversion;
* a small logic for what a computation leaves alone: `Keeps R m` (however `m` ends, the state
  it leaves is related to the one it started from by `R`) and `FailKeeps R m` (the same, only
  for the runs that fail). `FailKeeps` composes as "keep, then fail keeping" and, at the end of
  a computation, "never fail";
* runs of one computation from two states that end alike (`SameEnd`).
-/

namespace Tx

variable {ε σ α β : Type}

/-! ## Inversion -/

theorem run_bind_ok {x : EStateM ε σ α} {f : α → EStateM ε σ β} {s s' : σ} {b : β} :
    (x >>= f).run s = .ok b s' ↔ ∃ a s₁, x.run s = .ok a s₁ ∧ (f a).run s₁ = .ok b s' := by
  rw [EStateM.run_bind]
  cases h : x.run s with
  | ok a s₁ => simp
  | error e s₁ => simp

theorem run_bind_error {x : EStateM ε σ α} {f : α → EStateM ε σ β} {s s' : σ} {e : ε} :
    (x >>= f).run s = .error e s' ↔
      x.run s = .error e s' ∨ ∃ a s₁, x.run s = .ok a s₁ ∧ (f a).run s₁ = .error e s' := by
  rw [EStateM.run_bind]
  cases h : x.run s with
  | ok a s₁ => simp
  | error e₁ s₁ => simp

/-! ## Pure checks -/

/-- Stop with `e` when `c` holds. -/
def rejectIf (c : Prop) [Decidable c] (e : ε) : Except ε Unit :=
  if c then .error e else .ok ()

@[simp] theorem rejectIf_ok {c : Prop} [Decidable c] {e : ε} {u : Unit} :
    rejectIf c e = .ok u ↔ ¬ c := by
  unfold rejectIf; split <;> simp_all

@[simp] theorem rejectIf_error {c : Prop} [Decidable c] {e e' : ε} :
    rejectIf c e = .error e' ↔ c ∧ e = e' := by
  unfold rejectIf; split <;> simp_all

@[simp] theorem bind_ok {x : Except ε α} {f : α → Except ε β} {b : β} :
    (x >>= f) = .ok b ↔ ∃ a, x = .ok a ∧ f a = .ok b := by
  cases x with
  | ok a => simp [bind, Except.bind]
  | error e => simp [bind, Except.bind]

theorem bind_error {x : Except ε α} {f : α → Except ε β} {e : ε} :
    (x >>= f) = .error e ↔ x = .error e ∨ ∃ a, x = .ok a ∧ f a = .error e := by
  cases x with
  | ok a => simp [bind, Except.bind]
  | error e => simp [bind, Except.bind]

@[simp] theorem mapError_ok {ε' : Type} {x : Except ε α} {f : ε → ε'} {a : α} :
    x.mapError f = .ok a ↔ x = .ok a := by
  cases x with
  | ok b => simp [Except.mapError]
  | error e => simp [Except.mapError]

/-- Every element succeeds. -/
theorem mapM_ok {f : α → Except ε β} {l : List α} {l' : List β} :
    l.mapM f = .ok l' ↔ List.Forall₂ (fun a b => f a = .ok b) l l' := by
  induction l generalizing l' with
  | nil => simp [pure, Except.pure, eq_comm]
  | cons a l ih =>
      rw [List.mapM_cons, bind_ok, List.forall₂_cons_left_iff]
      constructor
      · rintro ⟨b, hb, h⟩
        obtain ⟨rest, hrest, h⟩ := bind_ok.mp h
        exact ⟨b, rest, hb, ih.mp hrest, (Except.ok.inj h).symm⟩
      · rintro ⟨b, rest, hb, hrest, rfl⟩
        exact ⟨b, hb, bind_ok.mpr ⟨rest, ih.mpr hrest, rfl⟩⟩

/-- `x >>= f` does not fail with `e` when neither `x` nor what follows it does. -/
theorem bind_ne_error {x : Except ε α} {f : α → Except ε β} {e : ε} (hx : x ≠ .error e)
    (hf : ∀ a, x = .ok a → f a ≠ .error e) : (x >>= f) ≠ .error e := by
  intro h
  rcases bind_error.mp h with h | ⟨a, ha, h⟩
  · exact hx h
  · exact hf a ha h

/-! The outcome of a pure check enters a stateful computation by `liftExcept`. -/

theorem run_get_bind (f : σ → EStateM ε σ α) (s : σ) : (get >>= f).run s = (f s).run s := rfl

theorem run_liftExcept (x : Except ε α) (s : σ) :
    (liftExcept x : EStateM ε σ α).run s =
      match x with
      | .ok a => .ok a s
      | .error e => .error e s := by
  cases x <;> rfl

@[simp] theorem run_liftExcept_ok {x : Except ε α} {s s' : σ} {a : α} :
    (liftExcept x : EStateM ε σ α).run s = .ok a s' ↔ x = .ok a ∧ s = s' := by
  rw [run_liftExcept]
  cases x <;> simp

@[simp] theorem run_liftExcept_error {x : Except ε α} {s s' : σ} {e : ε} :
    (liftExcept x : EStateM ε σ α).run s = .error e s' ↔ x = .error e ∧ s = s' := by
  rw [run_liftExcept]
  cases x <;> simp

theorem run_check_ok {x : Except ε α} {a : α} (h : x = .ok a) (f : α → EStateM ε σ β) (s : σ) :
    (liftExcept x >>= f).run s = (f a).run s := by
  rw [h]
  rfl

theorem run_check_error {x : Except ε α} {e : ε} (h : x = .error e) (f : α → EStateM ε σ β) (s : σ) :
    (liftExcept x >>= f).run s = .error e s := by
  rw [h]
  rfl

/-! ## Rollback -/

/-- Run `m`; when it fails, put the state back to what it was. -/
def atomic (m : EStateM ε σ α) (s : σ) : Except ε α × σ :=
  match m.run s with
  | .ok a s' => (.ok a, s')
  | .error e _ => (.error e, s)

theorem atomic_ok {m : EStateM ε σ α} {s s' : σ} {a : α} :
    atomic m s = (.ok a, s') ↔ m.run s = .ok a s' := by
  unfold atomic
  cases m.run s <;> simp

theorem atomic_error {m : EStateM ε σ α} {s s' : σ} {e : ε} :
    atomic m s = (.error e, s') ↔ s' = s ∧ ∃ s₁, m.run s = .error e s₁ := by
  unfold atomic
  cases m.run s with
  | ok a s₁ => simp
  | error e₁ s₁ => simp [eq_comm, and_comm]

/-! ## What a computation leaves alone -/

/-- However `m` ends, it moves the state within `R`. -/
def Keeps (R : σ → σ → Prop) (m : EStateM ε σ α) : Prop :=
  ∀ s, (∀ a s', m.run s = .ok a s' → R s s') ∧ ∀ e s', m.run s = .error e s' → R s s'

/-- When `m` fails, it has moved the state only within `R`. -/
def FailKeeps (R : σ → σ → Prop) (m : EStateM ε σ α) : Prop :=
  ∀ s e s', m.run s = .error e s' → R s s'

/-- `m` ends in a value. -/
def NeverFails (m : EStateM ε σ α) : Prop := ∀ s e s', m.run s ≠ .error e s'

section Rules

variable {R : σ → σ → Prop}

theorem Keeps.failKeeps {m : EStateM ε σ α} (h : Keeps R m) : FailKeeps R m :=
  fun s e s' hm => (h s).2 e s' hm

theorem keeps_liftExcept (hrefl : ∀ s, R s s) (x : Except ε α) :
    Keeps R (liftExcept x : EStateM ε σ α) := by
  intro s
  constructor
  · intro a s' h
    obtain ⟨-, rfl⟩ := run_liftExcept_ok.mp h
    exact hrefl s
  · intro e s' h
    obtain ⟨-, rfl⟩ := run_liftExcept_error.mp h
    exact hrefl s

theorem keeps_get (hrefl : ∀ s, R s s) : Keeps R (get : EStateM ε σ σ) := by
  intro s
  constructor
  · intro a s' h
    cases h; exact hrefl s
  · intro e s' h
    cases h

theorem Keeps.bind (htrans : ∀ s₁ s₂ s₃, R s₁ s₂ → R s₂ s₃ → R s₁ s₃)
    {x : EStateM ε σ α} {f : α → EStateM ε σ β} (hx : Keeps R x) (hf : ∀ a, Keeps R (f a)) :
    Keeps R (x >>= f) := by
  intro s
  constructor
  · intro b s' h
    obtain ⟨a, s₁, h₁, h₂⟩ := run_bind_ok.mp h
    exact htrans _ _ _ ((hx s).1 a s₁ h₁) ((hf a s₁).1 b s' h₂)
  · intro e s' h
    rcases run_bind_error.mp h with h₁ | ⟨a, s₁, h₁, h₂⟩
    · exact (hx s).2 e s' h₁
    · exact htrans _ _ _ ((hx s).1 a s₁ h₁) ((hf a s₁).2 e s' h₂)

/-- **Keep, then fail keeping.** -/
theorem FailKeeps.bind (htrans : ∀ s₁ s₂ s₃, R s₁ s₂ → R s₂ s₃ → R s₁ s₃)
    {x : EStateM ε σ α} {f : α → EStateM ε σ β} (hx : Keeps R x)
    (hf : ∀ a, FailKeeps R (f a)) : FailKeeps R (x >>= f) := by
  intro s e s' h
  rcases run_bind_error.mp h with h₁ | ⟨a, s₁, h₁, h₂⟩
  · exact (hx s).2 e s' h₁
  · exact htrans _ _ _ ((hx s).1 a s₁ h₁) (hf a s₁ e s' h₂)

theorem NeverFails.failKeeps {m : EStateM ε σ α} (h : NeverFails m) : FailKeeps R m :=
  fun s e s' hm => absurd hm (h s e s')

end Rules

theorem neverFails_pure (a : α) : NeverFails (pure a : EStateM ε σ α) := by
  intro s e s' h; cases h

theorem neverFails_modify (f : σ → σ) : NeverFails (modify f : EStateM ε σ PUnit) := by
  intro s e s' h; cases h

theorem NeverFails.bind {x : EStateM ε σ α} {f : α → EStateM ε σ β} (hx : NeverFails x)
    (hf : ∀ a, NeverFails (f a)) : NeverFails (x >>= f) := by
  intro s e s' h
  rcases run_bind_error.mp h with h₁ | ⟨a, s₁, -, h₂⟩
  · exact hx s e s' h₁
  · exact hf a s₁ e s' h₂

/-! ## Two runs side by side -/

/-- Two runs end alike: with one value, in states related by `S`, or with one failure. -/
inductive SameEnd (S : σ → σ → Prop) : EStateM.Result ε σ α → EStateM.Result ε σ α → Prop where
  | ok (a : α) {s s' : σ} (h : S s s') : SameEnd S (.ok a s) (.ok a s')
  | error (e : ε) (s s' : σ) : SameEnd S (.error e s) (.error e s')

section SideBySide

variable {R S : σ → σ → Prop} {s s' : σ}

theorem SameEnd.bind {x x' : EStateM ε σ α} {f f' : α → EStateM ε σ β}
    (hx : SameEnd R (x.run s) (x'.run s'))
    (hf : ∀ a s₁ s₁', R s₁ s₁' → SameEnd S ((f a).run s₁) ((f' a).run s₁')) :
    SameEnd S ((x >>= f).run s) ((x' >>= f').run s') := by
  rw [EStateM.run_bind, EStateM.run_bind]
  generalize x.run s = r at hx
  generalize x'.run s' = r' at hx
  cases hx with
  | ok a h => exact hf a _ _ h
  | error e s₁ s₁' => exact .error e s₁ s₁'

/-- Both runs make the same check. -/
theorem SameEnd.check {x x' : Except ε α} {f f' : α → EStateM ε σ β} (hx : x' = x)
    (hf : ∀ a, x = .ok a → SameEnd S ((f a).run s) ((f' a).run s')) :
    SameEnd S ((liftExcept x >>= f).run s) ((liftExcept x' >>= f').run s') := by
  rw [hx]
  cases x with
  | ok a => exact hf a rfl
  | error e => exact .error e s s'

/-- Rollback leaves related states related. -/
theorem SameEnd.atomic {m m' : EStateM ε σ α} (h : SameEnd S (m.run s) (m'.run s')) (hs : S s s') :
    (atomic m s).1 = (atomic m' s').1 ∧ S (atomic m s).2 (atomic m' s').2 := by
  unfold Tx.atomic
  generalize m.run s = r at h
  generalize m'.run s' = r' at h
  cases h with
  | ok a h => exact ⟨rfl, h⟩
  | error e s₁ s₁' => exact ⟨rfl, hs⟩

end SideBySide

end Tx
