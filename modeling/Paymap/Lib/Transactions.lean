import Paymap.Lib.FinMap

set_option autoImplicit false

/-! # Open transactions

A database runs the statements of a worker in an open transaction of that worker. A statement that fails
aborts its transaction, and one whose transaction is gone is not run (`Layer.within`). A commit may be
carried out and not be answered (`Layer.commit`). What a transaction is, and where a state keeps those that
are open, is a parameter (`Layer`).
-/

namespace Transactions

/-- Where a state keeps its open transactions. -/
structure Layer (S τ : Type) where
  get : S → FinMap ℕ τ
  set : FinMap ℕ τ → S → S
  get_set : ∀ transactions s, get (set transactions s) = transactions
  set_get : ∀ s, set (get s) s = s
  set_set : ∀ transactions before s, set transactions (set before s) = set transactions s

/-- What becomes of a request to the database. -/
inductive Fate where
  | served
  /-- It fails, and the transaction with it. -/
  | failed
  /-- It is carried out and the answer is lost, and an open transaction with it. -/
  | unanswered
deriving DecidableEq

/-- The statement, if it is run and answered. -/
def Fate.run {β : Type} (statement : β) : Fate → Option β
  | .served => some statement
  | _ => none

theorem Fate.of_run_some {β : Type} {statement run : β} {fate : Fate}
    (h : fate.run statement = some run) : run = statement := by
  cases fate with
  | served => exact (Option.some.inj h).symm
  | failed => cases h
  | unanswered => cases h

namespace Layer

variable {S τ α : Type} (L : Layer S τ)

def put (worker : ℕ) (t : τ) (s : S) : S := L.set ((L.get s).insert worker t) s

/-- A transaction is rolled back. -/
def abort (worker : ℕ) (s : S) : S := L.set ((L.get s).erase worker) s

/-- A statement, if it is run: its answer, and what it does to the transaction, or that it fails. -/
def within (s : S) (worker : ℕ) (statement : Option (τ → Option (α × τ))) : Option α × S :=
  match (L.get s).lookup worker, statement with
  | none, _ => (none, s)
  | some t, some f =>
      match f t with
      | none => (none, L.abort worker s)
      | some (answer, t') => (some answer, L.put worker t' s)
  | some _, none => (none, L.abort worker s)

/-- The transaction ends; `write` is what it makes of the state. -/
def commit (write : τ → S → S) (s : S) (worker : ℕ) (fate : Fate) : Option Unit × S :=
  match (L.get s).lookup worker, fate with
  | none, _ => (none, s)
  | some t, .served => (some (), write t s)
  | some t, .unanswered => (none, write t s)
  | some _, .failed => (none, L.abort worker s)

variable {s : S} {worker other : ℕ} {t : τ}

theorem lookup_put : (L.get (L.put worker t s)).lookup other
    = if other = worker then some t else (L.get s).lookup other := by
  rw [put, L.get_set]
  exact FinMap.lookup_insert _ _ _ _

theorem lookup_put_self : (L.get (L.put worker t s)).lookup worker = some t := by
  rw [L.lookup_put, if_pos rfl]

theorem put_put {t' : τ} : L.put worker t' (L.put worker t s) = L.put worker t' s := by
  rw [put, put, L.get_set, L.set_set, AList.insert_insert]
  rfl

theorem lookup_abort (h : (L.get (L.abort worker s)).lookup other = some t) :
    other ≠ worker ∧ (L.get s).lookup other = some t := by
  rw [abort, L.get_set] at h
  exact FinMap.of_lookup_erase h

theorem lookup_abort_self : (L.get (L.abort worker s)).lookup worker = none := by
  rw [abort, L.get_set]
  exact AList.lookup_erase _ _

theorem lookup_abort_ne (h : other ≠ worker) :
    (L.get (L.abort worker s)).lookup other = (L.get s).lookup other := by
  rw [abort, L.get_set]
  exact AList.lookup_erase_ne h

/-- There is nothing to abort. -/
theorem abort_of_lookup_none (h : (L.get s).lookup worker = none) : L.abort worker s = s := by
  have hmem : worker ∉ L.get s := AList.lookup_eq_none.mp h
  have herase : (L.get s).erase worker = L.get s := AList.ext (List.kerase_of_notMem_keys hmem)
  rw [abort, herase, L.set_get]

/-- **A statement** is answered, or the transaction is gone. -/
theorem within_cases (s : S) (worker : ℕ) (statement : Option (τ → Option (α × τ))) :
    L.within s worker statement = (none, L.abort worker s) ∨
    ∃ t f answer t', (L.get s).lookup worker = some t ∧ statement = some f ∧
      f t = some (answer, t') ∧ L.within s worker statement = (some answer, L.put worker t' s) := by
  unfold within
  cases ht : (L.get s).lookup worker with
  | none => exact .inl (by rw [L.abort_of_lookup_none ht])
  | some t =>
      cases statement with
      | none => exact .inl rfl
      | some f =>
          cases hf : f t with
          | none => exact .inl (by simp only [hf])
          | some result => exact .inr ⟨t, f, result.1, result.2, rfl, rfl, hf, by simp only [hf]⟩

/-- A statement of a transaction that was put there. -/
theorem within_put {f : τ → Option (α × τ)} {answer : α} {t' : τ} (h : f t = some (answer, t')) :
    L.within (L.put worker t s) worker (some f) = (some answer, L.put worker t' s) := by
  simp only [within, L.lookup_put_self, h, L.put_put]

/-- A statement that was run. -/
theorem run_of_answer {fate : Fate} {f : τ → Option (α × τ)} {answer : α}
    (h : (L.within s worker (fate.run f)).1 = some answer) :
    ∃ t t', (L.get s).lookup worker = some t ∧ f t = some (answer, t') ∧
      (L.within s worker (fate.run f)).2 = L.put worker t' s := by
  rcases L.within_cases s worker (fate.run f) with hgone | ⟨t, g, answer', t', ht, hrun, hg, hdone⟩
  · rw [hgone] at h
    cases h
  · obtain rfl := Fate.of_run_some hrun
    rw [hdone] at h ⊢
    obtain rfl := Option.some.inj h
    exact ⟨t, t', ht, hg, rfl⟩

/-- One that was not has cost the transaction. -/
theorem within_none {statement : Option (τ → Option (α × τ))}
    (h : (L.within s worker statement).1 = none) :
    (L.within s worker statement).2 = L.abort worker s := by
  rcases L.within_cases s worker statement with hgone | ⟨t, f, answer, t', -, -, -, hdone⟩
  · rw [hgone]
  · rw [hdone] at h
    cases h

/-- A statement changes nothing but the transactions. -/
theorem exists_within (s : S) (worker : ℕ) (statement : Option (τ → Option (α × τ))) :
    ∃ transactions, (L.within s worker statement).2 = L.set transactions s := by
  rcases L.within_cases s worker statement with hgone | ⟨t, f, answer, t', -, -, -, hdone⟩
  · exact ⟨_, congrArg Prod.snd hgone⟩
  · exact ⟨_, congrArg Prod.snd hdone⟩

/-- So it keeps whatever the transactions have no part in. -/
theorem within_frame {β : Type} (g : S → β) (hg : ∀ transactions s, g (L.set transactions s) = g s)
    (s : S) (worker : ℕ) (statement : Option (τ → Option (α × τ))) :
    g (L.within s worker statement).2 = g s := by
  obtain ⟨transactions, hdone⟩ := L.exists_within s worker statement
  rw [hdone, hg]

/-- **A transaction is committed, or gone.** -/
theorem commit_cases (write : τ → S → S) (s : S) (worker : ℕ) (fate : Fate) :
    L.commit write s worker fate = (none, L.abort worker s) ∨
    ∃ t, (L.get s).lookup worker = some t ∧ (L.commit write s worker fate).2 = write t s := by
  unfold commit
  cases ht : (L.get s).lookup worker with
  | none => exact .inl (by rw [L.abort_of_lookup_none ht])
  | some t =>
      cases fate with
      | failed => exact .inl rfl
      | unanswered => exact .inr ⟨t, rfl, rfl⟩
      | served => exact .inr ⟨t, rfl, rfl⟩

theorem commit_frame {β : Type} (g : S → β) (hg : ∀ transactions s, g (L.set transactions s) = g s)
    (write : τ → S → S) (hwrite : ∀ t s, g (write t s) = g s) (s : S) (worker : ℕ) (fate : Fate) :
    g (L.commit write s worker fate).2 = g s := by
  rcases L.commit_cases write s worker fate with hgone | ⟨t, -, hdone⟩
  · rw [hgone]
    exact hg _ s
  · rw [hdone, hwrite]

end Layer

end Transactions
