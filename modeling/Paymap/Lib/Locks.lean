import Paymap.Lib.FinMap

set_option autoImplicit false

/-! # Rows that open transactions hold

A transaction that has written a row holds it until it ends, and another one that wants to write it waits
(`held`). Here a transaction is anything that says which rows it holds. While everybody waits who has to,
no row is held twice (`Exclusive`): a transaction that gets more rows, none of them held by another, keeps
it so, and one that ends does.

A table whose rows are never deleted, and change in certain ways only, keeps what it has had (`Kept`).
-/

namespace Locks

variable {τ κ : Type} [DecidableEq κ] {rows : τ → List κ}

/-- Another transaction holds one of the rows. -/
def held (rows : τ → List κ) (transactions : FinMap ℕ τ) (worker : ℕ) (wanted : List κ) : Bool :=
  (FinMap.keysWhere (fun t => (rows t).any (· ∈ wanted)) transactions).any fun other => other ≠ worker

/-- No row is held twice. -/
def Exclusive (rows : τ → List κ) (transactions : FinMap ℕ τ) : Prop :=
  ∀ i j t t', transactions.lookup i = some t → transactions.lookup j = some t' → i ≠ j →
    ∀ row ∈ rows t, row ∉ rows t'

variable {transactions : FinMap ℕ τ} {worker : ℕ} {wanted : List κ}

theorem notMem_of_not_held (h : held rows transactions worker wanted = false) {other : ℕ} {t : τ}
    (hother : other ≠ worker) (ht : transactions.lookup other = some t) {row : κ}
    (hrow : row ∈ wanted) : row ∉ rows t := by
  intro hmem
  have hany : (rows t).any (· ∈ wanted) = true :=
    List.any_eq_true.mpr ⟨row, hmem, decide_eq_true hrow⟩
  have hheld : held rows transactions worker wanted = true :=
    List.any_eq_true.mpr ⟨other, FinMap.mem_keysWhere.mpr ⟨t, ht, hany⟩, decide_eq_true hother⟩
  rw [hheld] at h
  cases h

omit [DecidableEq κ] in
theorem exclusive_empty : Exclusive rows (∅ : FinMap ℕ τ) := fun i j t t' ht => by cases ht

omit [DecidableEq κ] in
theorem Exclusive.erase (h : Exclusive rows transactions) (worker : ℕ) :
    Exclusive rows (transactions.erase worker) := by
  intro i j t t' ht ht' hij
  exact h i j t t' (FinMap.of_lookup_erase ht).2 (FinMap.of_lookup_erase ht').2 hij

/-- A transaction goes on: what it holds now it has held before, or has waited for. -/
theorem Exclusive.insert (h : Exclusive rows transactions) {t : τ}
    (hfree : held rows transactions worker wanted = false)
    (hrows : ∀ row ∈ rows t, row ∈ wanted ∨
      ∃ before, transactions.lookup worker = some before ∧ row ∈ rows before) :
    Exclusive rows (transactions.insert worker t) := by
  have hapart : ∀ j t', j ≠ worker → transactions.lookup j = some t' → ∀ row ∈ rows t,
      row ∉ rows t' := by
    intro j t' hj ht' row hrow
    rcases hrows row hrow with hwanted | ⟨before, hbefore, hrow⟩
    · exact notMem_of_not_held hfree hj ht' hwanted
    · exact h worker j before t' hbefore ht' (Ne.symm hj) row hrow
  intro i j t₁ t₂ ht₁ ht₂ hij row hrow
  rw [FinMap.lookup_insert] at ht₁ ht₂
  split_ifs at ht₁ ht₂ with hi hj hj
  · exact absurd (hi.trans hj.symm) hij
  · obtain rfl := Option.some.inj ht₁
    exact hapart j t₂ hj ht₂ row hrow
  · obtain rfl := Option.some.inj ht₂
    exact fun hrow' => hapart i t₁ hi ht₁ row hrow' hrow
  · exact h i j t₁ t₂ ht₁ ht₂ hij row hrow

/-- A transaction begins, or is as it was, with no more rows. -/
theorem Exclusive.insert_of_subset (h : Exclusive rows transactions) {t : τ}
    (hrows : ∀ row ∈ rows t, ∃ before, transactions.lookup worker = some before ∧
      row ∈ rows before) : Exclusive rows (transactions.insert worker t) := by
  have hfree : held rows transactions worker [] = false := by simp [held, FinMap.keysWhere]
  exact h.insert hfree fun row hrow => .inr (hrows row hrow)

/-! ## Rows that stay -/

section

variable {α β : Type} [DecidableEq α] {R : β → β → Prop} {m m' m'' : FinMap α β} {a : α} {b : β}

/-- Every row is still there, and `R` tells how it has changed. -/
def Kept (R : β → β → Prop) (m m' : FinMap α β) : Prop :=
  ∀ a b, m.lookup a = some b → ∃ b', m'.lookup a = some b' ∧ R b b'

theorem Kept.refl (hR : ∀ b, R b b) (m : FinMap α β) : Kept R m m := fun _ b h => ⟨b, h, hR b⟩

theorem Kept.trans (hR : ∀ b b' b'', R b b' → R b' b'' → R b b'') (h : Kept R m m')
    (h' : Kept R m' m'') : Kept R m m'' := by
  intro a b hb
  obtain ⟨b', hb', hfirst⟩ := h a b hb
  obtain ⟨b'', hb'', hsecond⟩ := h' a b' hb'
  exact ⟨b'', hb'', hR b b' b'' hfirst hsecond⟩

/-- A row is written that `R` allows. -/
theorem Kept.insert (hR : ∀ b, R b b) (hb : ∀ before, m.lookup a = some before → R before b) :
    Kept R m (m.insert a b) := by
  intro a' before hbefore
  by_cases ha : a' = a
  · subst ha
    exact ⟨b, AList.lookup_insert m, hb before hbefore⟩
  · exact ⟨before, (AList.lookup_insert_ne ha).trans hbefore, hR before⟩

end

end Locks
