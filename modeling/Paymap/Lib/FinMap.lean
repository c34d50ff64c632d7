import Mathlib.Algebra.BigOperators.Group.List.Basic
import Mathlib.Data.List.AList

set_option autoImplicit false

/-! # Finite maps and what they hold

A key-value store is an association list without duplicate keys, Mathlib's `AList`, at a
constant value type. The facts added here are about `values`, the list of everything stored:
a store that only ever grows by fresh keys lists its values newest first, so counts and sums
over a store are counts and sums over that list.
-/

/-- A finite map from `α` to `β`. -/
abbrev FinMap (α β : Type) := AList (fun _ : α => β)

namespace FinMap

variable {α β : Type}

/-- Everything stored, the latest fresh insertion first. -/
def values (s : FinMap α β) : List β := s.entries.map Sigma.snd

variable [DecidableEq α]

/-- A fresh key puts its value in front. -/
theorem values_insert {s : FinMap α β} {a : α} {b : β} (h : s.lookup a = none) :
    values (s.insert a b) = b :: values s := by
  unfold values
  rw [AList.entries_insert_of_notMem (AList.lookup_eq_none.mp h)]
  rfl

theorem mem_values {s : FinMap α β} {b : β} : b ∈ values s ↔ ∃ a, s.lookup a = some b := by
  unfold values
  constructor
  · intro h
    obtain ⟨e, he, rfl⟩ := List.mem_map.mp h
    exact ⟨e.1, AList.mem_lookup_iff.mpr he⟩
  · rintro ⟨a, ha⟩
    exact List.mem_map.mpr ⟨⟨a, b⟩, AList.mem_lookup_iff.mp ha, rfl⟩

theorem lookup_insert (s : FinMap α β) (a a' : α) (b : β) :
    (s.insert a b).lookup a' = if a' = a then some b else s.lookup a' := by
  by_cases h : a' = a
  · subst h
    rw [AList.lookup_insert, if_pos rfl]
  · rw [AList.lookup_insert_ne h, if_neg h]

theorem isSome_lookup_insert (s : FinMap α β) (a a' : α) (b : β) :
    ((s.insert a b).lookup a').isSome ↔ a' = a ∨ (s.lookup a').isSome := by
  rw [lookup_insert]
  by_cases h : a' = a
  · simp [h]
  · simp [h]

/-- What is there after an erasure was there before, under another key. -/
theorem of_lookup_erase {s : FinMap α β} {a a' : α} {b : β}
    (h : (s.erase a).lookup a' = some b) : a' ≠ a ∧ s.lookup a' = some b := by
  have hne : a' ≠ a := by
    rintro rfl
    rw [AList.lookup_erase] at h
    cases h
  exact ⟨hne, (AList.lookup_erase_ne hne).symm.trans h⟩

/-- `f` applied to everything stored. -/
def mapValues (f : β → β) (s : FinMap α β) : FinMap α β :=
  ⟨s.entries.map (.map id fun _ => f), s.nodupKeys.map₂ (fun _ => f) s.entries⟩

theorem lookup_mapValues (f : β → β) (s : FinMap α β) (a : α) :
    (mapValues f s).lookup a = (s.lookup a).map f := List.dlookup_map₂ a

/-- The keys under which something with `p` is stored. -/
def keysWhere (p : β → Bool) (s : FinMap α β) : List α :=
  (s.entries.filter fun e => p e.2).map Sigma.fst

theorem mem_keysWhere {p : β → Bool} {s : FinMap α β} {a : α} :
    a ∈ keysWhere p s ↔ ∃ b, s.lookup a = some b ∧ p b = true := by
  unfold keysWhere
  constructor
  · intro h
    obtain ⟨e, he, rfl⟩ := List.mem_map.mp h
    obtain ⟨hmem, hp⟩ := List.mem_filter.mp he
    exact ⟨e.2, AList.mem_lookup_iff.mpr hmem, hp⟩
  · rintro ⟨b, hb, hp⟩
    exact List.mem_map.mpr ⟨⟨a, b⟩, List.mem_filter.mpr ⟨AList.mem_lookup_iff.mp hb, hp⟩, rfl⟩

/-! ## Counts of what is stored -/

/-- A value takes the place of the one that was stored under its key. -/
theorem values_insert_eq (s : FinMap α β) (a : α) (b : β) :
    values (s.insert a b) = b :: values (s.erase a) := by
  unfold values
  rw [AList.entries_insert]
  rfl

theorem values_perm {s : FinMap α β} {a : α} {b : β} (h : s.lookup a = some b) :
    (values s).Perm (b :: values (s.erase a)) := by
  have hmem : (⟨a, b⟩ : Sigma fun _ : α => β) ∈ s.entries := AList.mem_lookup_iff.mp h
  have hkey : a ∈ s.entries.keys := List.mem_keys_of_mem hmem
  obtain ⟨b', l₁, l₂, -, hsplit, herase⟩ := List.exists_of_kerase hkey
  have hb : b' = b := by
    have hmem' : (⟨a, b'⟩ : Sigma fun _ : α => β) ∈ s.entries := by
      rw [hsplit]
      exact List.mem_append_right _ List.mem_cons_self
    exact Option.some.inj ((AList.mem_lookup_iff.mpr hmem').symm.trans h)
  subst hb
  have herased : (s.erase a).entries = l₁ ++ l₂ := herase
  unfold values
  rw [hsplit, herased, List.map_append, List.map_append, List.map_cons]
  exact List.perm_middle

/-- What an insertion over another value does to a count. -/
theorem countP_insert {s : FinMap α β} {a : α} {b c : β} (h : s.lookup a = some b) (p : β → Bool) :
    (values (s.insert a c)).countP p + (if p b then 1 else 0)
      = (values s).countP p + if p c then 1 else 0 := by
  rw [values_insert_eq, (values_perm h).countP_eq, List.countP_cons, List.countP_cons]
  omega

/-! ## Sums over what is stored -/

/-- What an insertion over another value does to a sum. -/
theorem sum_insert {M : Type} [AddCommMonoid M] {s : FinMap α β} {a : α} {b c : β}
    (h : s.lookup a = some b) (f : β → M) :
    ((values (s.insert a c)).map f).sum + f b = ((values s).map f).sum + f c := by
  have hperm : ((values s).map f).sum = f b + ((values (s.erase a)).map f).sum := by
    rw [((values_perm h).map f).sum_eq, List.map_cons, List.sum_cons]
  rw [values_insert_eq, hperm, List.map_cons, List.sum_cons, add_assoc, add_comm (f c), add_comm (f b)]

/-- When values know the key they are stored under, no key occurs twice among them. -/
theorem nodup_map_values {s : FinMap α β} {key : β → α}
    (hkey : ∀ a b, s.lookup a = some b → key b = a) : ((values s).map key).Nodup := by
  have hkeys : (values s).map key = s.entries.map Sigma.fst := by
    unfold values
    rw [List.map_map]
    refine List.map_congr_left fun e he => ?_
    exact hkey e.1 e.2 (AList.mem_lookup_iff.mpr he)
  rw [hkeys]
  exact s.nodupKeys

/-- Changing what one element contributes changes the sum by as much. -/
theorem sum_map_update {ι κ M : Type} [AddCommMonoid M] {key : ι → κ} {f f' : ι → M} {d : M}
    {l : List ι} (hnodup : (l.map key).Nodup) {x₀ : ι} (hx₀ : x₀ ∈ l)
    (hother : ∀ x ∈ l, key x ≠ key x₀ → f' x = f x) (hchange : f' x₀ = f x₀ + d) :
    (l.map f').sum = (l.map f).sum + d := by
  induction l with
  | nil => exact absurd hx₀ List.not_mem_nil
  | cons x l ih =>
      rw [List.map_cons, List.nodup_cons] at hnodup
      obtain ⟨hnotin, hnodup⟩ := hnodup
      rw [List.map_cons, List.map_cons, List.sum_cons, List.sum_cons]
      rcases List.mem_cons.mp hx₀ with rfl | hx₀
      · -- the others keep what they contribute
        have hrest : l.map f' = l.map f := by
          refine List.map_congr_left fun y hy => hother y (List.mem_cons_of_mem _ hy) ?_
          intro heq
          exact hnotin (heq ▸ List.mem_map_of_mem hy)
        rw [hrest, hchange, add_right_comm]
      · have hne : key x ≠ key x₀ := by
          intro heq
          exact hnotin (heq ▸ List.mem_map_of_mem hx₀)
        rw [hother x List.mem_cons_self hne,
          ih hnodup hx₀ fun y hy => hother y (List.mem_cons_of_mem _ hy), add_assoc]

end FinMap
