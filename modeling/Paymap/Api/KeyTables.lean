import Paymap.Api.Rotations
import Paymap.Lib.Locks

set_option autoImplicit false

/-! # The table of API keys

What may become of a key (`ApiKey.Becomes`), and what holds of the table and the open transactions
(`Shared.Proper`): two keys never have one hash, and what a transaction is about to insert nobody else has
or is about to insert. Updates, inserts and commits keep it so, since statements wait.
-/

namespace Paymap.Api.ApiKeys

open Relayer (Time Uuid)
open Locks (Kept)

/-- A key keeps its merchant, name, scopes and hash, and once revoked it stays so. -/
structure ApiKey.Becomes (key key' : ApiKey) : Prop where
  merchantId : key'.merchantId = key.merchantId
  name : key'.name = key.name
  scopes : key'.scopes = key.scopes
  keyHash : key'.keyHash = key.keyHash
  revoked : key.status = .revoked → key'.status = .revoked

theorem ApiKey.becomes_refl (key : ApiKey) : key.Becomes key := ⟨rfl, rfl, rfl, rfl, id⟩

theorem ApiKey.Becomes.trans {key key' key'' : ApiKey} (h : key.Becomes key')
    (h' : key'.Becomes key'') : key.Becomes key'' where
  merchantId := h'.merchantId.trans h.merchantId
  name := h'.name.trans h.name
  scopes := h'.scopes.trans h.scopes
  keyHash := h'.keyHash.trans h.keyHash
  revoked hrevoked := h'.revoked (h.revoked hrevoked)

theorem ApiKey.becomes_revoke (key : ApiKey) (revokedAt : Time) : key.Becomes (key.revoke revokedAt) :=
  ⟨rfl, rfl, rfl, rfl, fun _ => rfl⟩

theorem ApiKey.becomes_touch (key : ApiKey) (lastUsedAt : Time) :
    key.Becomes { key with lastUsedAt := some lastUsedAt } := ⟨rfl, rfl, rfl, rfl, id⟩

/-- A value of a unique column. -/
inductive Unique where
  | id (id : Uuid)
  | hash (keyHash : String)
deriving DecidableEq

def uniques (id : Uuid) (key : ApiKey) : List Unique := [.id id, .hash key.keyHash]

/-- What others may not insert. -/
def Transaction.inserted (t : Transaction) : List Unique :=
  t.created.toList.flatMap fun created => uniques created.1 created.2

/-- The row violates no unique constraint of the table. -/
def Fresh (keys : FinMap Uuid ApiKey) (id : Uuid) (key : ApiKey) : Prop :=
  keys.lookup id = none ∧ ∀ id' key', keys.lookup id' = some key' → key'.keyHash ≠ key.keyHash

structure Shared.Proper (s : Shared) : Prop where
  hashes : ∀ id id' key key', s.keys.lookup id = some key → s.keys.lookup id' = some key' →
    key.keyHash = key'.keyHash → id = id'
  exclusive : Locks.Exclusive Transaction.inserted s.transactions
  fresh : ∀ i t, s.transactions.lookup i = some t → ∀ id key, t.created = some (id, key) →
    Fresh s.keys id key

section

variable {s : Shared} {keys : FinMap Uuid ApiKey} {i : ℕ} {id : Uuid} {key key' : ApiKey}
  {t : Transaction}

theorem kept_insert (hrow : ∀ before, keys.lookup id = some before → before.Becomes key) :
    Kept ApiKey.Becomes keys (keys.insert id key) := Kept.insert ApiKey.becomes_refl hrow

theorem fresh_of_not_violates (h : Shared.violates keys id key = false) : Fresh keys id key := by
  obtain ⟨hid, hhash⟩ := Bool.or_eq_false_iff.mp h
  refine ⟨Option.not_isSome_iff_eq_none.mp (Bool.eq_false_iff.mp hid), fun id' key' hlookup hsame => ?_⟩
  have hany : ((FinMap.values keys).any fun stored => stored.keyHash = key.keyHash) = true :=
    List.any_eq_true.mpr ⟨key', FinMap.mem_values.mpr ⟨id', hlookup⟩, decide_eq_true hsame⟩
  rw [hhash] at hany
  cases hany

theorem inserted_of_created (h : t.created = some (id, key)) : t.inserted = uniques id key := by
  simp [Transaction.inserted, h]

/-- A statement that inserts waits for whoever has inserted one of its unique values. -/
theorem held_eq (s : Shared) (worker : ℕ) (id : Uuid) (key : ApiKey) :
    s.held worker (Shared.insertsRow id key) =
      Locks.held Transaction.inserted s.transactions worker (uniques id key) := by
  have hsame : Shared.insertsRow id key =
      fun t => t.inserted.any (· ∈ uniques id key) := by
    funext t
    unfold Shared.insertsRow Transaction.inserted
    cases t.created with
    | none => rfl
    | some created => simp [uniques]
  unfold Shared.held Locks.held
  rw [hsame]

theorem Shared.Proper.congr {s' : Shared} (h : s.Proper) (hkeys : s'.keys = s.keys)
    (htransactions : s'.transactions = s.transactions) : s'.Proper := by
  obtain ⟨hhashes, hexclusive, hfresh⟩ := h
  rw [← hkeys] at hhashes hfresh
  rw [← htransactions] at hexclusive hfresh
  exact ⟨hhashes, hexclusive, hfresh⟩

/-! ## Keys that are updated and inserted -/

/-- A row becomes another one. -/
theorem Shared.Proper.update (h : s.Proper) (hrow : s.keys.lookup id = some key)
    (hbecomes : key.Becomes key') : Shared.Proper { s with keys := s.keys.insert id key' } := by
  have hbefore : ∀ id' after, (s.keys.insert id key').lookup id' = some after →
      ∃ before, s.keys.lookup id' = some before ∧ before.keyHash = after.keyHash := by
    intro id' after hafter
    rw [FinMap.lookup_insert] at hafter
    split_ifs at hafter with hid
    · obtain rfl := Option.some.inj hafter
      exact ⟨key, hid ▸ hrow, hbecomes.keyHash.symm⟩
    · exact ⟨after, hafter, rfl⟩
  refine ⟨?_, h.exclusive, ?_⟩
  · intro id₁ id₂ key₁ key₂ h₁ h₂ hsame
    obtain ⟨before₁, hbefore₁, hhash₁⟩ := hbefore id₁ key₁ h₁
    obtain ⟨before₂, hbefore₂, hhash₂⟩ := hbefore id₂ key₂ h₂
    exact h.hashes id₁ id₂ before₁ before₂ hbefore₁ hbefore₂
      (hhash₁.trans (hsame.trans hhash₂.symm))
  · intro j t ht new created hcreated
    obtain ⟨hnew, hhash⟩ := h.fresh j t ht new created hcreated
    refine ⟨?_, fun id' after hafter => ?_⟩
    · have hne : new ≠ id := by
        rintro rfl
        rw [hrow] at hnew
        cases hnew
      exact (AList.lookup_insert_ne hne).trans hnew
    · obtain ⟨before, hbefore', hsame⟩ := hbefore id' after hafter
      exact hsame ▸ hhash id' before hbefore'

/-- A row is inserted that nobody is about to insert. -/
theorem Shared.Proper.insert (h : s.Proper) (hfresh : Fresh s.keys id key)
    (hapart : ∀ j t, s.transactions.lookup j = some t → ∀ row ∈ uniques id key, row ∉ t.inserted) :
    Shared.Proper { s with keys := s.keys.insert id key } := by
  refine ⟨?_, h.exclusive, ?_⟩
  · intro id₁ id₂ key₁ key₂ h₁ h₂ hsame
    rw [FinMap.lookup_insert] at h₁ h₂
    split_ifs at h₁ h₂ with hid₁ hid₂ hid₂
    · exact hid₁.trans hid₂.symm
    · obtain rfl := Option.some.inj h₁
      exact absurd hsame.symm (hfresh.2 id₂ key₂ h₂)
    · obtain rfl := Option.some.inj h₂
      exact absurd hsame (hfresh.2 id₁ key₁ h₁)
    · exact h.hashes id₁ id₂ key₁ key₂ h₁ h₂ hsame
  · intro j t ht new created hcreated
    obtain ⟨hnew, hhash⟩ := h.fresh j t ht new created hcreated
    have hinserted := inserted_of_created hcreated
    have hne : ∀ row ∈ uniques id key, row ∉ uniques new created := by
      rw [← hinserted]
      exact hapart j t ht
    refine ⟨?_, fun id' after hafter => ?_⟩
    · have hid : new ≠ id := by
        rintro rfl
        exact hne (.id new) (by simp [uniques]) (by simp [uniques])
      exact (AList.lookup_insert_ne hid).trans hnew
    · rw [FinMap.lookup_insert] at hafter
      split_ifs at hafter with hid
      · obtain rfl := Option.some.inj hafter
        intro hsame
        exact hne (.hash key.keyHash) (by simp [uniques]) (by simp [uniques, hsame])
      · exact hhash id' after hafter

/-! ## Transactions -/

/-- What a statement that was run has done to the transaction. -/
theorem ran_findKey {outcome : Outcome} {merchantId : Uuid} {found : Option ApiKey}
    (h : (perform i outcome (.findKey id merchantId) s).1 = some found) :
    ∃ t, s.transactions.lookup i = some t ∧
      (perform i outcome (.findKey id merchantId) s).2 = s.put i t := by
  obtain ⟨t, t', ht, hf, hdone⟩ := Shared.layer.run_of_answer h
  obtain ⟨-, rfl⟩ := Prod.mk.inj (Option.some.inj hf)
  exact ⟨t, ht, hdone⟩

theorem ran_revokeKey {outcome : Outcome} {revokedAt : Time}
    (h : (perform i outcome (.revokeKey id revokedAt) s).1 = some ()) :
    ∃ t, s.transactions.lookup i = some t ∧ (perform i outcome (.revokeKey id revokedAt) s).2 =
      s.put i { t with revoked := some (id, revokedAt) } := by
  obtain ⟨t, t', ht, hf, hdone⟩ := Shared.layer.run_of_answer h
  split_ifs at hf
  obtain ⟨-, rfl⟩ := Prod.mk.inj (Option.some.inj hf)
  exact ⟨t, ht, hdone⟩

theorem ran_createKey {outcome : Outcome}
    (h : (perform i outcome (.createKey id key) s).1 = some ()) :
    ∃ t, s.transactions.lookup i = some t ∧ Shared.violates (t.apply s.keys) id key = false ∧
      (perform i outcome (.createKey id key) s).2 = s.put i { t with created := some (id, key) } := by
  obtain ⟨t, t', ht, hf, hdone⟩ := Shared.layer.run_of_answer h
  split_ifs at hf with hviolates
  obtain ⟨-, rfl⟩ := Prod.mk.inj (Option.some.inj hf)
  exact ⟨t, ht, Bool.eq_false_of_not_eq_true hviolates, hdone⟩

theorem Shared.Proper.abort (h : s.Proper) (worker : ℕ) : (s.abort worker).Proper where
  hashes := h.hashes
  exclusive := h.exclusive.erase worker
  fresh j t ht := h.fresh j t (Shared.layer.lookup_abort ht).2

/-- A transaction goes on that inserts nothing more. -/
theorem Shared.Proper.put (h : s.Proper) {before : Transaction}
    (hbefore : s.transactions.lookup i = some before ∨ t.created = none)
    (hcreated : s.transactions.lookup i = some before → t.created = before.created) :
    (s.put i t).Proper := by
  refine ⟨h.hashes, ?_, fun j t' ht' => ?_⟩
  · refine h.exclusive.insert_of_subset fun row hrow => ?_
    rcases hbefore with hbefore | hnone
    · refine ⟨before, hbefore, ?_⟩
      unfold Transaction.inserted at hrow ⊢
      rwa [hcreated hbefore] at hrow
    · simp [Transaction.inserted, hnone] at hrow
  · rw [Shared.layer.lookup_put] at ht'
    split_ifs at ht' with hj
    · obtain rfl := Option.some.inj ht'
      intro new created hnew
      rcases hbefore with hbefore | hnone
      · exact h.fresh i before hbefore new created ((hcreated hbefore).symm.trans hnew)
      · rw [hnone] at hnew
        cases hnew
    · exact h.fresh j t' ht'

/-- A transaction inserts a row. -/
theorem Shared.Proper.create (h : s.Proper) {revoked : Option (Uuid × Time)}
    (hfree : s.held i (Shared.insertsRow id key) = false) (hfresh : Fresh s.keys id key) :
    (s.put i ⟨revoked, some (id, key)⟩).Proper := by
  refine ⟨h.hashes, ?_, fun j t' ht' => ?_⟩
  · rw [held_eq] at hfree
    refine h.exclusive.insert hfree fun row hrow => .inl ?_
    rwa [inserted_of_created rfl] at hrow
  · rw [Shared.layer.lookup_put] at ht'
    split_ifs at ht' with hj
    · obtain rfl := Option.some.inj ht'
      rintro _ _ ⟨⟩
      exact hfresh
    · exact h.fresh j t' ht'

/-- A rotation is committed. -/
theorem Shared.Proper.commit (h : s.Proper) {old new : Uuid} {revokedAt : Time} {created : ApiKey}
    (hrow : s.keys.lookup old = some key)
    (ht : s.transactions.lookup i = some ⟨some (old, revokedAt), some (new, created)⟩) :
    (s.commit i ⟨some (old, revokedAt), some (new, created)⟩).Proper := by
  -- the key is revoked, then the transaction is over, and then the new key is there
  have hrevoked := h.update hrow (key.becomes_revoke revokedAt)
  have hfresh := hrevoked.fresh i _ ht new created rfl
  have hover := hrevoked.abort i
  have hcommitted := hover.insert hfresh fun j t' ht' row hmem hmem' => by
    obtain ⟨hj, ht'⟩ := Shared.layer.lookup_abort ht'
    refine h.exclusive j i t' _ ht' ht hj row hmem' ?_
    rwa [inserted_of_created rfl]
  have hkeys : Transaction.apply ⟨some (old, revokedAt), some (new, created)⟩ s.keys =
      (s.keys.insert old (key.revoke revokedAt)).insert new created := by
    unfold Transaction.apply
    simp only [hrow]
  exact hcommitted.congr hkeys rfl

end

end Paymap.Api.ApiKeys
