import Paymap.Api.Moves

set_option autoImplicit false

/-! # The key table and the calls at work on it

`Shared.Justifies` says what a caller may be told and why, `Phase.Fits` what is so of a call in each of
its phases. `Settled`, the invariant, joins them to the table and the open transactions: a row that is
there stops every later insert, and an open transaction that has inserted it makes the others wait.
-/

namespace Paymap.Api.Idempotency

variable {σ : Handling}

/-! ## Why a caller is told what it is told -/

/-- The handler comes to `rest` when it has run these statements, none of which has failed. -/
inductive Handler.Reaches (handler : Handler σ) : List σ.Statement → Handler σ → Prop where
  | start : Reaches handler [] handler
  | statement {statements : List σ.Statement} {statement : σ.Statement}
      {k : Option (σ.Answer statement) → Handler σ}
      (before : Reaches handler statements (.call statement k)) (answer : σ.Answer statement) :
      Reaches handler (statements ++ [statement]) (k (some answer))

/-- The key of the row a transaction has inserted. -/
def Transaction.key? (t : Transaction σ) : Option Key := t.row.map Prod.fst

/-- Everything a call's handler does, and its result. -/
def Call.Yields (c : Call σ) (t : Transaction σ) : Prop :=
  ∃ result, t.row = some (c.key, c.row result) ∧ c.handler.Reaches t.statements (.ret result)

namespace Shared

/-- Nothing of this call is committed. -/
def Untouched (s : Shared σ) (i : ℕ) : Prop := ∀ t, (i, t) ∉ s.committed

/-- What a call may be told. -/
def Justifies (s : Shared σ) (i : ℕ) (c : Call σ) : Except (Thrown σ) (IdempotentOutcome σ) → Prop
  | .ok outcome => ∃ row, s.rows.lookup c.key = some row ∧ row.requestHash = c.requestHash ∧
      row.responseStatus = some outcome.status ∧ row.responseBody = outcome.json
  | .error .idempotencyKeyReused => s.Untouched i ∧
      ∃ row, s.rows.lookup c.key = some row ∧ row.requestHash ≠ c.requestHash
  | .error .idempotencyKeyProcessing => s.Untouched i ∧
      ∃ row, s.rows.lookup c.key = some row ∧ row.requestHash = c.requestHash ∧
        (row.responseStatus = none ∨ row.responseBody = none)
  | .error .recordNotFound => False
  | .error .database => True
  | .error (.handler _) => s.Untouched i

end Shared

/-- What is so of a call in this phase. -/
def Phase.Fits (s : Shared σ) (i : ℕ) : Phase σ → Prop
  | .starting _ => s.Untouched i ∧ s.transactions.lookup i = none
  | .begun _ => s.Untouched i ∧ ∀ t, s.transactions.lookup i = some t → t = .empty
  | .handling c rest => s.Untouched i ∧ ∀ t, s.transactions.lookup i = some t →
      t.row = some (c.key, ⟨c.requestHash, none, none⟩) ∧ c.handler.Reaches t.statements rest
  | .recorded c result => s.Untouched i ∧ ∀ t, s.transactions.lookup i = some t →
      t.row = some (c.key, c.row result) ∧ c.handler.Reaches t.statements (.ret result)
  | .conflicting c => s.Untouched i ∧ (∀ t, s.transactions.lookup i = some t → t = .empty) ∧
      ∃ row, s.rows.lookup c.key = some row
  | .replaying c outcome => s.Justifies i c (.ok outcome) ∧
      ∀ t, s.transactions.lookup i = some t → t = .empty
  | .failing c e => s.Justifies i c (.error e)
  | .replying c result => s.Justifies i c result ∧ s.transactions.lookup i = none
  | .ended _ => s.transactions.lookup i = none

/-! ## The table and the open transactions -/

/-- The open transactions and the table, whatever the phases of the calls. -/
structure Shared.Consistent (s : Shared σ) : Prop where
  known_open : ∀ i t, s.transactions.lookup i = some t → i < s.calls.length
  known : ∀ q ∈ s.committed, q.1 < s.calls.length
  /-- No two open transactions have inserted the same key. -/
  alone : ∀ i j t u key, s.transactions.lookup i = some t → s.transactions.lookup j = some u →
    t.key? = some key → u.key? = some key → i = j
  /-- The key an open transaction has inserted is not in the table. -/
  free : ∀ i t key, s.transactions.lookup i = some t → t.key? = some key →
    s.rows.lookup key = none
  rows_iff : ∀ key row, s.rows.lookup key = some row ↔ ∃ q ∈ s.committed, q.2.row = some (key, row)
  once : (s.committed.filterMap fun q => q.2.key?).Nodup
  whole : ∀ q ∈ s.committed, q.2 = .empty ∨ ∃ c, s.calls[q.1]? = some c ∧ c.Yields q.2

/-- A step of call `i` leaves the others alone, and only adds to the table. -/
structure Shared.Extends (i : ℕ) (s s' : Shared σ) : Prop where
  transactions : ∀ j ≠ i, s'.transactions.lookup j = s.transactions.lookup j
  committed : ∀ q ∈ s'.committed, q.1 ≠ i → q ∈ s.committed
  rows : ∀ key row, s.rows.lookup key = some row → s'.rows.lookup key = some row
  replies : ∀ j ≠ i, s'.replies.lookup j = s.replies.lookup j

section

variable {s s' : Shared σ} {i j : ℕ} {t : Transaction σ}

theorem extends_put : s.Extends i (s.put i t) where
  transactions _ hj := Shared.layer.lookup_put.trans (if_neg hj)
  committed _ hq _ := hq
  rows _ _ h := h
  replies _ _ := rfl

theorem extends_abort : s.Extends i (s.abort i) where
  transactions _ hj := Shared.layer.lookup_abort_ne hj
  committed _ hq _ := hq
  rows _ _ h := h
  replies _ _ := rfl

theorem lookup_commit : (s.commit i t).transactions.lookup i = none := AList.lookup_erase _ _

theorem lookup_rows_commit (key : Key) :
    (s.commit i t).rows.lookup key = (t.row? key).or (s.rows.lookup key) := by
  obtain ⟨row, statements⟩ := t
  cases row with
  | none => rfl
  | some p =>
      obtain ⟨key', row⟩ := p
      simp only [Shared.commit, Transaction.row?, FinMap.lookup_insert]
      by_cases hkey : key' = key
      · simp [hkey]
      · simp [hkey, Ne.symm hkey]

theorem row?_eq_some {key : Key} {row : IdempotencyKey σ} :
    t.row? key = some row ↔ t.row = some (key, row) := by
  obtain ⟨r, statements⟩ := t
  cases r with
  | none => simp [Transaction.row?]
  | some p =>
      obtain ⟨key', row'⟩ := p
      by_cases hkey : key' = key <;> simp [Transaction.row?, hkey]

theorem key?_eq_some {key : Key} : t.key? = some key ↔ ∃ row, t.row = some (key, row) := by
  simp [Transaction.key?]

theorem extends_commit (hs : s.Consistent) (hlive : s.transactions.lookup i = some t) :
    s.Extends i (s.commit i t) where
  transactions _ hj := AList.lookup_erase_ne hj
  committed q hq hne := by
    rcases List.mem_append.mp hq with hq | hq
    · exact hq
    · exact absurd (congrArg Prod.fst (List.mem_singleton.mp hq)) hne
  rows key row h := by
    -- the transaction has not inserted a key of the table
    have hno : t.row? key = none := by
      by_contra hsome
      obtain ⟨row', hrow'⟩ := Option.ne_none_iff_exists'.mp hsome
      have hfree := hs.free i t key hlive (key?_eq_some.mpr ⟨row', row?_eq_some.mp hrow'⟩)
      rw [hfree] at h
      cases h
    rw [lookup_rows_commit, hno]
    exact h
  replies _ _ := rfl

/-- **Every step does so.** -/
theorem Worked.extends {p p' : Phase σ} (hs : s.Consistent) (h : Worked i s p s' p') :
    s.Extends i s' := by
  cases h with
  | begin c => exact extends_put
  | unbegun c => exact ⟨fun _ _ => rfl, fun _ hq _ => hq, fun _ _ hr => hr, fun _ _ => rfl⟩
  | lost _ _ _ => exact extends_abort
  | insert c t hlive _ _ => exact extends_put
  | conflict c t hlive _ => exact extends_put
  | found c t p' hlive _ => exact extends_put
  | statement c statement k answer t hlive => exact extends_put
  | threw c e => exact extends_abort
  | record c result t hlive => exact extends_put
  | commit c result t told hlive _ => exact extends_commit hs hlive
  | commitReplay c outcome t told hlive _ => exact extends_commit hs hlive
  | rollback c e => exact extends_abort
  | reply c result =>
      refine ⟨fun _ _ => rfl, fun _ hq _ => hq, fun _ _ hr => hr, fun j hj => ?_⟩
      rw [FinMap.lookup_insert, if_neg hj]

/-! ### Frame lemmas -/

theorem Shared.Extends.untouched (h : s.Extends i s') (hj : j ≠ i) (hu : s.Untouched j) :
    s'.Untouched j := fun t hmem => hu t (h.committed (j, t) hmem hj)

/-- What a caller is told does not become wrong. -/
theorem Shared.Extends.justifies (h : s.Extends i s') {c : Call σ}
    {result : Except (Thrown σ) (IdempotentOutcome σ)}
    (hu : s.Untouched j → s'.Untouched j) (hj : s.Justifies j c result) :
    s'.Justifies j c result := by
  rcases result with (_ | _ | _ | _ | e) | outcome
  · obtain ⟨hun, row, hrow, hother⟩ := hj
    exact ⟨hu hun, row, h.rows _ _ hrow, hother⟩
  · obtain ⟨hun, row, hrow, hrest⟩ := hj
    exact ⟨hu hun, row, h.rows _ _ hrow, hrest⟩
  · exact hj
  · trivial
  · exact hu hj
  · obtain ⟨row, hrow, hrest⟩ := hj
    exact ⟨row, h.rows _ _ hrow, hrest⟩

theorem Shared.Extends.fits (h : s.Extends i s') (hj : j ≠ i) {p : Phase σ} (hp : p.Fits s j) :
    p.Fits s' j := by
  have hopen := h.transactions j hj
  have hu := h.untouched hj
  cases p with
  | starting c => exact ⟨hu hp.1, hopen.trans hp.2⟩
  | begun c => exact ⟨hu hp.1, fun t ht => hp.2 t (hopen ▸ ht)⟩
  | handling c rest => exact ⟨hu hp.1, fun t ht => hp.2 t (hopen ▸ ht)⟩
  | recorded c result => exact ⟨hu hp.1, fun t ht => hp.2 t (hopen ▸ ht)⟩
  | conflicting c =>
      obtain ⟨hun, hempty, row, hrow⟩ := hp
      exact ⟨hu hun, fun t ht => hempty t (hopen ▸ ht), row, h.rows _ _ hrow⟩
  | replaying c outcome => exact ⟨h.justifies hu hp.1, fun t ht => hp.2 t (hopen ▸ ht)⟩
  | failing c e => exact h.justifies hu hp
  | replying c result => exact ⟨h.justifies hu hp.1, hopen.trans hp.2⟩
  | ended c => exact hopen.trans hp

/-! ### What a step does to them -/

theorem Shared.Consistent.abort (h : s.Consistent) (i : ℕ) : (s.abort i).Consistent where
  known_open j u hu := h.known_open j u (FinMap.of_lookup_erase hu).2
  known := h.known
  alone j k u v key hu hv := h.alone j k u v key (FinMap.of_lookup_erase hu).2
    (FinMap.of_lookup_erase hv).2
  free j u key hu := h.free j u key (FinMap.of_lookup_erase hu).2
  rows_iff := h.rows_iff
  once := h.once
  whole := h.whole

/-- A transaction may insert a key that nothing else has. -/
theorem Shared.Consistent.put (h : s.Consistent) (hi : i < s.calls.length)
    (hfree : ∀ key, t.key? = some key → s.rows.lookup key = none)
    (halone : ∀ key, t.key? = some key → ∀ j u, j ≠ i → s.transactions.lookup j = some u →
      u.key? ≠ some key) : (s.put i t).Consistent where
  known_open j u hu := by
    by_cases hj : j = i
    · exact hj ▸ hi
    · exact h.known_open j u ((extends_put.transactions j hj).symm.trans hu)
  known := h.known
  alone j k u v key hu hv hukey hvkey := by
    by_cases hj : j = i
    · subst hj
      obtain rfl := Option.some.inj (Shared.layer.lookup_put_self.symm.trans hu)
      by_contra hk
      exact halone key hukey k v (Ne.symm hk)
        ((extends_put.transactions k (Ne.symm hk)).symm.trans hv) hvkey
    · have hu' := (extends_put.transactions j hj).symm.trans hu
      by_cases hk : k = i
      · subst hk
        obtain rfl := Option.some.inj (Shared.layer.lookup_put_self.symm.trans hv)
        exact absurd hukey (halone key hvkey j u hj hu')
      · exact h.alone j k u v key hu' ((extends_put.transactions k hk).symm.trans hv) hukey hvkey
  free j u key hu hukey := by
    by_cases hj : j = i
    · subst hj
      obtain rfl := Option.some.inj (Shared.layer.lookup_put_self.symm.trans hu)
      exact hfree key hukey
    · exact h.free j u key ((extends_put.transactions j hj).symm.trans hu) hukey
  rows_iff := h.rows_iff
  once := h.once
  whole := h.whole

/-- A transaction that already has its row, or none, may go on. -/
theorem Shared.Consistent.put_same (h : s.Consistent) {u : Transaction σ}
    (hlive : s.transactions.lookup i = some u) (hkey : ∀ key, t.key? = some key → u.key? = some key) :
    (s.put i t).Consistent := by
  refine h.put (h.known_open i u hlive) (fun key ht => h.free i u key hlive (hkey key ht)) ?_
  intro key ht j v hj hv hvkey
  exact hj (h.alone j i v u key hv hlive hvkey (hkey key ht))

theorem Shared.Consistent.commit (h : s.Consistent) (hlive : s.transactions.lookup i = some t)
    (hwhole : t = .empty ∨ ∃ c, s.calls[i]? = some c ∧ c.Yields t) : (s.commit i t).Consistent where
  known_open j u hu := h.known_open j u (FinMap.of_lookup_erase hu).2
  known q hq := by
    rcases List.mem_append.mp hq with hq | hq
    · exact h.known q hq
    · obtain rfl := List.mem_singleton.mp hq
      exact h.known_open i t hlive
  alone j k u v key hu hv := h.alone j k u v key (FinMap.of_lookup_erase hu).2
    (FinMap.of_lookup_erase hv).2
  free j u key hu hukey := by
    obtain ⟨hj, hu⟩ := FinMap.of_lookup_erase hu
    -- the committed row has another key, or `j` would be `i`
    have hno : t.row? key = none := by
      by_contra hsome
      obtain ⟨row, hrow⟩ := Option.ne_none_iff_exists'.mp hsome
      have htkey := key?_eq_some.mpr ⟨row, row?_eq_some.mp hrow⟩
      exact hj (h.alone j i u t key hu hlive hukey htkey)
    rw [lookup_rows_commit, hno]
    exact h.free j u key hu hukey
  rows_iff key row := by
    have hmem : (∃ q ∈ s.committed ++ [(i, t)], q.2.row = some (key, row))
        ↔ s.rows.lookup key = some row ∨ t.row = some (key, row) := by
      rw [h.rows_iff key row]
      constructor
      · rintro ⟨q, hq, hrow⟩
        rcases List.mem_append.mp hq with hq | hq
        · exact .inl ⟨q, hq, hrow⟩
        · obtain rfl := List.mem_singleton.mp hq
          exact .inr hrow
      · rintro (⟨q, hq, hrow⟩ | hrow)
        · exact ⟨q, List.mem_append_left _ hq, hrow⟩
        · exact ⟨(i, t), List.mem_append_right _ List.mem_cons_self, hrow⟩
    refine Iff.trans ?_ hmem.symm
    rw [lookup_rows_commit, ← row?_eq_some, Option.or_eq_some_iff]
    constructor
    · rintro (hrow | ⟨-, hrow⟩)
      · exact .inr hrow
      · exact .inl hrow
    · rintro (hrow | hrow)
      · refine .inr ⟨?_, hrow⟩
        by_contra hsome
        obtain ⟨row', hrow'⟩ := Option.ne_none_iff_exists'.mp hsome
        have hfree := h.free i t key hlive (key?_eq_some.mpr ⟨row', row?_eq_some.mp hrow'⟩)
        rw [hfree] at hrow
        cases hrow
      · exact .inl hrow
  once := by
    have happend : (s.committed ++ [(i, t)]).filterMap (fun q => q.2.key?)
        = (s.committed.filterMap fun q => q.2.key?) ++ t.key?.toList := by
      rw [List.filterMap_append]
      cases hkey : t.key? <;> simp [hkey]
    show ((s.committed ++ [(i, t)]).filterMap fun q => q.2.key?).Nodup
    rw [happend]
    refine List.Nodup.append h.once (by cases t.key? <;> simp) ?_
    intro key hbefore hnow
    have htkey : t.key? = some key := Option.mem_toList.mp hnow
    obtain ⟨q, hq, hqkey⟩ := List.mem_filterMap.mp hbefore
    obtain ⟨row, hrow⟩ := key?_eq_some.mp hqkey
    have hthere := (h.rows_iff key row).mpr ⟨q, hq, hrow⟩
    rw [h.free i t key hlive htkey] at hthere
    cases hthere
  whole q hq := by
    rcases List.mem_append.mp hq with hq | hq
    · exact h.whole q hq
    · obtain rfl := List.mem_singleton.mp hq
      exact hwhole

theorem Shared.Consistent.call (h : s.Consistent) (c : Call σ) :
    { s with calls := s.calls ++ [c] : Shared σ }.Consistent where
  known_open j u hu := by
    have hj := h.known_open j u hu
    simp only [List.length_append, List.length_singleton]
    omega
  known q hq := by
    have hlt := h.known q hq
    simp only [List.length_append, List.length_singleton]
    omega
  alone := h.alone
  free := h.free
  rows_iff := h.rows_iff
  once := h.once
  whole q hq := by
    refine (h.whole q hq).imp_right ?_
    rintro ⟨c', hc', hyields⟩
    exact ⟨c', by rw [List.getElem?_append_left (h.known q hq)]; exact hc', hyields⟩

end

/-! ## The invariant -/

structure Settled (s : Shared σ) (phases : List (Phase σ)) : Prop where
  calls_eq : phases.map Phase.call = s.calls
  consistent : s.Consistent
  fits : ∀ i (p : Phase σ), phases[i]? = some p → p.Fits s i
  told : ∀ i result, s.replies.lookup i = some result →
    ∃ c, phases[i]? = some (.ended c) ∧ s.Justifies i c result

section

variable {s s' : Shared σ} {phases : List (Phase σ)} {i : ℕ} {p p' : Phase σ} {t : Transaction σ}

theorem Settled.call_of (h : Settled s phases) (hp : phases[i]? = some p) :
    s.calls[i]? = some p.call := by
  rw [← h.calls_eq, List.getElem?_map, hp]
  rfl

theorem Settled.lt_of (h : Settled s phases) (hp : phases[i]? = some p) : i < s.calls.length :=
  (List.getElem?_eq_some_iff.mp (h.call_of hp)).1

/-- Only call `i` moves, and it is not over yet. -/
theorem Settled.update (h : Settled s phases) (hp : phases[i]? = some p) (hcall : p'.call = p.call)
    (hrunning : ∀ c, p ≠ .ended c) (hext : s.Extends i s') (hcalls : s'.calls = s.calls)
    (hconsistent : s'.Consistent) (hfits : p'.Fits s' i)
    (htold : ∀ j result, s'.replies.lookup j = some result → s.replies.lookup j = some result ∨
      j = i ∧ ∃ c, p' = .ended c ∧ s'.Justifies i c result) :
    Settled s' (phases.set i p') where
  calls_eq := by
    have hi : i < (phases.map Phase.call).length := by
      rw [List.length_map]
      exact (List.getElem?_eq_some_iff.mp hp).1
    have hcall' : p'.call = (phases.map Phase.call)[i] := by
      rw [List.getElem_map, (List.getElem?_eq_some_iff.mp hp).2, hcall]
    rw [List.map_set, hcall', List.set_getElem_self, hcalls, h.calls_eq]
  consistent := hconsistent
  fits j q hq := by
    by_cases hj : i = j
    · subst hj
      rw [List.getElem?_set_self (List.getElem?_eq_some_iff.mp hp).1] at hq
      exact Option.some.inj hq ▸ hfits
    · rw [List.getElem?_set_ne hj] at hq
      exact hext.fits (Ne.symm hj) (h.fits j q hq)
  told j result hresult := by
    rcases htold j result hresult with hbefore | ⟨rfl, c, rfl, hjust⟩
    · obtain ⟨c, hover, hjust⟩ := h.told j result hbefore
      have hj : i ≠ j := by
        rintro rfl
        exact hrunning c (Option.some.inj (hp.symm.trans hover))
      refine ⟨c, (List.getElem?_set_ne hj).trans hover, ?_⟩
      exact hext.justifies (hext.untouched (Ne.symm hj)) hjust
    · exact ⟨c, List.getElem?_set_self (List.getElem?_eq_some_iff.mp hp).1, hjust⟩

/-- The move tells nobody anything. -/
theorem Settled.update_quietly (h : Settled s phases) (hp : phases[i]? = some p)
    (hcall : p'.call = p.call) (hrunning : ∀ c, p ≠ .ended c) (hext : s.Extends i s')
    (hcalls : s'.calls = s.calls) (hreplies : s'.replies = s.replies)
    (hconsistent : s'.Consistent) (hfits : p'.Fits s' i) : Settled s' (phases.set i p') :=
  h.update hp hcall hrunning hext hcalls hconsistent hfits fun _ _ hr => .inl (hreplies ▸ hr)

/-- The insert did not have to wait: no other open transaction has the key. -/
theorem not_held {c : Call σ} (hlive : s.transactions.lookup i = some t)
    (hvacant : s.rows.lookup c.key = none)
    (hwaits : s.waits i (.insertKey c.key c.requestHash) = false) {j : ℕ} {u : Transaction σ}
    (hj : j ≠ i) (hu : s.transactions.lookup j = some u) : u.key? ≠ some c.key := by
  intro hkey
  obtain ⟨row, hrow⟩ := key?_eq_some.mp hkey
  have hheld : s.held i c.key = true := by
    refine List.any_eq_true.mpr ⟨j, FinMap.mem_keysWhere.mpr ⟨u, hu, ?_⟩, by simpa using hj⟩
    rw [row?_eq_some.mpr hrow]
    rfl
  simp [Shared.waits, hlive, hvacant, hheld] at hwaits

theorem find_empty (key : Key) : s.find .empty key = s.rows.lookup key := rfl

theorem settled_of_worked (h : Settled s phases) (hp : phases[i]? = some p)
    (hw : Worked i s p s' p') : Settled s' (phases.set i p') := by
  have hlt := h.lt_of hp
  have hi := h.fits i p hp
  have hext := hw.extends h.consistent
  cases hw with
  | begin c =>
      refine h.update_quietly hp rfl (by simp) hext rfl rfl ?_ ⟨hi.1, ?_⟩
      · exact h.consistent.put hlt (fun key hkey => by cases hkey) fun key hkey => by cases hkey
      · intro t ht
        exact (Option.some.inj (Shared.layer.lookup_put_self.symm.trans ht)).symm
  | unbegun c =>
      exact h.update_quietly hp rfl (by simp) hext rfl rfl h.consistent ⟨trivial, hi.2⟩
  | lost _ _ fails =>
      -- whatever it was about to do, its transaction is gone
      have hgone : ∀ t, (s.abort i).transactions.lookup i ≠ some t := by
        intro t ht
        rw [Shared.layer.lookup_abort_self] at ht
        cases ht
      have hcons := h.consistent.abort i
      cases fails with
      | insert c => exact h.update_quietly hp rfl (by simp) hext rfl rfl hcons trivial
      | find c => exact h.update_quietly hp rfl (by simp) hext rfl rfl hcons trivial
      | statement c statement k =>
          exact h.update_quietly hp rfl (by simp) hext rfl rfl hcons
            ⟨hi.1, fun t ht => absurd ht (hgone t)⟩
      | record c result => exact h.update_quietly hp rfl (by simp) hext rfl rfl hcons trivial
      | commit c result =>
          exact h.update_quietly hp rfl (by simp) hext rfl rfl hcons ⟨trivial, Shared.layer.lookup_abort_self⟩
      | commitReplay c outcome =>
          exact h.update_quietly hp rfl (by simp) hext rfl rfl hcons ⟨trivial, Shared.layer.lookup_abort_self⟩
  | insert c t hlive hunseen hwaits =>
      obtain rfl := hi.2 t hlive
      rw [find_empty] at hunseen
      refine h.update_quietly hp rfl (by simp) hext rfl rfl (h.consistent.put hlt ?_ ?_) ⟨hi.1, ?_⟩
      · rintro key hkey
        obtain rfl := Option.some.inj hkey
        exact hunseen
      · intro key hkey j u hj hu
        obtain rfl := Option.some.inj hkey
        exact not_held hlive hunseen hwaits hj hu
      · intro t ht
        obtain rfl := Option.some.inj (Shared.layer.lookup_put_self.symm.trans ht)
        exact ⟨rfl, .start⟩
  | conflict c t hlive hseen =>
      obtain rfl := hi.2 t hlive
      rw [find_empty] at hseen
      refine h.update_quietly hp rfl (by simp) hext rfl rfl
        (h.consistent.put_same hlive fun _ hkey => hkey) ⟨hi.1, ?_, ?_⟩
      · intro t ht
        exact (Option.some.inj (Shared.layer.lookup_put_self.symm.trans ht)).symm
      · exact Option.isSome_iff_exists.mp hseen
  | found c t p' hlive hfinds =>
      obtain ⟨hun, hempty, row, hrow⟩ := hi
      obtain rfl := hempty t hlive
      rw [find_empty, hrow] at hfinds
      have hcons := h.consistent.put_same (t := .empty) hlive fun _ hkey => hkey
      cases hfinds with
      | reused _ hother =>
          exact h.update_quietly hp rfl (by simp) hext rfl rfl hcons ⟨hun, row, hrow, hother⟩
      | processing _ hsame hunset =>
          exact h.update_quietly hp rfl (by simp) hext rfl rfl hcons ⟨hun, row, hrow, hsame, hunset⟩
      | replay _ status body hsame hstatus hbody =>
          refine h.update_quietly hp rfl (by simp) hext rfl rfl hcons
            ⟨⟨row, hrow, hsame, hstatus, hbody⟩, ?_⟩
          intro t ht
          exact (Option.some.inj (Shared.layer.lookup_put_self.symm.trans ht)).symm
  | statement c statement k answer t hlive =>
      obtain ⟨hrow, hreaches⟩ := hi.2 t hlive
      refine h.update_quietly hp rfl (by simp) hext rfl rfl
        (h.consistent.put_same hlive fun _ hkey => hkey) ⟨hi.1, ?_⟩
      intro u hu
      obtain rfl := Option.some.inj (Shared.layer.lookup_put_self.symm.trans hu)
      exact ⟨hrow, hreaches.statement answer⟩
  | threw c e =>
      exact h.update_quietly hp rfl (by simp) hext rfl rfl (h.consistent.abort i)
        ⟨hi.1, Shared.layer.lookup_abort_self⟩
  | record c result t hlive =>
      obtain ⟨hrow, hreaches⟩ := hi.2 t hlive
      rw [row?_eq_some.mpr hrow] at hext ⊢
      refine h.update_quietly hp rfl (by simp) hext rfl rfl
        (h.consistent.put_same hlive fun key hkey => ?_) ⟨hi.1, ?_⟩
      · exact key?_eq_some.mpr ⟨_, hrow.trans (by rw [← Option.some.inj hkey])⟩
      · intro u hu
        obtain rfl := Option.some.inj (Shared.layer.lookup_put_self.symm.trans hu)
        exact ⟨rfl, hreaches⟩
  | commit c result t told hlive htold =>
      obtain ⟨hrow, hreaches⟩ := hi.2 t hlive
      refine h.update_quietly hp rfl (by simp) hext rfl rfl
        (h.consistent.commit hlive (.inr ⟨c, h.call_of hp, result, hrow, hreaches⟩))
        ⟨?_, lookup_commit⟩
      rcases htold with rfl | rfl
      · refine ⟨c.row result, ?_, rfl, rfl, rfl⟩
        rw [lookup_rows_commit, row?_eq_some.mpr hrow]
        rfl
      · trivial
  | commitReplay c outcome t told hlive htold =>
      obtain rfl := hi.2 t hlive
      refine h.update_quietly hp rfl (by simp) hext rfl rfl
        (h.consistent.commit hlive (.inl rfl)) ⟨?_, lookup_commit⟩
      rcases htold with rfl | rfl
      · obtain ⟨row, hrow, hrest⟩ := hi.1
        exact ⟨row, hext.rows _ _ hrow, hrest⟩
      · trivial
  | rollback c e =>
      exact h.update_quietly hp rfl (by simp) hext rfl rfl (h.consistent.abort i)
        ⟨hext.justifies id hi, Shared.layer.lookup_abort_self⟩
  | reply c result =>
      refine h.update hp rfl (by simp) hext rfl
        ⟨h.consistent.known_open, h.consistent.known, h.consistent.alone, h.consistent.free,
          h.consistent.rows_iff, h.consistent.once, h.consistent.whole⟩ hi.2 ?_
      intro j told htold
      rw [FinMap.lookup_insert] at htold
      by_cases hj : j = i
      · rw [if_pos hj] at htold
        exact .inr ⟨hj, c, rfl, Option.some.inj htold ▸ hi.1⟩
      · rw [if_neg hj] at htold
        exact .inl htold

/-- A call does not notice that its transaction is aborted before it asks for something. -/
theorem fits_abort (h : p.Fits s i) : p.Fits (s.abort i) i := by
  have hgone : ∀ {P : Transaction σ → Prop} t, (s.abort i).transactions.lookup i = some t → P t := by
    intro P t ht
    rw [Shared.layer.lookup_abort_self] at ht
    cases ht
  cases p with
  | starting c => exact ⟨h.1, Shared.layer.lookup_abort_self⟩
  | begun c => exact ⟨h.1, hgone⟩
  | handling c rest => exact ⟨h.1, hgone⟩
  | recorded c result => exact ⟨h.1, hgone⟩
  | conflicting c => exact ⟨h.1, hgone, h.2.2⟩
  | replaying c outcome => exact ⟨extends_abort.justifies id h.1, hgone⟩
  | failing c e => exact extends_abort.justifies id h
  | replying c result => exact ⟨extends_abort.justifies id h.1, Shared.layer.lookup_abort_self⟩
  | ended c => exact Shared.layer.lookup_abort_self

theorem Settled.abort (h : Settled s phases) (i : ℕ) : Settled (s.abort i) phases where
  calls_eq := h.calls_eq
  consistent := h.consistent.abort i
  fits j q hq := by
    by_cases hj : j = i
    · exact hj ▸ fits_abort (hj ▸ h.fits j q hq)
    · exact extends_abort.fits hj (h.fits j q hq)
  told j result hresult := by
    obtain ⟨c, hover, hjust⟩ := h.told j result hresult
    exact ⟨c, hover, extends_abort.justifies id hjust⟩

theorem Settled.call (h : Settled s phases) (c : Call σ) :
    Settled { s with calls := s.calls ++ [c] } (phases ++ [.starting c]) where
  calls_eq := by
    rw [List.map_append, h.calls_eq]
    rfl
  consistent := h.consistent.call c
  fits i q hq := by
    have hlen : phases.length = s.calls.length := by rw [← h.calls_eq, List.length_map]
    have hext : s.Extends phases.length { s with calls := s.calls ++ [c] } :=
      ⟨fun _ _ => rfl, fun _ hmem _ => hmem, fun _ _ hr => hr, fun _ _ => rfl⟩
    by_cases hi : i < phases.length
    · rw [List.getElem?_append_left hi] at hq
      exact hext.fits (Nat.ne_of_lt hi) (h.fits i q hq)
    · -- nothing is known yet of the new call
      rw [List.getElem?_append_right (Nat.le_of_not_lt hi)] at hq
      obtain rfl := List.mem_singleton.mp (List.mem_of_getElem? hq)
      refine ⟨fun t ht => ?_, ?_⟩
      · exact hi (hlen ▸ h.consistent.known (i, t) ht)
      · by_contra hopen
        obtain ⟨t, ht⟩ := Option.ne_none_iff_exists'.mp hopen
        exact hi (hlen ▸ h.consistent.known_open i t ht)
  told i result hresult := by
    obtain ⟨c', hover, hjust⟩ := h.told i result hresult
    have hi : i < phases.length := (List.getElem?_eq_some_iff.mp hover).1
    refine ⟨c', (List.getElem?_append_left hi).trans hover, ?_⟩
    rcases result with (_ | _ | _ | _ | e) | outcome <;> exact hjust

end

/-- What a new call, an abort and a step of a call keep is kept. -/
theorem tracked_exec_of {Inv : Shared σ → List (Phase σ) → Prop}
    (hcall : ∀ s phases c, Inv s phases →
      Inv { s with calls := s.calls ++ [c] } (phases ++ [.starting c]))
    (habort : ∀ s phases i, Inv s phases → Inv (s.abort i) phases)
    (hworked : ∀ s phases i p s' p', Inv s phases → phases[i]? = some p → Worked i s p s' p' →
      Inv s' (phases.set i p'))
    (s : System σ) (action : Action σ) (h : Workers.Tracked Move Inv s) :
    Workers.Tracked Move Inv (exec s action) := by
  cases action with
  | call c =>
      obtain ⟨phases, hin, hinv⟩ := h
      have hbefore : Workers.Tracked Move (fun _ phases' => Inv s.shared phases')
          (s.outside fun shared => { shared with calls := shared.calls ++ [c] }) :=
        ⟨phases, hin, hinv⟩
      exact hbefore.start_to (serve_obeys c) fun phases' => hcall s.shared phases' c
  | work worker reply =>
      unfold exec
      dsimp only
      split
      · rename_i e k hrunning
        split
        · exact h
        · rename_i hwaits
          refine h.work fun phases p e' k' p' hinv hp hrunning' hmove => ?_
          obtain ⟨rfl, -⟩ := Prog.call.inj (Option.some.inj (hrunning.symm.trans hrunning'))
          have hready := eq_false_of_ne_true hwaits
          exact hworked s.shared phases worker p _ p' hinv hp (worked_of_move hready hmove)
      · exact h
  | abort worker => exact h.outside fun phases _ => habort s.shared phases worker

abbrev TrackedSettled (s : System σ) : Prop := Workers.Tracked Move Settled s

theorem tracked_initial : TrackedSettled (initial : System σ) := by
  refine ⟨[], ⟨rfl, fun hp => by simp at hp⟩, rfl, ?_, fun i p hp => by simp at hp, ?_⟩
  · refine ⟨?_, by simp [initial, Shared.empty], ?_, ?_, ?_, List.nodup_nil,
      by simp [initial, Shared.empty]⟩ <;> simp [initial, Shared.empty]
  · simp [initial, Shared.empty]

theorem tracked_exec (s : System σ) (action : Action σ) (h : TrackedSettled s) :
    TrackedSettled (exec s action) :=
  tracked_exec_of (fun _ _ c h => h.call c) (fun _ _ i h => h.abort i)
    (fun _ _ _ _ _ _ h hp hw => settled_of_worked h hp hw) s action h

theorem tracked_run (actions : List (Action σ)) : TrackedSettled (run initial actions : System σ) :=
  Runs.run_invariant tracked_exec tracked_initial actions

end Paymap.Api.Idempotency
