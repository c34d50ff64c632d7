import Paymap.Api.KeyLineage

set_option autoImplicit false

/-! # Steps of requests with credentials

What an effect does to the sessions and the keys (a lemma for each kind), and that the move of a request
that asks for it leads on, to a stage that fits (`Sound.move`).
-/

namespace Paymap.Api.Credentials

open Relayer (Time Uuid)
open ApiKeys (ApiKey GeneratedApiKey RotatedApiKey Candidate Transaction)
open Locks (Kept)

section

variable {hash : String → String} {s s' : Shared} {phases : List (Request × Stage)} {i : ℕ}
  {r : Request} {p p' : Stage} {outcome : Outcome}

theorem kept_refl (keys : FinMap Uuid ApiKey) : Kept ApiKey.Becomes keys keys :=
  Kept.refl ApiKey.becomes_refl keys

/-! ## Effects on the sessions -/

/-- An effect leaves the requests as they are, and lets nobody in but by `enter`. -/
theorem frame_perform (s : MerchantSessions.Shared) (i : ℕ) (outcome : MerchantSessions.Outcome)
    (e : MerchantSessions.Effect) : (MerchantSessions.perform i outcome e s).2.calls = s.calls ∧
    (Quiet e → (MerchantSessions.perform i outcome e s).2.entered = s.entered) := by
  have hwithin : ∀ {α : Type} (f : MerchantSessions.Transaction →
      Option (α × MerchantSessions.Transaction)),
      (s.within i outcome f).2.calls = s.calls ∧ (s.within i outcome f).2.entered = s.entered := by
    intro α f
    constructor
    · exact MerchantSessions.Shared.layer.within_frame MerchantSessions.Shared.calls
        (fun _ _ => rfl) s i _
    · exact MerchantSessions.Shared.layer.within_frame MerchantSessions.Shared.entered
        (fun _ _ => rfl) s i _
  have halone : ∀ f : MerchantSessions.Tables → Option MerchantSessions.Tables,
      (s.alone outcome f).2.calls = s.calls ∧ (s.alone outcome f).2.entered = s.entered := by
    intro f
    unfold MerchantSessions.Shared.alone
    split <;> exact ⟨rfl, rfl⟩
  have hframe : ∀ {s' : MerchantSessions.Shared}, s'.calls = s.calls ∧ s'.entered = s.entered →
      s'.calls = s.calls ∧ (Quiet e → s'.entered = s.entered) := fun h => ⟨h.1, fun _ => h.2⟩
  cases e with
  | now => exact hframe ⟨rfl, rfl⟩
  | createChallenge id challenge => exact hframe (halone _)
  | findChallenge id => cases outcome <;> exact hframe ⟨rfl, rfl⟩
  | beginTransaction => cases outcome <;> exact hframe ⟨rfl, rfl⟩
  | consumeChallenge id now => exact hframe (hwithin _)
  | findMerchantByWallet walletAddress => exact hframe (hwithin _)
  | createSession id session => exact hframe (hwithin _)
  | upsertMerchant id name walletAddress => exact hframe (hwithin _)
  | assignMerchant sessionId merchantId => exact hframe (hwithin _)
  | commit =>
      apply hframe
      constructor
      · exact MerchantSessions.Shared.layer.commit_frame MerchantSessions.Shared.calls
          (fun _ _ => rfl) (MerchantSessions.Shared.commit i) (fun _ _ => rfl) s i outcome
      · exact MerchantSessions.Shared.layer.commit_frame MerchantSessions.Shared.entered
          (fun _ _ => rfl) (MerchantSessions.Shared.commit i) (fun _ _ => rfl) s i outcome
  | rollback => exact hframe ⟨rfl, rfl⟩
  | findSessions tokenPrefix => cases outcome <;> exact hframe ⟨rfl, rfl⟩
  | touchSession id lastUsedAt => exact hframe (halone _)
  | findMerchant id => cases outcome <;> exact hframe ⟨rfl, rfl⟩
  | revokeSession id now => exact hframe (halone _)
  | enter context => exact ⟨rfl, fun he => absurd rfl (he context)⟩
  | enterWithApiKey raw => exact hframe ⟨rfl, rfl⟩
  | reply result => exact hframe ⟨rfl, rfl⟩

/-- The sessions change, and at most the request itself is let in, which had not been. -/
theorem Sound.sessions (h : Sound hash s phases) {sessions : MerchantSessions.Shared}
    (hcalls : sessions.calls = s.1.calls)
    (hentered : ∀ j context, sessions.entered.lookup j = some context →
      j = i ∨ s.1.entered.lookup j = some context)
    (hkept : ∀ j context, s.1.entered.lookup j = some context →
      sessions.entered.lookup j = some context) : Leads hash s (sessions, s.2) i where
  grows := ⟨kept_refl _, fun _ => id, fun _ => id, fun _ _ => id, hkept⟩
  apart j hj := by
    refine ⟨fun hnone => ?_, fun _ => id⟩
    rw [Option.eq_none_iff_forall_not_mem]
    intro context hcontext
    rcases hentered j context hcontext with rfl | hbefore
    · exact hj rfl
    · rw [hnone] at hbefore
      cases hbefore
  requests := rfl
  calls := hcalls
  admitted := hentered
  table := h.table
  transactions := h.transactions
  lineage id key hkey := .inl ⟨key, hkey, key.becomes_refl⟩
  authority parent id hmade := .inl hmade
  entered j context hj := .inl hj
  told j response hj := .inl hj

theorem Sound.quiet (h : Sound hash s phases) {e : MerchantSessions.Effect} (he : Quiet e) :
    Leads hash s (perform i outcome (.inl e) s).2 i := by
  obtain ⟨hcalls, hframe⟩ := frame_perform s.1 i (onSessions outcome) e
  have hsame := hframe he
  show Leads hash s ((MerchantSessions.perform i (onSessions outcome) e s.1).2, s.2) i
  refine h.sessions hcalls (fun j context hj => .inr ?_) fun j context hj => ?_
  · exact hsame ▸ hj
  · exact hsame ▸ hj

/-- The request is let in by a session. -/
theorem Sound.letIn (h : Sound hash s phases) (hopening : s.1.entered.lookup i = none)
    (context : MerchantSessions.MerchantContext) :
    Leads hash s (perform i outcome (.inl (.enter context)) s).2 i := by
  refine h.sessions rfl (fun j context' hj => ?_) fun j context' hj => ?_
  · change (s.1.entered.insert i context).lookup j = some context' at hj
    rw [FinMap.lookup_insert] at hj
    split_ifs at hj with hji
    · exact .inl hji
    · exact .inr hj
  · show (s.1.entered.insert i context).lookup j = some context'
    have hne : j ≠ i := by
      rintro rfl
      rw [hopening] at hj
      cases hj
    exact (AList.lookup_insert_ne hne).trans hj

/-! ## Effects on the keys -/

/-- The table of keys, as a request sees it. -/
def Shared.seen (s : Shared) : ApiKeys.Shared :=
  { s.2.table with disabledMerchants := disabledMerchants s.1.tables }

theorem perform_key {e : ApiKeys.Effect} {table : ApiKeys.Shared}
    (hdone : (ApiKeys.perform i outcome e s.seen).2 = table) :
    (perform i outcome (.inr (.key e)) s).2 = (s.1, { s.2 with table := table }) := by
  rw [← hdone]
  rfl

theorem Sound.request (h : Sound hash s phases) (hp : phases[i]? = some (r, p)) :
    s.2.requests[i]? = some r := by
  rw [h.requests, List.getElem?_map, hp]
  rfl

theorem Sound.seen (h : Sound hash s phases) : s.seen.Proper := h.table.congr rfl rfl

/-- The table of keys changes: what is in it now was in it before, and became this. -/
theorem Sound.tables (h : Sound hash s phases) {table : ApiKeys.Shared}
    (hkept : Kept ApiKey.Becomes s.2.table.keys table.keys)
    (hold : ∀ id key, table.keys.lookup id = some key →
      ∃ before, s.2.table.keys.lookup id = some before ∧ before.Becomes key)
    (hrotations : table.rotations = s.2.table.rotations)
    (hothers : ∀ j, j ≠ i → ∀ t, table.transactions.lookup j = some t →
      s.2.table.transactions.lookup j = some t)
    (hown : ∀ t, table.transactions.lookup i = some t → s.Replaces i) (hproper : table.Proper) :
    Leads hash s (s.1, { s.2 with table := table }) i where
  grows := ⟨hkept, fun _ => id, fun rotation hr => hrotations ▸ hr, fun _ _ => id, fun _ _ => id⟩
  apart j hj := ⟨id, hothers j hj⟩
  requests := rfl
  calls := rfl
  admitted j context hj := .inr hj
  table := hproper
  transactions j t ht := by
    by_cases hj : j = i
    · subst hj
      exact hown t ht
    · exact h.transactions j t (hothers j hj t ht)
  lineage id key hkey := .inl (hold id key hkey)
  authority parent id hmade := by
    refine .inl (hmade.imp_right fun hr => ?_)
    exact hrotations ▸ hr
  entered j context hj := .inl hj
  told j response hj := .inl hj

/-- Only the transaction of the request changes. -/
theorem Sound.unchanged (h : Sound hash s phases) {table : ApiKeys.Shared}
    (hkeys : table.keys = s.2.table.keys) (hrotations : table.rotations = s.2.table.rotations)
    (hothers : ∀ j, j ≠ i → ∀ t, table.transactions.lookup j = some t →
      s.2.table.transactions.lookup j = some t)
    (hown : ∀ t, table.transactions.lookup i = some t → s.Replaces i) (hproper : table.Proper) :
    Leads hash s (s.1, { s.2 with table := table }) i := by
  refine h.tables (hkeys ▸ kept_refl _) (fun id key hkey => ?_) hrotations hothers hown hproper
  exact ⟨key, hkeys ▸ hkey, key.becomes_refl⟩

theorem Sound.idle (h : Sound hash s phases) :
    Leads hash s (s.1, { s.2 with table := s.seen }) i :=
  h.unchanged rfl rfl (fun _ _ _ => id) (fun t ht => h.transactions i t ht) h.seen

theorem Sound.same (h : Sound hash s phases) : Leads hash s s i :=
  h.unchanged rfl rfl (fun _ _ _ => id) (fun t ht => h.transactions i t ht) h.table

/-- A row becomes another one. -/
theorem Sound.update (h : Sound hash s phases) {id : Uuid} {key key' : ApiKey}
    (hrow : s.2.table.keys.lookup id = some key) (hbecomes : key.Becomes key')
    {table : ApiKeys.Shared} (hkeys : table.keys = s.2.table.keys.insert id key')
    (hrotations : table.rotations = s.2.table.rotations)
    (htransactions : table.transactions = s.2.table.transactions) :
    Leads hash s (s.1, { s.2 with table := table }) i := by
  refine h.tables ?_ (fun id' after hafter => ?_) hrotations (fun j _ t ht => htransactions ▸ ht)
    (fun t ht => h.transactions i t (htransactions ▸ ht))
    ((h.table.update hrow hbecomes).congr hkeys htransactions)
  · rw [hkeys]
    refine ApiKeys.kept_insert fun before hbefore => ?_
    obtain rfl := Option.some.inj (hrow.symm.trans hbefore)
    exact hbecomes
  · rw [hkeys, FinMap.lookup_insert] at hafter
    split_ifs at hafter with hid
    · obtain rfl := Option.some.inj hafter
      exact ⟨key, hid ▸ hrow, hbecomes⟩
    · exact ⟨after, hafter, after.becomes_refl⟩

theorem Sound.touch (h : Sound hash s phases) (touched : Uuid) (lastUsedAt : Time) :
    Leads hash s (s.1, { s.2 with table := (s.seen.touch touched lastUsedAt).2 }) i := by
  cases hrow : s.2.table.keys.lookup touched with
  | none =>
      have hsame : (s.seen.touch touched lastUsedAt).2 = s.seen := by
        simp [ApiKeys.Shared.touch, Shared.seen, hrow]
      rw [hsame]
      exact h.idle
  | some key =>
      have hdone : (s.seen.touch touched lastUsedAt).2 = { s.seen with
          keys := s.2.table.keys.insert touched { key with lastUsedAt := some lastUsedAt } } := by
        simp [ApiKeys.Shared.touch, Shared.seen, hrow]
      rw [hdone]
      exact h.update hrow (key.becomes_touch lastUsedAt) rfl rfl rfl

/-- A key is revoked, or there is no active one. -/
theorem revokeActive_cases (k : Keys) (id merchantId : Uuid) (revokedAt : Time) :
    k.revokeActive id merchantId revokedAt = (0, k) ∨
    ∃ key, k.table.keys.lookup id = some key ∧ k.revokeActive id merchantId revokedAt =
      (1, { k with
        table := { k.table with keys := k.table.keys.insert id (key.revoke revokedAt) } }) := by
  unfold Keys.revokeActive
  cases hrow : k.table.keys.lookup id with
  | none => exact .inl rfl
  | some key =>
      dsimp only
      split_ifs
      · exact .inr ⟨key, rfl, rfl⟩
      · exact .inl rfl

theorem Sound.revokeActive (h : Sound hash s phases) (id merchantId : Uuid) (revokedAt : Time) :
    Leads hash s (s.1, (s.2.revokeActive id merchantId revokedAt).2) i := by
  rcases revokeActive_cases s.2 id merchantId revokedAt with hsame | ⟨key, hrow, hdone⟩
  · rw [hsame]
    exact h.same
  · rw [hdone]
    exact h.update hrow (key.becomes_revoke revokedAt) rfl rfl rfl

/-! ### Transactions -/

/-- The transaction of the request goes on. -/
theorem Sound.put (h : Sound hash s phases) (hreplaces : s.Replaces i) {t : Transaction}
    (hproper : (s.seen.put i t).Proper) :
    Leads hash s (s.1, { s.2 with table := s.seen.put i t }) i := by
  refine h.unchanged rfl rfl (fun j hj t' ht' => ?_) (fun _ _ => hreplaces) hproper
  rwa [ApiKeys.Shared.layer.lookup_put, if_neg hj] at ht'

theorem doing_put (s : Shared) (i : ℕ) (t : Transaction) :
    Shared.Doing (s.1, { s.2 with table := s.seen.put i t }) i t := by
  intro t' ht'
  rw [ApiKeys.Shared.layer.lookup_put, if_pos rfl] at ht'
  exact (Option.some.inj ht').symm

theorem Sound.abort (h : Sound hash s phases) :
    Leads hash s (s.1, { s.2 with table := s.seen.abort i }) i :=
  h.unchanged rfl rfl (fun _ _ _ ht => (ApiKeys.Shared.layer.lookup_abort ht).2)
    (fun _ ht => absurd rfl (ApiKeys.Shared.layer.lookup_abort ht).1) (h.seen.abort i)

/-- A statement of a transaction that is not run. -/
theorem Sound.unrun {α : Type} (h : Sound hash s phases)
    {f : Transaction → Option (α × Transaction)} (hnone : (s.seen.within i outcome f).1 = none) :
    Leads hash s (s.1, { s.2 with table := (s.seen.within i outcome f).2 }) i := by
  rw [ApiKeys.Shared.layer.within_none hnone]
  exact h.abort

theorem Sound.fail (h : Sound hash s phases) {e : ApiKeys.Effect}
    (fails : Fails e (ApiKeys.perform i outcome e s.seen).1) :
    Leads hash s (s.1, { s.2 with table := (ApiKeys.perform i outcome e s.seen).2 }) i := by
  cases e with
  | findKey id merchantId =>
      cases hfound : (ApiKeys.perform i outcome (.findKey id merchantId) s.seen).1 with
      | none => exact h.unrun hfound
      | some found =>
        -- there is no such row, and the transaction is as it was
        obtain ⟨t, ht, hdone⟩ := ApiKeys.ran_findKey hfound
        rw [hdone]
        exact h.put (h.transactions i t ht) (h.seen.put (.inl ht) fun _ => rfl)
  | revokeKey id revokedAt => exact h.unrun fails
  | createKey id key => exact h.unrun fails
  | _ => exact False.elim fails

/-! ### New keys -/

theorem Sound.descends (h : Sound hash s phases) {merchantId id : Uuid}
    (hmanages : s.Manages merchantId id) : ∃ sessionId, s.Descends merchantId sessionId id := by
  obtain ⟨key, hkey, rfl, -⟩ := hmanages
  exact h.lineage id key hkey

/-- A key that is made goes back to the session of the one who asks for it, or of its key. -/
theorem Sound.issued (h : Sound hash s phases) (hgrows : s.Grows s') {context : Context} {new : Uuid}
    (hr : s.2.requests[i]? = some r) (hscopes : r.requiredScopes = ApiKeys.requiredScopes)
    (hacts : s.Acts hash i context) (hissue : (context.credential, new) ∈ s'.2.issues) :
    ∃ sessionId, s'.Descends context.merchantId sessionId new := by
  obtain ⟨merchantId, parent | sessionId⟩ := context
  · have hmanages := hacts.manages hr hscopes
    obtain ⟨sessionId, hparent⟩ := h.descends hmanages
    exact ⟨sessionId, .made (hparent.mono hgrows) (hmanages.mono hgrows) hissue⟩
  · obtain ⟨_, -, hentered⟩ := hacts
    exact ⟨sessionId, .issued (hgrows.sessions i _ hentered) hissue⟩

/-- A key is made for the one who asks for it. -/
theorem Sound.insertKey (h : Sound hash s phases) {context : Context} {new : Uuid} {key : ApiKey}
    (hr : s.2.requests[i]? = some r) (hscopes : r.requiredScopes = ApiKeys.requiredScopes)
    (hreplaces : ¬ s.Replaces i) (hacts : s.Acts hash i context)
    (hmerchant : key.merchantId = context.merchantId)
    (hheld : s.2.table.held i (ApiKeys.Shared.insertsRow new key) = false)
    (hfresh : ApiKeys.Fresh s.2.table.keys new key) :
    Leads hash s (s.1, s.2.insertKey context.credential new key) i := by
  have hgrows : s.Grows (s.1, s.2.insertKey context.credential new key) := by
    refine ⟨ApiKeys.kept_insert fun before hbefore => ?_,
      fun issue hissue => List.mem_append_left _ hissue, fun _ => id, fun _ _ => id, fun _ _ => id⟩
    rw [hfresh.1] at hbefore
    cases hbefore
  have hissue : (context.credential, new) ∈ s.2.issues ++ [(context.credential, new)] :=
    List.mem_append_right _ (List.mem_singleton_self _)
  refine
    { grows := hgrows
      apart := fun j _ => ⟨id, fun _ => id⟩
      requests := rfl
      calls := rfl
      admitted := fun j _ hj => .inr hj
      table := h.table.insert hfresh fun j t ht row hrow => ?_
      transactions := h.transactions
      lineage := fun id key' hkey' => ?_
      authority := fun parent id hmade => ?_
      entered := fun _ _ hj => .inl hj
      told := fun _ _ hj => .inl hj }
  · by_cases hj : j = i
    · subst hj
      exact absurd (h.transactions j t ht) hreplaces
    · rw [ApiKeys.held_eq] at hheld
      exact Locks.notMem_of_not_held hheld hj ht hrow
  · change (s.2.table.keys.insert new key).lookup id = some key' at hkey'
    rw [FinMap.lookup_insert] at hkey'
    split_ifs at hkey' with hid
    · obtain rfl := Option.some.inj hkey'
      subst hid
      rw [hmerchant]
      exact .inr (h.issued hgrows hr hscopes hacts hissue)
    · exact .inl ⟨key', hkey', key'.becomes_refl⟩
  · rcases hmade with hissued | hrotated
    · rcases List.mem_append.mp hissued with hold | hnew
      · exact .inl (.inl hold)
      · -- the key that has asked for it may manage keys
        obtain ⟨hcredential, -⟩ := Prod.mk.inj (List.mem_singleton.mp hnew)
        obtain ⟨merchantId, credential⟩ := context
        obtain rfl : (.apiKey parent : Credential) = credential := hcredential
        exact .inr ⟨merchantId, (hacts.manages hr hscopes).mono hgrows⟩
    · exact .inl (.inr hrotated)

/-- A key takes the place of another one. -/
theorem Sound.commit (h : Sound hash s phases) {merchantId old new : Uuid} {revokedAt : Time}
    {created : ApiKey} (hmanages : s.Manages merchantId old)
    (hmerchant : created.merchantId = merchantId)
    (ht : s.2.table.transactions.lookup i =
      some ⟨some (old, revokedAt), some (new, created)⟩) :
    let s' : Shared := (s.1, { s.2 with
      table := s.seen.commit i ⟨some (old, revokedAt), some (new, created)⟩ })
    Leads hash s s' i ∧ s'.IsRevoked old := by
  intro s'
  obtain ⟨key, hrow, -, -⟩ := id hmanages
  have hlookup : ∀ id, s'.2.table.keys.lookup id = if id = new then some created
      else if id = old then some (key.revoke revokedAt) else s.2.table.keys.lookup id :=
    ApiKeys.rotation_lookup hrow
  have hfresh := h.table.fresh i _ ht new created rfl
  have hne : old ≠ new := by
    rintro rfl
    rw [hfresh.1] at hrow
    cases hrow
  have hgrows : s.Grows s' := by
    refine ⟨fun id before hbefore => ?_, fun _ => id,
      fun rotation hrotation => List.mem_append_left _ hrotation, fun _ _ => id, fun _ _ => id⟩
    rw [hlookup]
    split_ifs with hnew hold
    · rw [hnew, hfresh.1] at hbefore
      cases hbefore
    · rw [hold] at hbefore
      obtain rfl := Option.some.inj (hrow.symm.trans hbefore)
      exact ⟨_, rfl, key.becomes_revoke revokedAt⟩
    · exact ⟨before, hbefore, before.becomes_refl⟩
  have hothers : ∀ j t, s'.2.table.transactions.lookup j = some t →
      j ≠ i ∧ s.2.table.transactions.lookup j = some t := fun j t => FinMap.of_lookup_erase
  have hrevoked : s'.IsRevoked old := by
    refine ⟨key.revoke revokedAt, ?_, rfl⟩
    rw [hlookup, if_neg hne, if_pos rfl]
  refine ⟨?_, hrevoked⟩
  refine
    { grows := hgrows
      apart := fun j _ => ⟨id, fun t htransaction => (hothers j t htransaction).2⟩
      requests := rfl
      calls := rfl
      admitted := fun j _ hj => .inr hj
      table := h.seen.commit hrow ht
      transactions := fun j t htransaction => h.transactions j t (hothers j t htransaction).2
      lineage := fun id key' hkey' => ?_
      authority := fun parent id hmade => ?_
      entered := fun _ _ hj => .inl hj
      told := fun _ _ hj => .inl hj }
  · rw [hlookup] at hkey'
    split_ifs at hkey' with hnew hold
    · obtain rfl := Option.some.inj hkey'
      obtain ⟨sessionId, hparent⟩ := h.descends hmanages
      rw [hmerchant, hnew]
      exact .inr ⟨sessionId, .rotated (hparent.mono hgrows) (hmanages.mono hgrows)
        (List.mem_append_right _ (List.mem_singleton_self _))⟩
    · obtain rfl := Option.some.inj hkey'
      exact .inl ⟨key, hold ▸ hrow, key.becomes_revoke revokedAt⟩
    · exact .inl ⟨key', hkey', key'.becomes_refl⟩
  · rcases hmade with hissued | hrotated
    · exact .inl (.inl hissued)
    · rcases List.mem_append.mp hrotated with hbefore | hnew
      · exact .inl (.inr hbefore)
      · obtain ⟨rfl, -⟩ := Prod.mk.inj (List.mem_singleton.mp hnew)
        exact .inr ⟨merchantId, hmanages.mono hgrows⟩

/-- What a rotation has done is committed. -/
theorem Sound.committed (h : Sound hash s phases) {header : Option String}
    {generated : GeneratedApiKey} {merchantId id : Uuid} {current : ApiKey} {t : Transaction}
    (hfits : Stage.Fits hash s i (.rotate header generated) (.made merchantId id current))
    (hr : s.2.requests[i]? = some (.rotate header generated))
    (ht : s.seen.transactions.lookup i = some t) :
    Leads hash s (s.1, { s.2 with table := s.seen.commit i t }) i ∧
      Shared.IsRevoked (s.1, { s.2 with table := s.seen.commit i t }) id := by
  obtain ⟨hacts, hdone⟩ := hfits
  obtain ⟨revokedAt, hdoing⟩ := hdone header generated rfl
  obtain rfl := hdoing t ht
  exact h.commit (hacts.manages hr rfl) rfl ht

/-! ### Who is served, and told -/

theorem Sound.enter (h : Sound hash s phases) {context : Context} (hacts : s.Acts hash i context) :
    Leads hash s (s.1, { s.2 with entered := s.2.entered.insert i context }) i :=
  { h.same with
    grows := Shared.grows_of_keys_eq rfl rfl rfl rfl rfl
    apart := fun j _ => ⟨id, fun _ => id⟩
    lineage := fun id key hkey => .inl ⟨key, hkey, key.becomes_refl⟩
    authority := fun parent id hmade => .inl hmade
    entered := fun j context' hj => by
      change (s.2.entered.insert i context).lookup j = some context' at hj
      rw [FinMap.lookup_insert] at hj
      split_ifs at hj with hji
      · obtain rfl := Option.some.inj hj
        subst hji
        exact .inr (hacts.mono (Shared.grows_of_keys_eq rfl rfl rfl rfl rfl))
      · exact .inl hj }

theorem Sound.tell (h : Sound hash s phases) {result : Except RouteError Response}
    (hbears : ∀ response, result = .ok response → s.Bears response) :
    Leads hash s (s.1, { s.2 with replies := s.2.replies.insert i result }) i :=
  { h.same with
    grows := Shared.grows_of_keys_eq rfl rfl rfl rfl rfl
    apart := fun j _ => ⟨id, fun _ => id⟩
    lineage := fun id key hkey => .inl ⟨key, hkey, key.becomes_refl⟩
    authority := fun parent id hmade => .inl hmade
    told := fun j response hj => by
      change (s.2.replies.insert i result).lookup j = some (.ok response) at hj
      rw [FinMap.lookup_insert] at hj
      split_ifs at hj
      · have hbears' := hbears response (Option.some.inj hj)
        exact .inr (hbears'.mono (Shared.grows_of_keys_eq rfl rfl rfl rfl rfl))
      · exact .inl hj }

/-! ## The moves -/

/-- What the row of a key was read from. -/
theorem lookup_of_mem_candidates {table : ApiKeys.Shared} {keyPrefix : String} {id : Uuid}
    {key : ApiKey} {active : Bool} (h : (id, key, active) ∈ table.candidates keyPrefix) :
    table.keys.lookup id = some key := by
  obtain ⟨row, hrow, hsame⟩ := List.mem_map.mp h
  cases hsame
  exact AList.mem_lookup_iff.mpr (List.mem_filter.mp hrow).1

theorem stored_of_found {raw : String} {candidates : List Candidate} {id : Uuid} {key : ApiKey}
    (hfound : Authenticates hash raw candidates id key)
    (hanswer : (ApiKeys.perform i outcome (.findKeys (ApiKeys.lookupPrefix raw)) s.seen).1 =
      some candidates) : s.2.table.keys.lookup id = some key := by
  cases outcome with
  | served now =>
      obtain rfl := Option.some.inj hanswer
      have hstored : s.seen.keys.lookup id = some key :=
        lookup_of_mem_candidates (List.mem_of_find?_eq_some hfound.1)
      exact hstored
  | failed now => cases hanswer
  | unanswered now => cases hanswer

theorem findKeys_same (i : ℕ) (outcome : Outcome) (keyPrefix : String) (table : ApiKeys.Shared) :
    (ApiKeys.perform i outcome (.findKeys keyPrefix) table).2 = table := by
  cases outcome <;> rfl

/-- A key is inserted, or the row is refused. -/
theorem insertKey_cases (s : Shared) (i : ℕ) (outcome : Outcome) (issuer : Credential) (new : Uuid)
    (key : ApiKey) : (perform i outcome (.inr (.insertKey issuer new key)) s).2 = s ∨
    ApiKeys.Fresh s.2.table.keys new key ∧
      (perform i outcome (.inr (.insertKey issuer new key)) s).2 =
        (s.1, s.2.insertKey issuer new key) := by
  unfold perform performKeys
  dsimp only
  split_ifs with hviolates
  · exact .inl rfl
  · have hfresh := ApiKeys.fresh_of_not_violates (Bool.eq_false_of_not_eq_true hviolates)
    cases outcome with
    | served now => exact .inr ⟨hfresh, rfl⟩
    | failed now => exact .inl rfl
    | unanswered now => exact .inr ⟨hfresh, rfl⟩

/-- The row that a rotation inserts is one that nobody has stored. -/
theorem fresh_of_updated {keys : FinMap Uuid ApiKey} {old new : Uuid} {revokedAt : Time}
    {key created : ApiKey} (hrow : keys.lookup old = some key)
    (hviolates : ApiKeys.Shared.violates
      (Transaction.apply ⟨some (old, revokedAt), none⟩ keys) new created = false) :
    ApiKeys.Fresh keys new created := by
  have hview : Transaction.apply ⟨some (old, revokedAt), none⟩ keys =
      keys.insert old (key.revoke revokedAt) := by
    unfold Transaction.apply
    simp only [hrow]
  rw [hview] at hviolates
  obtain ⟨hnew, hhash⟩ := ApiKeys.fresh_of_not_violates hviolates
  have hkept : Kept ApiKey.Becomes keys (keys.insert old (key.revoke revokedAt)) :=
    ApiKeys.kept_insert fun before hbefore => by
      obtain rfl := Option.some.inj (hrow.symm.trans hbefore)
      exact key.becomes_revoke revokedAt
  refine ⟨?_, fun id before hbefore hsame => ?_⟩
  · rw [Option.eq_none_iff_forall_not_mem]
    intro before hbefore
    obtain ⟨after, hafter, -⟩ := hkept new before hbefore
    rw [hnew] at hafter
    cases hafter
  · obtain ⟨after, hafter, hbecomes⟩ := hkept id before hbefore
    exact hhash id after hafter (hbecomes.keyHash.trans hsame)

/-- **A move of a request** that need not wait leads on, and its new stage fits. -/
theorem Sound.move (h : Sound hash s phases) (hp : phases[i]? = some (r, p)) {e : Effect}
    (hwaits : waits s i e = false) (hmove : Move hash r p e (perform i outcome e s).1 p') :
    Leads hash s (perform i outcome e s).2 i ∧ p'.Fits hash (perform i outcome e s).2 i r := by
  have hr := h.request hp
  have hfits : p.Fits hash s i r := h.fits i r p hp
  generalize hanswer : (Credentials.perform i outcome e s).1 = answer at hmove
  cases hmove with
  | onSessions _ _ quiet =>
      refine ⟨h.quiet quiet, ?_⟩
      have hsame := (frame_perform s.1 i (onSessions outcome) _).2 quiet
      show (MerchantSessions.perform i (onSessions outcome) _ s.1).2.entered.lookup i = none
      rw [hsame]
      exact hfits
  | letIn _ context => exact ⟨h.letIn hfits context, AList.lookup_insert _⟩
  | present _ raw presents => exact ⟨h.quiet (fun _ he => by cases he), presents⟩
  | find _ authenticates =>
      rw [perform_key (findKeys_same i outcome _ s.seen)]
      have hstored := stored_of_found (i := i) authenticates hanswer
      have hhash := List.find?_some authenticates.1
      exact ⟨h.idle, _, _, hfits, hstored, ApiKey.becomes_refl _, by simpa using hhash⟩
  | findNone _ raw keyPrefix =>
      rw [perform_key (findKeys_same i outcome keyPrefix s.seen)]
      exact ⟨h.idle, trivial⟩
  | now => exact ⟨h.idle, hfits.mono (h.idle (i := i)).grows ⟨id, fun _ => id⟩⟩
  | touch _ known touched apiKey lastUsedAt =>
      have hleads := h.touch (i := i) touched lastUsedAt
      have htransactions : (s.seen.touch touched lastUsedAt).2.transactions =
          s.2.table.transactions := by
        unfold ApiKeys.Shared.touch
        split <;> rfl
      have htouched := hfits.mono hleads.grows ⟨id, fun t ht => htransactions ▸ ht⟩
      cases outcome with
      | served now => exact ⟨hleads, htouched⟩
      | unanswered now => exact ⟨hleads, htouched⟩
      | failed now => exact ⟨h.idle, hfits.mono (h.idle (i := i)).grows ⟨id, fun _ => id⟩⟩
  | enterByKey _ scopes =>
      -- the row may have changed since it was read, but not its hash, merchant and scopes
      obtain ⟨raw, key, hraw, hkey, hbecomes, hhash⟩ := hfits
      have hacts : s.Acts hash i ⟨_, .apiKey _⟩ := ⟨r, hr, raw, key, hraw, hkey,
        hbecomes.keyHash.trans hhash, hbecomes.merchantId, hbecomes.scopes ▸ scopes⟩
      exact ⟨h.enter hacts, hacts.mono (h.enter hacts).grows⟩
  | enterBySession _ context =>
      have hacts : s.Acts hash i ⟨context.merchantId, .session context.sessionId⟩ := ⟨r, hr, hfits⟩
      exact ⟨h.enter hacts, hacts.mono (h.enter hacts).grows⟩
  | insert merchant _ =>
      -- the request has no transaction, so another one holds whatever is held
      have hreplaces : ¬ s.Replaces i := by
        rintro ⟨header, generated, hr'⟩
        cases hr.symm.trans hr'
      rcases insertKey_cases s i outcome _ _ _ with hsame | ⟨hfresh, hdone⟩
      · rw [hsame]
        exact ⟨h.same, trivial⟩
      · rw [hdone]
        exact ⟨h.insertKey hr rfl hreplaces hfits merchant hwaits hfresh, trivial⟩
  | revoke header id context revokedAt =>
      -- one row is revoked, since the request was told so
      cases outcome with
      | failed now => cases hanswer
      | unanswered now => cases hanswer
      | served now =>
          refine ⟨h.revokeActive id context.merchantId revokedAt, ?_⟩
          have hone : (s.2.revokeActive id context.merchantId revokedAt).1 = 1 :=
            Option.some.inj hanswer
          rcases revokeActive_cases s.2 id context.merchantId revokedAt with hsame | ⟨key, -, hdone⟩
          · rw [hsame] at hone
            cases hone
          · show Shared.IsRevoked (s.1, (s.2.revokeActive id context.merchantId revokedAt).2) id
            rw [hdone]
            exact ⟨key.revoke revokedAt, AList.lookup_insert _, rfl⟩
  | revokeNone header id context revokedAt =>
      have hleads := h.revokeActive (i := i) id context.merchantId revokedAt
      cases outcome with
      | served now => exact ⟨hleads, trivial⟩
      | unanswered now => exact ⟨hleads, trivial⟩
      | failed now => exact ⟨h.same, trivial⟩
  | begin header generated merchantId id =>
      cases outcome with
      | failed now => cases hanswer
      | unanswered now => cases hanswer
      | served now =>
          have hproper : (s.seen.put i .empty).Proper :=
            h.seen.put (.inr rfl) fun _ : _ = some Transaction.empty => rfl
          have hleads := h.put ⟨header, generated, hr⟩ hproper
          exact ⟨hleads, Shared.Acts.mono hleads.grows hfits, doing_put s i .empty⟩
  | unbegun =>
      cases outcome with
      | served now => cases hanswer
      | failed now => exact ⟨h.idle, trivial⟩
      | unanswered now => exact ⟨h.idle, trivial⟩
  | read header generated merchantId id current =>
      have hran : (ApiKeys.perform i outcome (.findKey id merchantId) s.seen).1 = some (some current) :=
        hanswer
      obtain ⟨t, ht, hdone⟩ := ApiKeys.ran_findKey hran
      obtain ⟨hacts, hdoing⟩ := hfits
      obtain rfl := hdoing t ht
      rw [perform_key hdone]
      have hleads := h.put ⟨header, generated, hr⟩ (h.seen.put (.inl ht) fun _ => rfl)
      exact ⟨hleads, hacts.mono hleads.grows, doing_put s i .empty⟩
  | replace header generated merchantId id current revokedAt =>
      have hran : (ApiKeys.perform i outcome (.revokeKey id revokedAt) s.seen).1 = some () := hanswer
      obtain ⟨t, ht, hdone⟩ := ApiKeys.ran_revokeKey hran
      obtain ⟨hacts, hdoing⟩ := hfits
      obtain rfl := hdoing t ht
      rw [perform_key hdone]
      have hproper : (s.seen.put i ⟨some (id, revokedAt), none⟩).Proper :=
        h.seen.put (.inl ht) fun _ => rfl
      have hleads := h.put ⟨header, generated, hr⟩ hproper
      exact ⟨hleads, hacts.mono hleads.grows, revokedAt, doing_put s i _⟩
  | make header generated merchantId id current =>
      -- the new row is checked against the table as the transaction sees it
      have hran : (ApiKeys.perform i outcome (.createKey generated.id
          (ApiKeys.newApiKey hash merchantId current generated)) s.seen).1 = some () := hanswer
      obtain ⟨t, ht, hviolates, hdone⟩ := ApiKeys.ran_createKey hran
      obtain ⟨hacts, revokedAt, hdoing⟩ := hfits
      obtain rfl := hdoing t ht
      rw [perform_key hdone]
      obtain ⟨key, hrow, -, -⟩ := hacts.manages hr rfl
      have hfresh := fresh_of_updated hrow hviolates
      have hproper : (s.seen.put i ⟨some (id, revokedAt), some (generated.id,
          ApiKeys.newApiKey hash merchantId current generated)⟩).Proper :=
        h.seen.create hwaits hfresh
      have hleads := h.put ⟨header, generated, hr⟩ hproper
      refine ⟨hleads, hacts.mono hleads.grows, ?_⟩
      rintro _ _ ⟨⟩
      exact ⟨revokedAt, doing_put s i _⟩
  | commit header generated merchantId id current =>
      rcases ApiKeys.Shared.layer.commit_cases (ApiKeys.Shared.commit i) s.seen i outcome.fate with
        hgone | ⟨t, ht, hdone⟩
      · cases (congrArg Prod.fst hgone).symm.trans hanswer
      · rw [perform_key (show (ApiKeys.perform i outcome .commit s.seen).2 = _ from hdone)]
        exact h.committed hfits hr ht
  | commitLost header generated merchantId id current =>
      rcases ApiKeys.Shared.layer.commit_cases (ApiKeys.Shared.commit i) s.seen i outcome.fate with
        hgone | ⟨t, ht, hdone⟩
      · rw [perform_key (show (ApiKeys.perform i outcome .commit s.seen).2 = _ from
          congrArg Prod.snd hgone)]
        exact ⟨h.abort, trivial⟩
      · -- it is committed, and nobody is told
        rw [perform_key (show (ApiKeys.perform i outcome .commit s.seen).2 = _ from hdone)]
        exact ⟨(h.committed hfits hr ht).1, trivial⟩
  | fail _ _ fails => exact ⟨h.fail (hanswer ▸ fails), trivial⟩
  | rollback => exact ⟨h.abort, trivial⟩
  | refuse _ _ e => exact ⟨h.tell (fun _ hresult => by cases hresult), trivial⟩
  | answer _ _ plain =>
      refine ⟨h.tell (fun response hresult => ?_), trivial⟩
      obtain rfl := Except.ok.inj hresult
      exact Shared.bears_of_plain s plain
  | answerRevoked _ id =>
      refine ⟨h.tell (fun response hresult => ?_), trivial⟩
      obtain rfl := Except.ok.inj hresult
      exact hfits
  | answerRotated _ new apiKey id =>
      refine ⟨h.tell (fun response hresult => ?_), trivial⟩
      obtain rfl := Except.ok.inj hresult
      exact hfits

end

end Paymap.Api.Credentials
