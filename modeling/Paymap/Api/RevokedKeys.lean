import Paymap.Api.Authority

set_option autoImplicit false

/-! # Keys that are revoked

A key is revoked by a request to delete it or by a rotation, and a request that is being authenticated with
it then may still be served. No request that comes later is (`revoked_keys_stay_out`): its row is not
active, and no other row has its hash.
-/

namespace Paymap.Api.Credentials

open Relayer (Time Uuid)
open ApiKeys (ApiKey Candidate)

/-- The request does not go on with the key. -/
def Stage.Without (id : Uuid) : Stage → Prop
  | .known id' _ => id' ≠ id
  | _ => True

/-- The key is revoked, and no request from the `n`th on is served with it. -/
structure Barred (hash : String → String) (id : Uuid) (keyHash : String) (n : ℕ) (s : Shared)
    (phases : List (Request × Stage)) : Prop where
  sound : Sound hash s phases
  revoked : ∃ key, s.2.table.keys.lookup id = some key ∧ key.status = .revoked ∧ key.keyHash = keyHash
  without : ∀ i r (p : Stage), n ≤ i → phases[i]? = some (r, p) → p.Without id
  unserved : ∀ i context, n ≤ i → s.2.entered.lookup i = some context → context.credential ≠ .apiKey id

section

variable {hash : String → String} {id : Uuid} {keyHash : String} {n i : ℕ} {s s' : Shared}
  {phases : List (Request × Stage)} {r : Request} {p p' : Stage} {outcome : Outcome}

/-- Who is served after an effect was served before, or is let in by it. -/
theorem entered_of_perform {e : Effect} {j : ℕ} {context : Context}
    (h : (perform i outcome e s).2.2.entered.lookup j = some context) :
    s.2.entered.lookup j = some context ∨ j = i ∧ e = .inr (.enter context) := by
  cases e with
  | inl e => exact .inl h
  | inr e =>
      cases e with
      | key e => exact .inl h
      | enter context' =>
          change (s.2.entered.insert i context').lookup j = some context at h
          rw [FinMap.lookup_insert] at h
          split_ifs at h with hj
          · obtain rfl := Option.some.inj h
            exact .inr ⟨hj, rfl⟩
          · exact .inl h
      | insertKey issuer new key =>
          rcases insertKey_cases s i outcome issuer new key with hsame | ⟨-, hdone⟩
          · exact .inl (hsame ▸ h)
          · rw [hdone] at h
            exact .inl h
      | revokeActive id merchantId revokedAt =>
          have hkeys : (s.2.revokeActive id merchantId revokedAt).2.entered = s.2.entered := by
            rcases revokeActive_cases s.2 id merchantId revokedAt with hsame | ⟨key, -, hdone⟩
            · rw [hsame]
            · rw [hdone]
          cases outcome with
          | failed now => exact .inl h
          | served now => exact .inl (hkeys ▸ h)
          | unanswered now => exact .inl (hkeys ▸ h)
      | tell result => exact .inl h

/-- A request that has not come as far as the key does not come there, since its row is not active. -/
theorem Barred.stays (h : Barred hash id keyHash n s phases) {e : Effect}
    (hmove : Move hash r p e (perform i outcome e s).1 p') (hp : p.Without id) : p'.Without id := by
  generalize hanswer : (perform i outcome e s).1 = answer at hmove
  cases hmove with
  | find _ authenticates =>
      rintro rfl
      obtain ⟨key, hkey, hrevoked, -⟩ := h.revoked
      have hstored := stored_of_found (i := i) authenticates hanswer
      obtain rfl := Option.some.inj (hkey.symm.trans hstored)
      rw [authenticates.2] at hrevoked
      cases hrevoked
  | now => exact hp
  | touch => exact hp
  | _ => trivial

theorem revoked_mono (hgrows : s.Grows s') (hrevoked : ∃ key, s.2.table.keys.lookup id = some key ∧
    key.status = .revoked ∧ key.keyHash = keyHash) : ∃ key, s'.2.table.keys.lookup id = some key ∧
      key.status = .revoked ∧ key.keyHash = keyHash := by
  obtain ⟨key, hkey, hstatus, hhash⟩ := hrevoked
  obtain ⟨key', hkey', hbecomes⟩ := hgrows.keys id key hkey
  exact ⟨key', hkey', hbecomes.revoked hstatus, hbecomes.keyHash.trans hhash⟩

/-- **A move of a request** keeps the key out. -/
theorem Barred.move (h : Barred hash id keyHash n s phases) (hp : phases[i]? = some (r, p)) {e : Effect}
    (hwaits : waits s i e = false) (hmove : Move hash r p e (perform i outcome e s).1 p') :
    Barred hash id keyHash n (perform i outcome e s).2 (phases.set i (r, p')) := by
  obtain ⟨hleads, hfits⟩ := h.sound.move hp hwaits hmove
  refine ⟨h.sound.step hp hleads hfits, revoked_mono hleads.grows h.revoked, ?_, ?_⟩
  · intro j r' q hj hq
    rcases Workers.getElem?_set_cases hq with ⟨rfl, hsame⟩ | ⟨-, hold⟩
    · cases hsame
      exact h.stays hmove (h.without j r p hj hp)
    · exact h.without j r' q hj hold
  · intro j context hj hentered
    rcases entered_of_perform hentered with hbefore | ⟨rfl, rfl⟩
    · exact h.unserved j context hj hbefore
    · have hwithout := h.without j r p hj hp
      cases hmove with
      | enterByKey _ scopes =>
          intro hsame
          cases hsame
          exact hwithout rfl
      | enterBySession _ context' =>
          intro hsame
          cases hsame

theorem Barred.arrive (h : Barred hash id keyHash n s phases) (r : Request) :
    Barred hash id keyHash n (arrive r s) (phases ++ [(r, .opening)]) := by
  refine ⟨h.sound.arrive r, h.revoked, fun j r' q hj hq => ?_, h.unserved⟩
  rw [List.getElem?_append] at hq
  split_ifs at hq
  · exact h.without j r' q hj hq
  · obtain ⟨-, rfl⟩ := Prod.mk.inj (List.mem_singleton.mp (List.mem_of_getElem? hq))
    trivial

theorem Barred.outside (h : Barred hash id keyHash n s phases) (a : Action) :
    Barred hash id keyHash n (outsideEffect s a) phases := by
  obtain ⟨hleads, -⟩ := outside_leads h.sound a 0
  refine ⟨h.sound.outside a, revoked_mono hleads.grows h.revoked, h.without, fun j context hj hentered =>
    h.unserved j context hj ?_⟩
  cases a <;> exact hentered

theorem barred_run (cfg : MerchantSessions.Config) {c : System}
    (h : Workers.Tracked (Step hash) (Barred hash id keyHash n) c) (actions : List Action) :
    Workers.Tracked (Step hash) (Barred hash id keyHash n) (run cfg hash c actions) := by
  refine Runs.run_invariant (P := Workers.Tracked (Step hash) (Barred hash id keyHash n))
    (fun _ a hs => tracked_exec ?_ ?_ ?_ a hs) h actions
  · exact fun shared phases r hbarred => hbarred.arrive r
  · exact fun shared phases i outcome r p e p' hbarred hp hwaits hmove => hbarred.move hp hwaits hmove
  · exact fun shared phases a hbarred => hbarred.outside a

end

/-- The key is revoked, or somebody was told that it is. -/
def Shared.Ended (s : Shared) (id : Uuid) : Prop :=
  s.IsRevoked id ∨ ∃ i, s.2.replies.lookup i = some (.ok (.revoked id)) ∨
    ∃ new apiKey, s.2.replies.lookup i = some (.ok (.rotated ⟨new, apiKey, id⟩))

theorem Sound.revoked {hash : String → String} {s : Shared} {phases : List (Request × Stage)} {id : Uuid}
    (h : Sound hash s phases) (hended : s.Ended id) : s.IsRevoked id := by
  rcases hended with hrevoked | ⟨i, hreply | ⟨new, apiKey, hreply⟩⟩
  · exact hrevoked
  · exact h.told i _ hreply
  · exact h.told i _ hreply

/-- **A revoked key stays out**: from a state on in which it is revoked, or in which a caller was told that
it was revoked or replaced, no request that comes later enters a route with it, in any continuation; one
that presents it enters no route with any key. -/
theorem revoked_keys_stay_out (cfg : MerchantSessions.Config) (hash : String → String)
    (before after : List Action) {id : Uuid}
    (hended : (run cfg hash initial before).shared.Ended id) :
    let s := (run cfg hash initial before).shared
    let s' := (run cfg hash (run cfg hash initial before) after).shared
    (∀ i merchantId, s.2.requests.length ≤ i →
      s'.2.entered.lookup i ≠ some ⟨merchantId, .apiKey id⟩) ∧
    ∀ i r raw key, s.2.requests.length ≤ i → s'.2.requests[i]? = some r →
      r.call.credential = some raw → s.2.table.keys.lookup id = some key → key.keyHash = hash raw →
      ∀ merchantId id', s'.2.entered.lookup i ≠ some ⟨merchantId, .apiKey id'⟩ := by
  intro s s'
  obtain ⟨phases, hin, hsound⟩ := tracked_run cfg (tracked_initial hash) before
  obtain ⟨key, hkey, hstatus⟩ := hsound.revoked hended
  have hlength : s.2.requests.length = phases.length := by
    rw [hsound.requests, List.length_map]
  have hbarred : Barred hash id key.keyHash s.2.requests.length s phases :=
    { sound := hsound
      revoked := ⟨key, hkey, hstatus, rfl⟩
      without := fun j r p hj hp => by
        have hlt := (List.getElem?_eq_some_iff.mp hp).1
        omega
      unserved := fun j context hj hcontext => by
        obtain ⟨r, hr, -⟩ := hsound.entered j context hcontext
        exact absurd (List.getElem?_eq_some_iff.mp hr).1 (Nat.not_lt.mpr hj) }
  obtain ⟨phases', -, hbarred'⟩ := barred_run cfg ⟨phases, hin, hbarred⟩ after
  have hout : ∀ i merchantId, s.2.requests.length ≤ i →
      s'.2.entered.lookup i ≠ some ⟨merchantId, .apiKey id⟩ :=
    fun i merchantId hi hentered => hbarred'.unserved i _ hi hentered rfl
  refine ⟨hout, fun i r raw key' hi hr hraw hkey' hhash merchantId id' hentered => ?_⟩
  obtain rfl := Option.some.inj (hkey.symm.trans hkey')
  obtain ⟨r', hr', raw', other, hraw', hother, hhash', -⟩ := hbarred'.sound.entered i _ hentered
  obtain rfl := Option.some.inj (hr.symm.trans hr')
  obtain rfl := Option.some.inj (hraw.symm.trans hraw')
  -- no other row has its hash
  obtain ⟨row, hrow, -, hsame⟩ := hbarred'.revoked
  obtain rfl := hbarred'.sound.table.hashes id' id other row hother hrow
    (hhash'.trans (hhash.symm.trans hsame.symm))
  exact hout i merchantId hi hentered

/-! ## A key that is used, deleted and used again -/

open MerchantSessions (mockConfig mockToken mockWallet mockCompletion)
open ApiKeys (mockHash mockRaw)

/-- A request goes on for some steps. -/
def proceed (worker steps : ℕ) : List Action := List.replicate steps (.work worker (.served 0))

def mockSession : Option String := some ("Bearer " ++ mockToken)

def readCharges : Request := .other (some ("Bearer " ++ mockRaw)) ["charges:read"]

/-- The wallet signs in, a key is made in the session, used, and deleted in the session. -/
def madeAndDeleted : List Action :=
  [.createMerchant 5 ⟨"Shop", mockWallet, .active⟩,
    .request (.session (.challenge mockWallet 1 "nonce"))] ++ proceed 0 3 ++
  [.request (.session (.complete mockCompletion))] ++ proceed 1 8 ++
  [.request (.create mockSession (some (.string "Till")) (some [.string "charges:read"])
    ⟨7, mockRaw⟩)] ++ proceed 2 7 ++
  [.request readCharges] ++ proceed 3 7 ++ [.request (.delete mockSession 7)] ++ proceed 4 7

def readAgain : List Action := .request readCharges :: proceed 5 7

theorem revoked_keys_stay_out_deleted :
    (run mockConfig mockHash initial madeAndDeleted).shared.2.entered.lookup 3 =
      some ⟨5, .apiKey 7⟩ ∧
    (run mockConfig mockHash initial madeAndDeleted).shared.2.replies.lookup 4 =
      some (.ok (.revoked 7)) ∧
    (run mockConfig mockHash (run mockConfig mockHash initial madeAndDeleted)
      readAgain).shared.2.entered.lookup 5 ≠ some ⟨5, .apiKey 7⟩ := by
  have htold : (run mockConfig mockHash initial madeAndDeleted).shared.2.replies.lookup 4 =
      some (.ok (.revoked 7)) := by decide +kernel
  have hcount : (run mockConfig mockHash initial madeAndDeleted).shared.2.requests.length ≤ 5 := by
    decide +kernel
  refine ⟨by decide +kernel, htold, ?_⟩
  exact (revoked_keys_stay_out mockConfig mockHash madeAndDeleted readAgain
    (.inr ⟨4, .inl htold⟩)).1 5 5 hcount

end Paymap.Api.Credentials
