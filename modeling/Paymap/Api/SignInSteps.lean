import Paymap.Api.SignIns

set_option autoImplicit false

/-! # Signing in, step by step

Each move of a call keeps the tables sound (`Sound.perform`), and so does everything else that happens
(`sound_exec`). It follows, for every run, that a session goes back to a challenge of its own that its
wallet has signed, and that nobody is served as a merchant without one.
-/

namespace Paymap.Api.MerchantSessions

open Relayer (Time Uuid)

section

variable {cfg : Config} {s : Shared} {phases : List (Call × Stage)} {i : ℕ} {c : Call}
  {p p' : Stage} {outcome : Outcome}

/-! ## The moves of a sign-in -/

/-- A challenge that was read is the one that is stored. -/
theorem Sound.check (h : Sound cfg s phases) {k : Completion} {now : Time}
    {challenge : MerchantAuthChallenge} (hp : phases[i]? = some (.complete k, p))
    (hcompletes : cfg.Completes k challenge now)
    (hanswer : (perform i outcome (.findChallenge k.challengeId) s).1 = some (some challenge)) :
    Sound cfg s (phases.set i (.complete k, .checked now challenge)) := by
  have hlookup : s.tables.challenges.lookup k.challengeId = some challenge := by
    cases outcome with
    | served => exact Option.some.inj hanswer
    | failed => cases hanswer
    | unanswered => cases hanswer
  refine h.same hp fun k' hk => ?_
  cases hk
  exact ⟨⟨challenge, hlookup, challenge.becomes_refl⟩, hcompletes⟩

/-- A transaction is begun that has done nothing. -/
theorem Sound.begin (h : Sound cfg s phases) (hp : phases[i]? = some (c, p))
    (hanswer : (perform i outcome .beginTransaction s).1 = some ())
    (hfits : Stage.Fits cfg (s.put i .empty) i c p') :
    Sound cfg (perform i outcome .beginTransaction s).2 (phases.set i (c, p')) := by
  cases outcome with
  | served =>
      refine h.put hp (h.exclusive.insert_of_subset fun row hrow => ?_)
        (Transaction.admitted_empty s.tables) hfits
      cases hrow
  | failed => cases hanswer
  | unanswered => cases hanswer

theorem leads_put (s : Shared) (i : ℕ) (tx : Transaction) : s.Leads (s.put i tx) :=
  .of_tables_eq rfl (fun _ _ hc => hc) rfl

/-- The challenge is consumed, as nobody else is consuming it. -/
theorem Sound.consume (h : Sound cfg s phases) {k : Completion} {now : Time}
    {challenge : MerchantAuthChallenge} (hp : phases[i]? = some (.complete k, .begun now challenge))
    (hwaits : s.waits i (.consumeChallenge k.challengeId now) = false)
    (hanswer : (perform i outcome (.consumeChallenge k.challengeId now) s).1 = some 1) :
    Sound cfg (perform i outcome (.consumeChallenge k.challengeId now) s).2
      (phases.set i (.complete k, .consumed now challenge)) := by
  obtain ⟨tx, tx', htx, hf, hdone⟩ := Shared.layer.run_of_answer hanswer
  obtain ⟨hcompleting, hdoing⟩ := h.fits i _ _ hp k rfl
  obtain rfl := hdoing tx htx
  have hconsume := Option.some.inj hf
  unfold Transaction.consume at hconsume
  split_ifs at hconsume with hone
  · obtain rfl := (Prod.mk.inj hconsume).2
    -- the row is neither used nor over
    have hrow : ∃ row, s.tables.challenges.lookup k.challengeId = some row ∧ row.usedAt = none ∧
        now < row.expiresAt := by
      have hview : s.tables.consumable k.challengeId now = 1 := hone
      unfold Tables.consumable at hview
      cases hlookup : s.tables.challenges.lookup k.challengeId with
      | none => simp [hlookup] at hview
      | some row =>
          rw [hlookup] at hview
          dsimp only at hview
          split_ifs at hview with hcond
          exact ⟨row, rfl, hcond⟩
    rw [show (perform i outcome (.consumeChallenge k.challengeId now) s).2 = _ from hdone]
    refine h.write hp htx hwaits (fun row hrow => ?_) ⟨?_, nofun, nofun, nofun⟩ fun k' hk => ?_
    · left
      simpa [Transaction.rows, Transaction.empty, Shared.wanted] using hrow
    · rintro id now' ⟨⟩
      exact hrow
    · cases hk
      exact ⟨hcompleting.mono (leads_put s i _), doing_put s i _⟩
  · cases (Prod.mk.inj hconsume).1

/-- The merchant of the wallet is looked up. -/
theorem Sound.name (h : Sound cfg s phases) {k : Completion} {now : Time}
    {challenge : MerchantAuthChallenge} {merchant : Option (Uuid × Merchant)}
    (hp : phases[i]? = some (.complete k, .consumed now challenge))
    (hanswer : (perform i outcome (.findMerchantByWallet k.signerAddress) s).1 = some merchant) :
    Sound cfg (perform i outcome (.findMerchantByWallet k.signerAddress) s).2
      (phases.set i (.complete k, .named now challenge merchant)) := by
  obtain ⟨tx, tx', htx, hf, hdone⟩ := Shared.layer.run_of_answer hanswer
  obtain ⟨hcompleting, hdoing⟩ := h.fits i _ _ hp k rfl
  obtain ⟨hfound, rfl⟩ := Prod.mk.inj (Option.some.inj hf)
  rw [show (perform i outcome (.findMerchantByWallet k.signerAddress) s).2 = _ from hdone]
  refine h.keep hp htx fun k' hk => ?_
  cases hk
  refine ⟨hcompleting.mono (leads_put s i _), ?_, fun row hrow => ?_⟩
  · exact hdoing tx htx ▸ doing_put s i tx
  · subst hrow
    obtain rfl := hdoing tx htx
    have hmerchants : (Transaction.apply ⟨some (k.challengeId, now), none, none, none⟩
        s.tables).merchants = s.tables.merchants := by
      show (s.tables.consume k.challengeId now).merchants = _
      unfold Tables.consume
      cases s.tables.challenges.lookup k.challengeId <;> rfl
    obtain ⟨hlookup, hwallet⟩ := Tables.of_merchantOf_some hfound
    rw [hmerchants] at hlookup
    exact ⟨row.2, hlookup, hwallet⟩

/-- The session is one that nobody has stored or is making. -/
theorem Sound.open (h : Sound cfg s phases) {k : Completion} {now : Time}
    {challenge : MerchantAuthChallenge} {merchant : Option (Uuid × Merchant)}
    (hp : phases[i]? = some (.complete k, .named now challenge merchant))
    (hwaits : s.waits i
      (.createSession k.sessionId (cfg.newSession k (merchant.map Prod.fst) now)) = false)
    (hanswer : (perform i outcome
      (.createSession k.sessionId (cfg.newSession k (merchant.map Prod.fst) now)) s).1 = some ()) :
    Sound cfg (perform i outcome
      (.createSession k.sessionId (cfg.newSession k (merchant.map Prod.fst) now)) s).2
      (phases.set i (.complete k, .opened now challenge merchant)) := by
  obtain ⟨tx, tx', htx, hf, hdone⟩ := Shared.layer.run_of_answer hanswer
  obtain ⟨hcompleting, hdoing, howner⟩ := h.fits i _ _ hp k rfl
  obtain rfl := hdoing tx htx
  have hadmitted := h.admitted i _ htx
  have hsessions : (Transaction.apply ⟨some (k.challengeId, now), none, none, none⟩
      s.tables).sessions = s.tables.sessions := by
    show (s.tables.consume k.challengeId now).sessions = _
    unfold Tables.consume
    cases s.tables.challenges.lookup k.challengeId <;> rfl
  unfold Transaction.createSession at hf
  split_ifs at hf with htaken
  rw [not_or] at htaken
  obtain rfl := (Prod.mk.inj (Option.some.inj hf)).2
  have hfresh : s.tables.sessions.lookup k.sessionId = none := by
    rw [hsessions] at htaken
    exact Option.not_isSome_iff_eq_none.mp htaken.1
  have htoken : ¬ s.tables.HasToken (cfg.sessionHash k.token) := by
    rintro ⟨id, session, hlookup, hhash⟩
    exact htaken.2 (Tables.hasToken_iff.mpr ⟨id, session, hsessions ▸ hlookup, hhash⟩)
  rw [show (perform i outcome (.createSession k.sessionId _) s).2 = _ from hdone]
  refine h.write hp htx hwaits (fun row hrow => ?_) ⟨hadmitted.consumed, ?_, nofun, nofun⟩
    fun k' hk => ?_
  · simp only [Transaction.rows, Option.toList_some, List.map_cons, List.map_nil,
      List.flatMap_cons, List.flatMap_nil, Option.toList_none, List.append_nil, List.cons_append,
      List.nil_append, List.mem_cons, List.not_mem_nil, or_false] at hrow
    rcases hrow with rfl | rfl | rfl
    · exact .inr (by simp [Transaction.rows])
    · exact .inl (by simp [Shared.wanted])
    · exact .inl (by simp [Shared.wanted])
  · rintro id session ⟨⟩
    refine ⟨hfresh, htoken, fun merchantId hmerchant => ?_⟩
    obtain ⟨row, hrow, rfl⟩ := Option.map_eq_some_iff.mp hmerchant
    exact howner row hrow
  · cases hk
    exact ⟨hcompleting.mono (leads_put s i _), doing_put s i _⟩

/-- The transaction of the call ends, and the call is told so or not: what a commit makes of the state is
sound, and so is its loss. -/
theorem Sound.commit (h : Sound cfg s phases) (hp : phases[i]? = some (c, p))
    (hcommit : ∀ tx, s.transactions.lookup i = some tx →
      Sound cfg (s.commit i tx) phases ∧ Stage.Fits cfg (s.commit i tx) i c p')
    (hlost : (perform i outcome .commit s).1 = none → ∀ s', Stage.Fits cfg s' i c p') :
    Sound cfg (perform i outcome .commit s).2 (phases.set i (c, p')) := by
  rcases Shared.layer.commit_cases (Shared.commit i) s i outcome with hgone | ⟨tx, htx, hdone⟩
  · rw [show (perform i outcome .commit s).2 = _ from congrArg Prod.snd hgone]
    exact (h.abort i).same hp (hlost (congrArg Prod.fst hgone) _)
  · rw [show (perform i outcome .commit s).2 = _ from hdone]
    obtain ⟨hsound, hfits⟩ := hcommit tx htx
    exact hsound.same hp hfits

/-! ## The moves of the other requests -/

/-- What a candidate was read from. -/
theorem of_mem_candidates {t : Tables} {tokenPrefix : String} {candidate : Candidate}
    (h : candidate ∈ t.candidates tokenPrefix) :
    t.sessions.lookup candidate.1 = some candidate.2.1 ∧
    candidate.2.2 = candidate.2.1.merchantId.bind fun merchantId =>
      (t.merchants.lookup merchantId).map fun merchant => (merchantId, merchant) := by
  obtain ⟨row, hrow, rfl⟩ := List.mem_map.mp h
  exact ⟨AList.mem_lookup_iff.mpr (List.mem_filter.mp hrow).1, rfl⟩

/-- The hash of a stored session is one that was computed from its token. -/
theorem Sound.tokenHash (h : Sound cfg s phases) {id : Uuid} {session : MerchantSession}
    (hlookup : s.tables.sessions.lookup id = some session) :
    ∃ token, session.tokenHash = cfg.sessionHash token := by
  obtain ⟨login, hlogin, hid⟩ := h.history.traced id session hlookup
  obtain ⟨k, _, made, usedAt, -, -, -, -, -, -, hmade, hbecomes⟩ := h.history.fits login hlogin
  rw [hid, hlookup] at hmade
  obtain rfl := Option.some.inj hmade
  exact ⟨k.token, hbecomes.tokenHash⟩

/-- A session with the bytes of the hash has the hash. -/
theorem Sound.matches (h : Sound cfg s phases) {raw : String} {candidate : Candidate}
    (hlookup : s.tables.sessions.lookup candidate.1 = some candidate.2.1)
    (hmatches : cfg.matches raw candidate = true) :
    candidate.2.1.tokenHash = cfg.sessionHash raw := by
  obtain ⟨token, htoken⟩ := h.tokenHash hlookup
  have hbytes := of_decide_eq_true hmatches
  rw [htoken] at hbytes ⊢
  unfold Config.sessionHash at *
  rw [bufferFromHex_hex, bufferFromHex_hex] at hbytes
  rw [hbytes]

/-- A session that was found is the one of the credential. -/
theorem Sound.authenticate (h : Sound cfg s phases) (hp : phases[i]? = some (c, p)) {raw : String}
    {candidates : List Candidate} {candidate : Candidate} (hraw : c.credential = some raw)
    (hfound : candidates.find? (cfg.matches raw) = some candidate)
    (hanswer : (perform i outcome (.findSessions (lookupPrefix raw)) s).1 = some candidates) :
    Sound cfg s (phases.set i (c, .authenticated candidate)) := by
  have hcandidates : s.tables.candidates (lookupPrefix raw) = candidates := by
    cases outcome with
    | served => exact Option.some.inj hanswer
    | failed => cases hanswer
    | unanswered => cases hanswer
  subst hcandidates
  obtain ⟨hlookup, hmerchant⟩ := of_mem_candidates (List.mem_of_find?_eq_some hfound)
  have hbound : ∀ merchantId, candidate.2.1.merchantId = some merchantId →
      s.tables.Owns merchantId candidate.2.1.walletAddress :=
    fun merchantId => h.proper.bound candidate.1 candidate.2.1 merchantId hlookup
  refine h.same hp ⟨⟨raw, hraw, h.matches hlookup (List.find?_some hfound)⟩,
    ⟨candidate.2.1, hlookup, candidate.2.1.becomes_refl⟩, fun merchant hrow => ?_, hbound⟩
  rw [hmerchant] at hrow
  obtain ⟨merchantId, hid, hrow⟩ := Option.bind_eq_some_iff.mp hrow
  obtain ⟨row, -, rfl⟩ := Option.map_eq_some_iff.mp hrow
  exact hbound merchantId hid

/-- Who is authenticated is served as the merchant of the wallet. -/
theorem Shared.Authenticated.servedAs {candidate : Candidate}
    (ha : s.Authenticated cfg c candidate) (hcall : s.calls[i]? = some c) {merchantId : Uuid}
    (howns : s.tables.Owns merchantId candidate.2.1.walletAddress) :
    s.ServedAs cfg i candidate.1 merchantId := by
  obtain ⟨raw, hraw, htoken⟩ := ha.token
  obtain ⟨row, hrow, hbecomes⟩ := ha.seen
  refine ⟨c, raw, row, hcall, hraw, hrow, hbecomes.tokenHash.trans htoken, ?_⟩
  rw [hbecomes.walletAddress]
  exact howns

theorem Sound.touch (h : Sound cfg s phases) (id : Uuid) (lastUsedAt : Time) (outcome : Outcome) :
    Sound cfg (perform i outcome (.touchSession id lastUsedAt) s).2 phases := by
  refine h.alone (fun t ht => ?_) outcome
  unfold Tables.touchSession at ht
  split_ifs at ht
  obtain rfl := Option.some.inj ht
  exact h.updateSession id (fun _ => ⟨rfl, fun _ hr => hr⟩) fun _ => rfl

theorem revoke_becomes (now : Time) (session : MerchantSession) :
    session.Becomes
      (if session.revokedAt.isSome then session else { session with revokedAt := some now }) := by
  split_ifs with hrevoked
  · exact session.becomes_refl
  · refine ⟨rfl, fun revokedAt hat => ?_⟩
    rw [hat] at hrevoked
    exact absurd rfl hrevoked

theorem Sound.revoke (h : Sound cfg s phases) (id : Uuid) (now : Time) (outcome : Outcome) :
    Sound cfg (perform i outcome (.revokeSession id now) s).2 phases := by
  refine h.alone (fun t ht => ?_) outcome
  obtain rfl := Option.some.inj ht
  refine h.updateSession id (revoke_becomes now) fun session => ?_
  split_ifs <;> rfl

/-- A session whose revocation is answered is revoked. -/
theorem revoked_of_answer {id : Uuid} {now : Time} {session : MerchantSession}
    (hlookup : s.tables.sessions.lookup id = some session)
    (hanswer : (perform i outcome (.revokeSession id now) s).1 = some ()) :
    ∃ row, (perform i outcome (.revokeSession id now) s).2.tables.sessions.lookup id = some row ∧
      row.revokedAt.isSome = true := by
  cases outcome with
  | failed => cases hanswer
  | unanswered => cases hanswer
  | served =>
      have hrow := Tables.lookup_updateSession s.tables id id fun session =>
        if session.revokedAt.isSome then session else { session with revokedAt := some now }
      rw [if_pos rfl, hlookup] at hrow
      refine ⟨_, hrow, ?_⟩
      dsimp only
      split_ifs with hrevoked
      · exact hrevoked
      · rfl

/-! ### Registrations -/

/-- The merchant of the wallet is there, or is made by nobody else. -/
theorem Sound.adopt (h : Sound cfg s phases) {generated : Uuid} {name : String}
    {candidate : Candidate} {merchant : Uuid × Merchant}
    (hp : phases[i]? = some (c, .registering candidate))
    (hwaits : s.waits i (.upsertMerchant generated name candidate.2.1.walletAddress) = false)
    (hanswer : (perform i outcome
      (.upsertMerchant generated name candidate.2.1.walletAddress) s).1 = some merchant) :
    Sound cfg (perform i outcome (.upsertMerchant generated name candidate.2.1.walletAddress) s).2
      (phases.set i (c, .adopted candidate merchant)) := by
  obtain ⟨tx, tx', htx, hf, hdone⟩ := Shared.layer.run_of_answer hanswer
  obtain ⟨ha, hdoing⟩ := h.fits i _ _ hp
  obtain rfl := hdoing tx htx
  rw [show (perform i outcome (.upsertMerchant generated name candidate.2.1.walletAddress) s).2 = _
    from hdone]
  unfold Transaction.upsertMerchant at hf
  cases hview : (Transaction.empty.apply s.tables).merchantOf candidate.2.1.walletAddress with
  | some found =>
      rw [hview] at hf
      obtain ⟨rfl, rfl⟩ := Prod.mk.inj (Option.some.inj hf)
      obtain ⟨hlookup, hwallet⟩ := Tables.of_merchantOf_some hview
      refine h.keep hp htx ⟨ha.mono (leads_put s i _), hwallet, fun tx' htx' => ?_⟩
      exact ⟨none, doing_put s i _ tx' htx', .inl ⟨found.2, hlookup, hwallet⟩⟩
  | none =>
      rw [hview] at hf
      dsimp only at hf
      split_ifs at hf with htaken
      obtain ⟨rfl, rfl⟩ := Prod.mk.inj (Option.some.inj hf)
      have hfresh : s.tables.merchants.lookup generated = none :=
        Option.not_isSome_iff_eq_none.mp htaken
      refine h.write hp htx hwaits (fun row hrow => ?_) ⟨nofun, nofun, ?_, nofun⟩
        ⟨ha.mono (leads_put s i _), rfl, fun tx' htx' => ?_⟩
      · left
        simpa [Transaction.rows, Transaction.empty, Shared.wanted] using hrow
      · rintro id row ⟨⟩
        exact ⟨hfresh, Tables.not_owns_of_merchantOf_none hview⟩
      · exact ⟨some _, doing_put s i _ tx' htx', .inr rfl⟩

/-- The session is to get the merchant of its wallet. -/
theorem Sound.assign (h : Sound cfg s phases) {candidate : Candidate} {merchant : Uuid × Merchant}
    (hp : phases[i]? = some (c, .adopted candidate merchant))
    (hwaits : s.waits i (.assignMerchant candidate.1 merchant.1) = false)
    (hanswer : (perform i outcome (.assignMerchant candidate.1 merchant.1) s).1 = some ()) :
    Sound cfg (perform i outcome (.assignMerchant candidate.1 merchant.1) s).2
      (phases.set i (c, .assigned candidate merchant)) := by
  obtain ⟨tx, tx', htx, hf, hdone⟩ := Shared.layer.run_of_answer hanswer
  obtain ⟨ha, hwallet, hdoing⟩ := h.fits i _ _ hp
  obtain ⟨registered, rfl, howner⟩ := hdoing tx htx
  have hadmitted := h.admitted i _ htx
  unfold Transaction.assignMerchant at hf
  split_ifs at hf
  obtain rfl := (Prod.mk.inj (Option.some.inj hf)).2
  rw [show (perform i outcome (.assignMerchant candidate.1 merchant.1) s).2 = _ from hdone]
  refine h.write hp htx hwaits (fun row hrow => ?_)
    ⟨nofun, nofun, hadmitted.registered, fun id merchantId hassigned => ?_⟩
    ⟨ha.mono (leads_put s i _), hwallet, fun tx' htx' => ?_⟩
  · have hsplit : row ∈ (⟨none, none, registered, none⟩ : Transaction).rows ∨
        row = .session candidate.1 := by
      simpa [Transaction.rows] using hrow
    rcases hsplit with hmem | rfl
    · exact .inr hmem
    · exact .inl (by simp [Shared.wanted])
  · cases hassigned
    obtain ⟨row, hrow, hbecomes⟩ := ha.seen
    refine ⟨row, hrow, ?_⟩
    rw [hbecomes.walletAddress]
    exact howner.imp_right fun hmine => ⟨merchant.2, hmine, hwallet⟩
  · exact ⟨registered, doing_put s i _ tx' htx', howner⟩

/-- A registration is committed, and the wallet has its merchant. -/
theorem Sound.stored (h : Sound cfg s phases) {candidate : Candidate} {merchant : Uuid × Merchant}
    (hp : phases[i]? = some (c, .assigned candidate merchant)) {tx : Transaction}
    (htx : s.transactions.lookup i = some tx) :
    Sound cfg (s.commit i tx) phases ∧
      Stage.Fits cfg (s.commit i tx) i c (.registered candidate merchant) := by
  obtain ⟨ha, hwallet, hdoing⟩ := h.fits i _ _ hp
  obtain ⟨registered, rfl, howner⟩ := hdoing tx htx
  have hw := ((h.admitted i _ htx).register h.proper).1
  have hleads : s.Leads (s.commit i ⟨none, none, registered, some (candidate.1, merchant.1)⟩) :=
    ⟨⟨_, hw⟩, fun _ _ hc => hc, fun _ hl => hl⟩
  refine ⟨h.store htx, ha.mono hleads, hwallet, ?_⟩
  rcases howner with howns | rfl
  · exact hleads.owns howns
  · refine ⟨merchant.2, ?_, hwallet⟩
    show (Transaction.assignTo _ candidate.1 merchant.1).merchants.lookup merchant.1 = _
    unfold Transaction.assignTo
    rw [Tables.merchants_updateSession]
    exact AList.lookup_insert _

/-- **A move of a call** that need not wait keeps everything sound. -/
theorem Sound.perform (h : Sound cfg s phases) (hp : phases[i]? = some (c, p)) {e : Effect}
    (hwaits : s.waits i e = false)
    (hmove : Move cfg c p e (perform i outcome e s).1 p') :
    Sound cfg (perform i outcome e s).2 (phases.set i (c, p')) := by
  have hcall := h.call hp
  generalize hanswer : (MerchantSessions.perform i outcome e s).1 = answer at hmove
  cases hmove with
  | now => exact h.same hp trivial
  | read reads =>
      rw [reads_same reads]
      exact h.same hp trivial
  | refuse =>
      refine (h.reply fun r hr => ?_).same hp trivial
      cases hr
  | issue walletAddress id nonce now =>
      refine (h.alone (fun t ht => ?_) outcome).same hp trivial
      unfold Tables.createChallenge at ht
      split_ifs at ht with htaken
      obtain rfl := Option.some.inj ht
      exact h.createChallenge hcall rfl (Option.not_isSome_iff_eq_none.mp htaken)
  | tellChallenge walletAddress id nonce message networkPassphrase expiresAt =>
      refine (h.reply fun r hr => ?_).same hp trivial
      obtain rfl := Except.ok.inj hr
      exact ⟨walletAddress, nonce, hcall⟩
  | unbegun =>
      cases outcome with
      | served => cases hanswer
      | failed => exact h.same hp trivial
      | unanswered => exact h.same hp trivial
  | fail fails => exact h.fail hp (hanswer ▸ fails)
  | rollback => exact (h.abort i).same hp trivial
  | check k now challenge completes =>
      rw [reads_same (show (Effect.findChallenge k.challengeId).Reads from trivial)]
      exact h.check hp completes hanswer
  | begin k now challenge =>
      refine h.begin hp hanswer fun k' hk => ?_
      cases hk
      exact ⟨(h.fits i _ _ hp k rfl).mono (leads_put s i _), doing_put s i _⟩
  | consume k now challenge => exact h.consume hp hwaits hanswer
  | name k now challenge merchant => exact h.name hp hanswer
  | «open» k now challenge merchant => exact h.open hp hwaits hanswer
  | signIn k now challenge merchant =>
      refine h.commit hp (fun tx htx => ?_) fun hnone => by rw [hanswer] at hnone; cases hnone
      obtain ⟨hcompleting, hdoing⟩ := h.fits i _ _ hp k rfl
      obtain rfl := hdoing tx htx
      obtain ⟨hsound, hlogin⟩ := h.signIn hcall hcompleting htx
      refine ⟨hsound, fun k' hk => ?_⟩
      cases hk
      exact hlogin
  | signInLost k now challenge merchant =>
      refine h.commit hp (fun tx htx => ?_) fun _ _ => trivial
      obtain ⟨hcompleting, hdoing⟩ := h.fits i _ _ hp k rfl
      obtain rfl := hdoing tx htx
      exact ⟨(h.signIn hcall hcompleting htx).1, trivial⟩
  | tellSession k now merchant =>
      refine (h.reply fun r hr => ?_).same hp trivial
      obtain rfl := Except.ok.inj hr
      exact ⟨k, hcall, rfl, h.fits i _ _ hp k rfl⟩
  | authenticate _ now raw candidates candidate credential found live =>
      rw [reads_same (show (Effect.findSessions (lookupPrefix raw)).Reads from trivial)]
      exact h.authenticate hp credential found hanswer
  | touch _ candidate now =>
      have hsound := h.touch (i := i) candidate.1 now outcome
      exact hsound.same hp (hsound.fits i _ _ hp)
  | enter header id session merchant =>
      have ha : s.Authenticated cfg _ (id, session, some merchant) := h.fits i _ _ hp
      exact (h.enter (ha.servedAs hcall (ha.owner merchant rfl))).same hp trivial
  | nowAgain header candidate time => exact h.same hp (h.fits i _ _ hp)
  | revoke header candidate now =>
      have hsound := h.revoke (i := i) candidate.1 now outcome
      have ha : Shared.Authenticated cfg _ _ candidate := hsound.fits i _ _ hp
      obtain ⟨row, hrow, -⟩ := (h.fits i _ _ hp : s.Authenticated cfg _ candidate).seen
      exact hsound.same hp ⟨ha, revoked_of_answer hrow hanswer⟩
  | revokeLost header candidate now =>
      exact (h.revoke (i := i) candidate.1 now outcome).same hp trivial
  | tellLoggedOut header candidate =>
      refine (h.reply fun r hr => ?_).same hp trivial
      obtain rfl := Except.ok.inj hr
      obtain ⟨ha, row, hrow, hrevoked⟩ := h.fits i _ _ hp
      obtain ⟨raw, hraw, htoken⟩ := ha.token
      obtain ⟨row', hrow', hbecomes⟩ := ha.seen
      obtain rfl := Option.some.inj (hrow.symm.trans hrow')
      exact ⟨_, raw, candidate.1, row, hcall, hraw, hrow, hbecomes.tokenHash.trans htoken, hrevoked⟩
  | find header generated name candidate merchantId merchant own =>
      rw [reads_same (show (Effect.findMerchant merchantId).Reads from trivial)]
      have ha : s.Authenticated cfg _ candidate := h.fits i _ _ hp
      have howns := ha.bound merchantId own
      refine h.same hp ⟨ha, ?_, howns⟩
      obtain ⟨row, hrow, hwallet⟩ := howns
      have hlookup : s.tables.merchants.lookup merchantId = some merchant := by
        cases outcome with
        | served => exact Option.some.inj hanswer
        | failed => cases hanswer
        | unanswered => cases hanswer
      obtain rfl := Option.some.inj (hrow.symm.trans hlookup)
      exact hwallet
  | register header generated name candidate =>
      have ha : s.Authenticated cfg _ candidate := h.fits i _ _ hp
      exact h.begin hp hanswer ⟨ha.mono (leads_put s i _), doing_put s i _⟩
  | adopt header generated name candidate merchant => exact h.adopt hp hwaits hanswer
  | assign header generated name candidate merchant => exact h.assign hp hwaits hanswer
  | store header generated name candidate merchant =>
      refine h.commit hp (fun tx htx => h.stored hp htx) fun hnone => ?_
      rw [hanswer] at hnone
      cases hnone
  | storeLost header generated name candidate merchant =>
      exact h.commit hp (fun tx htx => ⟨(h.stored hp htx).1, trivial⟩) fun _ _ => trivial
  | tellMerchant header generated name candidate merchant =>
      obtain ⟨ha, hwallet, howns⟩ := h.fits i _ _ hp
      refine (h.reply fun r hr => ?_).same hp trivial
      obtain rfl := Except.ok.inj hr
      exact ⟨candidate.1, ha.servedAs hcall howns⟩

/-! ## Everything else -/

theorem Sound.setStatus (h : Sound cfg s phases) (merchantId : Uuid) (status : MerchantStatus) :
    Sound cfg { s with tables := s.tables.setStatus merchantId status } phases := by
  unfold Tables.setStatus
  cases hlookup : s.tables.merchants.lookup merchantId with
  | none => exact h
  | some merchant =>
      have hfree : ∀ j tx, s.transactions.lookup j = some tx → ∀ row ∈ ([] : List Row),
          row ∉ tx.rows := fun _ _ _ row hrow => absurd hrow List.not_mem_nil
      refine h.merchant (fun before hbefore => ?_) (.inr (by rw [hlookup]; rfl)) hfree
        fun id' howns => ?_
      · obtain rfl := Option.some.inj (hlookup.symm.trans hbefore)
        exact rfl
      · exact h.proper.wallets id' merchantId _ howns ⟨merchant, hlookup, rfl⟩

theorem Sound.createMerchant (h : Sound cfg s phases) {id : Uuid} {merchant : Merchant}
    (hfree : ∀ j tx, s.transactions.lookup j = some tx →
      ∀ row ∈ [Row.merchant id, Row.wallet merchant.walletAddress], row ∉ tx.rows) :
    Sound cfg { s with tables := s.tables.createMerchant id merchant } phases := by
  unfold Tables.createMerchant
  split_ifs with htaken
  · exact h
  · rw [not_or] at htaken
    have hfresh : s.tables.merchants.lookup id = none := Option.not_isSome_iff_eq_none.mp htaken.1
    have hnobody := Tables.not_owns_of_merchantOf_none (Option.not_isSome_iff_eq_none.mp htaken.2)
    refine h.merchant (fun before hbefore => ?_) (.inl ⟨by simp, by simp⟩) hfree
      fun id' howns => absurd howns (hnobody id')
    rw [hfresh] at hbefore
    cases hbefore

theorem Sound.outside (h : Sound cfg s phases) (a : Action) :
    Sound cfg (outsideEffect s a) phases := by
  cases a with
  | call c => exact h
  | work worker outcome => exact h
  | abort worker => exact h.abort worker
  | tick ms =>
      exact h.change rfl (.refl [] s.tables)
        (fun j tx hj => ⟨hj, fun row hrow => absurd hrow List.not_mem_nil⟩) h.proper
        (fun _ hl => hl) { h.history with } rfl rfl
  | setStatus merchantId status => exact h.setStatus merchantId status
  | createMerchant id merchant =>
      unfold outsideEffect
      dsimp only
      split_ifs with hheld
      · exact h
      · refine h.createMerchant fun j tx hj row hrow hmem => hheld ?_
        refine List.any_eq_true.mpr ⟨tx, FinMap.mem_values.mpr ⟨j, hj⟩, ?_⟩
        exact List.any_eq_true.mpr ⟨row, hmem, decide_eq_true hrow⟩

/-- One more call, with no transaction. -/
theorem Sound.start (h : Sound cfg s phases) (c : Call) :
    Sound cfg { s with calls := s.calls ++ [c] } (phases ++ [(c, .idle)]) := by
  have hleads : s.Leads { s with calls := s.calls ++ [c] } := by
    refine .of_tables_eq rfl (fun j c' hc => ?_) rfl
    have hlt : j < s.calls.length := (List.getElem?_eq_some_iff.mp hc).1
    exact (List.getElem?_append_left hlt).trans hc
  refine ⟨?_, h.proper, ⟨fun id challenge hlookup => ?_, fun login hlogin => ?_,
    h.history.challenges, h.history.sessions, h.history.used, h.history.traced⟩, h.exclusive,
    h.admitted, fun j c' p hj => ?_, fun j context hj => (h.entered j context hj).mono hleads,
    fun j r hj => (h.told j r hj).mono hleads⟩
  · rw [List.map_append, ← h.calls]
    rfl
  · obtain ⟨j, walletAddress, nonce, issuedAt, hcall, hchallenge⟩ :=
      h.history.issued id challenge hlookup
    exact ⟨j, walletAddress, nonce, issuedAt, hleads.calls j _ hcall, hchallenge⟩
  · exact (h.history.fits login hlogin).mono hleads
  · rw [List.getElem?_append] at hj
    split_ifs at hj
    · exact Shared.fits_mono hleads (fun _ ht => ht) (h.fits j c' p hj)
    · have hlast := List.mem_singleton.mp (List.mem_of_getElem? hj)
      obtain ⟨rfl, rfl⟩ := Prod.mk.inj hlast
      trivial

end

/-! ## Runs -/

section

variable {cfg : Config} {s : System}

/-- What a state of a run is like. -/
abbrev Tracked (cfg : Config) (s : System) : Prop := Workers.Tracked (Step cfg) (Sound cfg) s

theorem exec_outside (a : Action) (hcall : ∀ c, a ≠ .call c)
    (hwork : ∀ worker outcome, a ≠ .work worker outcome) :
    exec cfg s a = s.outside fun shared => outsideEffect shared a := by
  cases a with
  | call c => exact absurd rfl (hcall c)
  | work worker outcome => exact absurd rfl (hwork worker outcome)
  | _ => rfl

/-- A call does nothing while it waits or when it is done. -/
theorem exec_work (worker : ℕ) (outcome : Outcome) :
    exec cfg s (.work worker outcome) = s ∨ ∃ e k, s.running[worker]? = some (.call e k) ∧
      s.shared.waits worker e = false ∧
      exec cfg s (.work worker outcome) = s.work (perform worker outcome) worker := by
  unfold exec
  dsimp only
  split
  · rename_i e k hw
    split_ifs with hwaits
    · exact .inl rfl
    · exact .inr ⟨e, k, hw, Bool.eq_false_of_not_eq_true hwaits, rfl⟩
  · exact .inl rfl

theorem sound_exec (a : Action) (h : Tracked cfg s) : Tracked cfg (exec cfg s a) := by
  by_cases hcall : ∃ c, a = .call c
  · obtain ⟨c, rfl⟩ := hcall
    obtain ⟨phases, hin, hsound⟩ := h
    have hcalled : Workers.Tracked (Step cfg)
        (fun shared phases' => shared = { s.shared with calls := s.shared.calls ++ [c] } ∧
          Sound cfg s.shared phases')
        (s.outside fun shared => { shared with calls := shared.calls ++ [c] }) :=
      ⟨phases, hin, rfl, hsound⟩
    exact hcalled.start_to (follows_serve c) fun phases' hcall => hcall.1 ▸ hcall.2.start c
  · by_cases hwork : ∃ worker outcome, a = .work worker outcome
    · obtain ⟨worker, outcome, rfl⟩ := hwork
      rcases exec_work (s := s) worker outcome with hsame | ⟨e, k, hw, hwaits, hdone⟩
      · rw [hsame]
        exact h
      · rw [hdone]
        refine h.work fun phases p e' k' p' hsound hp hw' hmove => ?_
        cases hw.symm.trans hw'
        obtain ⟨c, p⟩ := p
        obtain ⟨c', p'⟩ := p'
        obtain ⟨rfl, hmove⟩ := hmove
        exact hsound.perform hp hwaits hmove
    · rw [exec_outside a (fun c hc => hcall ⟨c, hc⟩) fun worker outcome hw =>
        hwork ⟨worker, outcome, hw⟩]
      exact h.outside fun phases _ hsound => hsound.outside a

theorem tracked_initial (cfg : Config) : Tracked cfg initial := by
  have hproper : Tables.Proper .empty :=
    { bound := fun id session merchantId hlookup => by cases hlookup
      wallets := fun id id' walletAddress howns => by
        obtain ⟨merchant, hlookup, -⟩ := howns
        cases hlookup
      tokens := fun id id' session session' hlookup => by cases hlookup }
  refine ⟨[], ⟨rfl, fun hp => by cases hp⟩, ?_⟩
  exact
    { calls := rfl
      proper := hproper
      history :=
        { issued := fun id challenge hlookup => by cases hlookup
          fits := fun login hlogin => by cases hlogin
          challenges := List.nodup_nil
          sessions := List.nodup_nil
          used := fun id challenge hlookup => by cases hlookup
          traced := fun id session hlookup => by cases hlookup }
      exclusive := Locks.exclusive_empty
      admitted := fun i tx hi => by cases hi
      fits := fun i c p hi => by cases hi
      entered := fun i context hi => by cases hi
      told := fun i r hi => by cases hi }

theorem tracked_run (h : Tracked cfg s) (actions : List Action) : Tracked cfg (run cfg s actions) :=
  Runs.run_invariant (fun _ a hs => sound_exec a hs) h actions

end

/-! ## Who has signed -/

namespace Shared

/-- The wallet of the session has signed the challenge of the login, which was issued for this wallet and
used in time. -/
def SignedIn (cfg : Config) (s : Shared) (login : Login) (session : MerchantSession) : Prop :=
  ∃ (k : Completion) (issuer : ℕ) (nonce : String) (issuedAt usedAt : Time),
    s.calls[issuer]? = some (.challenge session.walletAddress login.challengeId nonce) ∧
    s.calls[login.worker]? = some (.complete k) ∧ k.challengeId = login.challengeId ∧
    k.sessionId = login.sessionId ∧ k.signerAddress = session.walletAddress ∧
    cfg.signedMessageDigest k.message = cfg.signedMessageDigest
      (cfg.buildChallengeMessage (cfg.challengeMessage session.walletAddress nonce issuedAt)) ∧
    cfg.signatureValid session.walletAddress k.message k.signature = true ∧
    usedAt < issuedAt + challengeTtlMs ∧ session.expiresAt = usedAt + sessionTtlMs ∧
    session.tokenHash = cfg.sessionHash k.token

variable {cfg : Config} {s : Shared}

theorem History.signedIn (h : s.History cfg) {login : Login} (hlogin : login ∈ s.logins)
    {session : MerchantSession} (hlookup : s.tables.sessions.lookup login.sessionId = some session) :
    s.SignedIn cfg login session := by
  obtain ⟨k, challenge, made, usedAt, hcall, hchallengeId, hsessionId, hchallenge, -, hcompletes,
    hmade, hbecomes⟩ := h.fits login hlogin
  obtain rfl := Option.some.inj (hlookup.symm.trans hmade)
  obtain ⟨issuer, walletAddress, nonce, issuedAt, hissued, hrow⟩ :=
    h.issued login.challengeId challenge hchallenge
  rw [hrow] at hcompletes
  have hsigner : session.walletAddress = k.signerAddress := hbecomes.walletAddress
  have hwallet : walletAddress = session.walletAddress := by
    rw [hsigner]
    exact hcompletes.wallet
  subst hwallet
  refine ⟨k, issuer, nonce, issuedAt, usedAt, hissued, hcall, hchallengeId.symm, hsessionId.symm,
    hsigner.symm, ?_, hsigner ▸ hcompletes.signed, hcompletes.inTime, hbecomes.expiresAt,
    hbecomes.tokenHash⟩
  -- the hash of the row is the one of the message
  have hmessage : bufferFromHex (hex (cfg.signedMessageDigest (cfg.buildChallengeMessage
      (cfg.challengeMessage session.walletAddress nonce issuedAt))))
      = cfg.signedMessageDigest k.message := hcompletes.message
  rw [bufferFromHex_hex] at hmessage
  exact hmessage.symm

end Shared

/-- **Every session goes back to a signature**, in every run: it was made by one login, from a challenge
that was issued for its wallet, that the wallet has signed, and that is used for no other session; it lasts
for a day from then, and belongs to no merchant but the one of the wallet. Who is told a token has such a
session. -/
theorem sessions_go_back_to_signatures (cfg : Config) (actions : List Action) :
    let s := (run cfg initial actions).shared
    (∀ id session, s.tables.sessions.lookup id = some session →
      (∃! login, login ∈ s.logins ∧ login.sessionId = id) ∧
      (∀ login ∈ s.logins, login.sessionId = id → s.SignedIn cfg login session) ∧
      ∀ merchantId, session.merchantId = some merchantId →
        s.tables.Owns merchantId session.walletAddress) ∧
    (s.logins.map Login.challengeId).Nodup ∧
    (∀ id challenge, s.tables.challenges.lookup id = some challenge →
      (challenge.usedAt.isSome = true ↔ ∃ login ∈ s.logins, login.challengeId = id)) ∧
    (∀ id id' walletAddress, s.tables.Owns id walletAddress → s.tables.Owns id' walletAddress →
      id = id') ∧
    ∀ i sessionToken expiresAt profileRequired merchant,
      s.replies.lookup i = some (.ok (.session sessionToken expiresAt profileRequired merchant)) →
      ∃ login ∈ s.logins, login.worker = i ∧ ∃ session,
        s.tables.sessions.lookup login.sessionId = some session ∧
        session.tokenHash = cfg.sessionHash sessionToken := by
  intro s
  obtain ⟨phases, -, hsound⟩ := tracked_run (tracked_initial cfg) actions
  have hhistory : s.History cfg := hsound.history
  refine ⟨fun id session hlookup => ⟨?_, ?_, ?_⟩, hhistory.challenges,
    fun id challenge hlookup => ⟨hhistory.used id challenge hlookup, ?_⟩, hsound.proper.wallets,
    fun i sessionToken expiresAt profileRequired merchant hreply => ?_⟩
  · obtain ⟨login, hlogin, hid⟩ := hhistory.traced id session hlookup
    refine ⟨login, ⟨hlogin, hid⟩, fun login' hlogin' => ?_⟩
    exact List.inj_on_of_nodup_map hhistory.sessions hlogin'.1 hlogin (hlogin'.2.trans hid.symm)
  · rintro login hlogin rfl
    exact hhistory.signedIn hlogin hlookup
  · exact fun merchantId hmerchant => hsound.proper.bound id session merchantId hlookup hmerchant
  · rintro ⟨login, hlogin, rfl⟩
    obtain ⟨_, used, _, usedAt, -, -, -, hused, hat, -⟩ := hhistory.fits login hlogin
    obtain rfl := Option.some.inj (hlookup.symm.trans hused)
    rw [hat]
    rfl
  · obtain ⟨k, hcall, rfl, hlogin⟩ := hsound.told i _ hreply
    obtain ⟨k', _, session, _, hcall', -, -, -, -, -, hsession, hbecomes⟩ :=
      hhistory.fits _ hlogin
    cases hcall.symm.trans hcall'
    exact ⟨_, hlogin, rfl, session, hsession, hbecomes.tokenHash⟩

/-- **A request is served as a merchant only when the wallet of the merchant has signed in**: its credential
is the token of a session that goes back to a signature of that wallet. So is a registration. -/
theorem served_as_who_signed (cfg : Config) (actions : List Action) :
    let s := (run cfg initial actions).shared
    let Signed := fun (i : ℕ) (sessionId merchantId : Uuid) => ∃ c raw session login,
      s.calls[i]? = some c ∧ c.credential = some raw ∧
      s.tables.sessions.lookup sessionId = some session ∧
      session.tokenHash = cfg.sessionHash raw ∧ login ∈ s.logins ∧ login.sessionId = sessionId ∧
      s.SignedIn cfg login session ∧ s.tables.Owns merchantId session.walletAddress
    (∀ i context, s.entered.lookup i = some context →
      Signed i context.sessionId context.merchantId) ∧
    ∀ i merchantId name walletAddress,
      s.replies.lookup i = some (.ok (.merchant merchantId name walletAddress)) →
      ∃ sessionId, Signed i sessionId merchantId := by
  intro s Signed
  obtain ⟨phases, -, hsound⟩ := tracked_run (tracked_initial cfg) actions
  have hsigned : ∀ i sessionId merchantId, s.ServedAs cfg i sessionId merchantId →
      Signed i sessionId merchantId := by
    rintro i sessionId merchantId ⟨c, raw, session, hcall, hraw, hlookup, htoken, howns⟩
    obtain ⟨login, hlogin, rfl⟩ := hsound.history.traced sessionId session hlookup
    exact ⟨c, raw, session, login, hcall, hraw, hlookup, htoken, hlogin, rfl,
      hsound.history.signedIn hlogin hlookup, howns⟩
  refine ⟨fun i context hentered => hsigned i _ _ (hsound.entered i context hentered),
    fun i merchantId name walletAddress hreply => ?_⟩
  obtain ⟨sessionId, hserved⟩ := hsound.told i _ hreply
  exact ⟨sessionId, hsigned i sessionId merchantId hserved⟩

end Paymap.Api.MerchantSessions
