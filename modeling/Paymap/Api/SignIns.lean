import Paymap.Api.SessionTables

set_option autoImplicit false

/-! # Every session goes back to a signature

The invariant of the runs (`Sound`): each session was opened by a call that has consumed a challenge for
it, no challenge for two sessions, and the challenge was issued for the wallet whose signature the call has
brought (`History`); open transactions exclude each other on what they hold, and what each of them has done
can be committed; and what a call has read is still so, as far as rows do not change (`Stage.Fits`). So a
request is served as a merchant only when the wallet of that merchant has signed in.
-/

namespace Paymap.Api.MerchantSessions

open Relayer (Time Uuid)

/-! ## What there was -/

/-- The challenge was issued by a call, for the wallet of its message. -/
def Issued (cfg : Config) (calls : List Call) (id : Uuid) (challenge : MerchantAuthChallenge) : Prop :=
  ∃ (i : ℕ) (walletAddress nonce : String) (issuedAt : Time),
    calls[i]? = some (.challenge walletAddress id nonce) ∧
    challenge = { cfg.newChallenge (cfg.challengeMessage walletAddress nonce issuedAt) with
      usedAt := challenge.usedAt }

namespace Shared

/-- The call of a login has completed the challenge, and its session is the one that was made then. -/
def LoginFits (cfg : Config) (s : Shared) (login : Login) : Prop :=
  ∃ k challenge session usedAt,
    s.calls[login.worker]? = some (.complete k) ∧
    login.challengeId = k.challengeId ∧ login.sessionId = k.sessionId ∧
    s.tables.challenges.lookup login.challengeId = some challenge ∧
    challenge.usedAt = some usedAt ∧ cfg.Completes k { challenge with usedAt := none } usedAt ∧
    s.tables.sessions.lookup login.sessionId = some session ∧
    (cfg.newSession k none usedAt).Becomes session

structure History (cfg : Config) (s : Shared) : Prop where
  issued : ∀ id challenge, s.tables.challenges.lookup id = some challenge →
    Issued cfg s.calls id challenge
  fits : ∀ login ∈ s.logins, s.LoginFits cfg login
  challenges : (s.logins.map Login.challengeId).Nodup
  sessions : (s.logins.map Login.sessionId).Nodup
  used : ∀ id challenge, s.tables.challenges.lookup id = some challenge →
    challenge.usedAt.isSome = true → ∃ login ∈ s.logins, login.challengeId = id
  traced : ∀ id session, s.tables.sessions.lookup id = some session →
    ∃ login ∈ s.logins, login.sessionId = id

/-! ## What a call knows -/

/-- The challenge was read, and may be consumed unless somebody has done it. -/
structure Completing (cfg : Config) (s : Shared) (k : Completion) (now : Time)
    (challenge : MerchantAuthChallenge) : Prop where
  seen : ∃ row, s.tables.challenges.lookup k.challengeId = some row ∧ challenge.Becomes row
  completes : cfg.Completes k challenge now

/-- The credential of the call is the session, with this row. -/
structure Authenticated (cfg : Config) (s : Shared) (c : Call) (candidate : Candidate) : Prop where
  token : ∃ raw, c.credential = some raw ∧ candidate.2.1.tokenHash = cfg.sessionHash raw
  seen : ∃ row, s.tables.sessions.lookup candidate.1 = some row ∧ candidate.2.1.Becomes row
  owner : ∀ merchant, candidate.2.2 = some merchant →
    s.tables.Owns merchant.1 candidate.2.1.walletAddress
  bound : ∀ merchantId, candidate.2.1.merchantId = some merchantId →
    s.tables.Owns merchantId candidate.2.1.walletAddress

/-- The transaction of the call has done this, unless it is aborted. -/
def Doing (s : Shared) (i : ℕ) (tx : Transaction) : Prop :=
  ∀ tx', s.transactions.lookup i = some tx' → tx' = tx

end Shared

/-- The transaction of a sign-in when it is ready to be committed. -/
def Config.signInOf (cfg : Config) (k : Completion) (now : Time)
    (merchant : Option (Uuid × Merchant)) : Transaction :=
  ⟨some (k.challengeId, now), some (k.sessionId, cfg.newSession k (merchant.map Prod.fst) now),
    none, none⟩

def Stage.Fits (cfg : Config) (s : Shared) (i : ℕ) (c : Call) : Stage → Prop
  | .idle => True
  | .timed _ => True
  | .failing => True
  | .checked now challenge => ∀ k, c = .complete k → s.Completing cfg k now challenge
  | .begun now challenge =>
      ∀ k, c = .complete k → s.Completing cfg k now challenge ∧ s.Doing i .empty
  | .consumed now challenge =>
      ∀ k, c = .complete k → s.Completing cfg k now challenge ∧
        s.Doing i ⟨some (k.challengeId, now), none, none, none⟩
  | .named now challenge merchant =>
      ∀ k, c = .complete k → s.Completing cfg k now challenge ∧
        s.Doing i ⟨some (k.challengeId, now), none, none, none⟩ ∧
        ∀ row, merchant = some row → s.tables.Owns row.1 k.signerAddress
  | .opened now challenge merchant =>
      ∀ k, c = .complete k → s.Completing cfg k now challenge ∧
        s.Doing i (cfg.signInOf k now merchant)
  | .signedIn _ _ =>
      ∀ k, c = .complete k → ⟨i, k.challengeId, k.sessionId⟩ ∈ s.logins
  | .authenticated candidate => s.Authenticated cfg c candidate
  | .registering candidate => s.Authenticated cfg c candidate ∧ s.Doing i .empty
  | .adopted candidate merchant =>
      s.Authenticated cfg c candidate ∧
      merchant.2.walletAddress = candidate.2.1.walletAddress ∧
      ∀ tx, s.transactions.lookup i = some tx → ∃ registered, tx = ⟨none, none, registered, none⟩ ∧
        (s.tables.Owns merchant.1 candidate.2.1.walletAddress ∨ registered = some merchant)
  | .assigned candidate merchant =>
      s.Authenticated cfg c candidate ∧
      merchant.2.walletAddress = candidate.2.1.walletAddress ∧
      ∀ tx, s.transactions.lookup i = some tx →
        ∃ registered, tx = ⟨none, none, registered, some (candidate.1, merchant.1)⟩ ∧
          (s.tables.Owns merchant.1 candidate.2.1.walletAddress ∨ registered = some merchant)
  | .registered candidate merchant =>
      s.Authenticated cfg c candidate ∧
      merchant.2.walletAddress = candidate.2.1.walletAddress ∧
      s.tables.Owns merchant.1 candidate.2.1.walletAddress
  | .revoked candidate =>
      s.Authenticated cfg c candidate ∧ ∃ row, s.tables.sessions.lookup candidate.1 = some row ∧
        row.revokedAt.isSome = true

/-! ## What is told -/

namespace Shared

/-- The call has the session as its credential, of a wallet that owns the merchant. -/
def ServedAs (cfg : Config) (s : Shared) (i : ℕ) (sessionId merchantId : Uuid) : Prop :=
  ∃ c raw session, s.calls[i]? = some c ∧ c.credential = some raw ∧
    s.tables.sessions.lookup sessionId = some session ∧ session.tokenHash = cfg.sessionHash raw ∧
    s.tables.Owns merchantId session.walletAddress

def Told (cfg : Config) (s : Shared) (i : ℕ) : Response → Prop
  | .challenge challengeId _ _ _ => ∃ walletAddress nonce,
      s.calls[i]? = some (.challenge walletAddress challengeId nonce)
  | .session sessionToken _ _ _ => ∃ k, s.calls[i]? = some (.complete k) ∧ sessionToken = k.token ∧
      ⟨i, k.challengeId, k.sessionId⟩ ∈ s.logins
  | .merchant merchantId _ _ => ∃ sessionId, s.ServedAs cfg i sessionId merchantId
  | .loggedOut => ∃ c raw id session, s.calls[i]? = some c ∧ c.credential = some raw ∧
      s.tables.sessions.lookup id = some session ∧ session.tokenHash = cfg.sessionHash raw ∧
      session.revokedAt.isSome = true

end Shared

/-- What holds in every state of a run. -/
structure Sound (cfg : Config) (s : Shared) (phases : List (Call × Stage)) : Prop where
  calls : s.calls = phases.map Prod.fst
  proper : s.tables.Proper
  history : s.History cfg
  exclusive : Locks.Exclusive Transaction.rows s.transactions
  admitted : ∀ i tx, s.transactions.lookup i = some tx → tx.Admitted s.tables
  fits : ∀ i c p, phases[i]? = some (c, p) → Stage.Fits cfg s i c p
  entered : ∀ i context, s.entered.lookup i = some context →
    s.ServedAs cfg i context.sessionId context.merchantId
  told : ∀ i r, s.replies.lookup i = some (.ok r) → s.Told cfg i r

/-! ## What stays -/

/-- Nothing of it is lost. -/
structure Shared.Leads (s s' : Shared) : Prop where
  tables : ∃ written, s.tables.Writes written s'.tables
  calls : ∀ (i : ℕ) (c : Call), s.calls[i]? = some c → s'.calls[i]? = some c
  logins : ∀ login ∈ s.logins, login ∈ s'.logins

namespace Shared

variable {cfg : Config} {s s' s'' : Shared} {i : ℕ} {c : Call}

theorem Leads.of_tables_eq (htables : s'.tables = s.tables)
    (hcalls : ∀ (i : ℕ) (c : Call), s.calls[i]? = some c → s'.calls[i]? = some c)
    (hlogins : s'.logins = s.logins) : s.Leads s' where
  tables := ⟨[], htables ▸ .refl [] s.tables⟩
  calls := hcalls
  logins _ h := hlogins ▸ h

theorem Leads.trans (h : s.Leads s') (h' : s'.Leads s'') : s.Leads s'' where
  tables := by
    obtain ⟨written, hwrites⟩ := h.tables
    obtain ⟨written', hwrites'⟩ := h'.tables
    exact ⟨_, hwrites.trans hwrites'⟩
  calls i c hc := h'.calls i c (h.calls i c hc)
  logins login hlogin := h'.logins login (h.logins login hlogin)

theorem Leads.owns (h : s.Leads s') {id : Uuid} {walletAddress : String}
    (howns : s.tables.Owns id walletAddress) : s'.tables.Owns id walletAddress := by
  obtain ⟨written, hwrites⟩ := h.tables
  exact howns.mono hwrites

theorem Leads.challenge (h : s.Leads s') {id : Uuid} {challenge : MerchantAuthChallenge}
    (hlookup : s.tables.challenges.lookup id = some challenge) :
    ∃ row, s'.tables.challenges.lookup id = some row ∧ challenge.Becomes row := by
  obtain ⟨written, hwrites⟩ := h.tables
  exact hwrites.challenges id challenge hlookup

theorem Leads.session (h : s.Leads s') {id : Uuid} {session : MerchantSession}
    (hlookup : s.tables.sessions.lookup id = some session) :
    ∃ row, s'.tables.sessions.lookup id = some row ∧ session.Becomes row := by
  obtain ⟨written, hwrites⟩ := h.tables
  exact hwrites.sessions id session hlookup

theorem LoginFits.mono (h : s.Leads s') {login : Login} (hlogin : s.LoginFits cfg login) :
    s'.LoginFits cfg login := by
  obtain ⟨k, challenge, session, usedAt, hcall, hchallengeId, hsessionId, hchallenge, hused,
    hcompletes, hsession, hbecomes⟩ := hlogin
  obtain ⟨row, hrow, hrowBecomes⟩ := h.challenge hchallenge
  obtain ⟨row', hrow', hrowBecomes'⟩ := h.session hsession
  refine ⟨k, row, row', usedAt, h.calls _ _ hcall, hchallengeId, hsessionId, hrow,
    hrowBecomes.2 usedAt hused, ?_, hrow', hbecomes.trans hrowBecomes'⟩
  rw [hrowBecomes.1]
  exact hcompletes

theorem Completing.mono (h : s.Leads s') {k : Completion} {now : Time}
    {challenge : MerchantAuthChallenge} (hc : s.Completing cfg k now challenge) :
    s'.Completing cfg k now challenge where
  seen := by
    obtain ⟨row, hrow, hbecomes⟩ := hc.seen
    obtain ⟨row', hrow', hbecomes'⟩ := h.challenge hrow
    exact ⟨row', hrow', hbecomes.trans hbecomes'⟩
  completes := hc.completes

theorem Authenticated.mono (h : s.Leads s') {candidate : Candidate}
    (ha : s.Authenticated cfg c candidate) : s'.Authenticated cfg c candidate where
  token := ha.token
  seen := by
    obtain ⟨row, hrow, hbecomes⟩ := ha.seen
    obtain ⟨row', hrow', hbecomes'⟩ := h.session hrow
    exact ⟨row', hrow', hbecomes.trans hbecomes'⟩
  owner merchant hmerchant := h.owns (ha.owner merchant hmerchant)
  bound merchantId hmerchant := h.owns (ha.bound merchantId hmerchant)

theorem ServedAs.mono (h : s.Leads s') {sessionId merchantId : Uuid}
    (hserved : s.ServedAs cfg i sessionId merchantId) : s'.ServedAs cfg i sessionId merchantId := by
  obtain ⟨c, raw, session, hcall, hraw, hsession, htoken, howns⟩ := hserved
  obtain ⟨row, hrow, hbecomes⟩ := h.session hsession
  refine ⟨c, raw, row, h.calls i c hcall, hraw, hrow, hbecomes.tokenHash.trans htoken, ?_⟩
  rw [hbecomes.walletAddress]
  exact h.owns howns

theorem Told.mono (h : s.Leads s') {r : Response} (htold : s.Told cfg i r) : s'.Told cfg i r := by
  cases r with
  | challenge id message networkPassphrase expiresAt =>
      obtain ⟨walletAddress, nonce, hcall⟩ := htold
      exact ⟨walletAddress, nonce, h.calls i _ hcall⟩
  | session sessionToken expiresAt profileRequired merchant =>
      obtain ⟨k, hcall, htoken, hlogin⟩ := htold
      exact ⟨k, h.calls i _ hcall, htoken, h.logins _ hlogin⟩
  | merchant merchantId name walletAddress =>
      obtain ⟨sessionId, hserved⟩ := htold
      exact ⟨sessionId, hserved.mono h⟩
  | loggedOut =>
      obtain ⟨c, raw, id, session, hcall, hraw, hsession, htoken, hrevoked⟩ := htold
      obtain ⟨row, hrow, hbecomes⟩ := h.session hsession
      obtain ⟨revokedAt, hat⟩ := Option.isSome_iff_exists.mp hrevoked
      refine ⟨c, raw, id, row, h.calls i c hcall, hraw, hrow, hbecomes.tokenHash.trans htoken, ?_⟩
      rw [hbecomes.2 revokedAt hat]
      rfl

/-- A stage still fits when the transaction of its call is as it was, or aborted. -/
theorem fits_mono (h : s.Leads s')
    (htx : ∀ tx, s'.transactions.lookup i = some tx → s.transactions.lookup i = some tx) {p : Stage}
    (hp : Stage.Fits cfg s i c p) : Stage.Fits cfg s' i c p := by
  have hdoing : ∀ tx, s.Doing i tx → s'.Doing i tx := fun tx hd tx' htx' => hd tx' (htx tx' htx')
  cases p with
  | idle => trivial
  | timed now => trivial
  | failing => trivial
  | checked now challenge => exact fun k hk => (hp k hk).mono h
  | begun now challenge => exact fun k hk => ⟨(hp k hk).1.mono h, hdoing _ (hp k hk).2⟩
  | consumed now challenge => exact fun k hk => ⟨(hp k hk).1.mono h, hdoing _ (hp k hk).2⟩
  | named now challenge merchant =>
      intro k hk
      obtain ⟨hcompleting, hd, howner⟩ := hp k hk
      exact ⟨hcompleting.mono h, hdoing _ hd, fun row hrow => h.owns (howner row hrow)⟩
  | opened now challenge merchant => exact fun k hk => ⟨(hp k hk).1.mono h, hdoing _ (hp k hk).2⟩
  | signedIn now merchant => exact fun k hk => h.logins _ (hp k hk)
  | authenticated candidate => exact Authenticated.mono h hp
  | registering candidate => exact ⟨hp.1.mono h, hdoing _ hp.2⟩
  | adopted candidate merchant =>
      refine ⟨hp.1.mono h, hp.2.1, fun tx htx' => ?_⟩
      obtain ⟨registered, hd, howner⟩ := hp.2.2 tx (htx tx htx')
      exact ⟨registered, hd, howner.imp_left h.owns⟩
  | assigned candidate merchant =>
      refine ⟨hp.1.mono h, hp.2.1, fun tx htx' => ?_⟩
      obtain ⟨registered, hd, howner⟩ := hp.2.2 tx (htx tx htx')
      exact ⟨registered, hd, howner.imp_left h.owns⟩
  | registered candidate merchant => exact ⟨hp.1.mono h, hp.2.1, h.owns hp.2.2⟩
  | revoked candidate =>
      obtain ⟨row, hrow, hrevoked⟩ := hp.2
      obtain ⟨row', hrow', hbecomes⟩ := h.session hrow
      obtain ⟨revokedAt, hat⟩ := Option.isSome_iff_exists.mp hrevoked
      refine ⟨hp.1.mono h, row', hrow', ?_⟩
      rw [hbecomes.2 revokedAt hat]
      rfl

end Shared

/-! ## The ways a step changes the state -/

section

variable {cfg : Config} {s s' : Shared} {phases : List (Call × Stage)} {i : ℕ} {c : Call}
  {p p' : Stage}

/-- The tables change, and perhaps the logins; transactions only end. -/
theorem Sound.change (h : Sound cfg s phases) (hcalls : s'.calls = s.calls) {written : List Row}
    (hw : s.tables.Writes written s'.tables)
    (htx : ∀ j tx, s'.transactions.lookup j = some tx →
      s.transactions.lookup j = some tx ∧ ∀ row ∈ written, row ∉ tx.rows)
    (hproper : s'.tables.Proper) (hlogins : ∀ login ∈ s.logins, login ∈ s'.logins)
    (hhistory : s'.History cfg) (hentered : s'.entered = s.entered)
    (hreplies : s'.replies = s.replies) : Sound cfg s' phases := by
  have hleads : s.Leads s' := ⟨⟨written, hw⟩, fun j c hc => hcalls ▸ hc, hlogins⟩
  exact
    { calls := hcalls.trans h.calls
      proper := hproper
      history := hhistory
      exclusive := fun j k tx tx' hj hk => h.exclusive j k tx tx' (htx j tx hj).1 (htx k tx' hk).1
      admitted := fun j tx hj => (h.admitted j tx (htx j tx hj).1).of_writes hw (htx j tx hj).2
      fits := fun j c p hp =>
        Shared.fits_mono hleads (fun tx htx' => (htx j tx htx').1) (h.fits j c p hp)
      entered := fun j context hj => (h.entered j context (hentered ▸ hj)).mono hleads
      told := fun j r hj => (h.told j r (hreplies ▸ hj)).mono hleads }

theorem Sound.abort (h : Sound cfg s phases) (i : ℕ) : Sound cfg (s.abort i) phases := by
  refine h.change rfl (.refl [] s.tables) (fun j tx hj => ?_) h.proper (fun _ hlogin => hlogin) ?_ rfl
    rfl
  · exact ⟨(FinMap.of_lookup_erase hj).2, fun row hrow => absurd hrow List.not_mem_nil⟩
  · exact { h.history with }

/-- The call has moved, and nothing else. -/
theorem Sound.same (h : Sound cfg s phases) (hp : phases[i]? = some (c, p))
    (hfits : Stage.Fits cfg s i c p') : Sound cfg s (phases.set i (c, p')) :=
  { h with
    calls := h.calls.trans (Workers.map_fst_set hp p').symm
    fits := fun j c' q hq => by
      rcases Workers.getElem?_set_cases hq with ⟨rfl, hcp⟩ | ⟨-, hold⟩
      · obtain ⟨rfl, rfl⟩ := Prod.mk.inj hcp
        exact hfits
      · exact h.fits j c' q hold }

theorem doing_put (s : Shared) (i : ℕ) (tx : Transaction) : (s.put i tx).Doing i tx := by
  intro tx' htx'
  rw [Shared.layer.lookup_put, if_pos rfl] at htx'
  exact (Option.some.inj htx').symm

/-- The transaction of the call has changed. -/
theorem Sound.put (h : Sound cfg s phases) (hp : phases[i]? = some (c, p)) {tx : Transaction}
    (hexclusive : Locks.Exclusive Transaction.rows (s.put i tx).transactions)
    (hadmitted : tx.Admitted s.tables) (hfits : Stage.Fits cfg (s.put i tx) i c p') :
    Sound cfg (s.put i tx) (phases.set i (c, p')) where
  calls := h.calls.trans (Workers.map_fst_set hp p').symm
  proper := h.proper
  history := { h.history with }
  exclusive := hexclusive
  admitted j tx' hj := by
    rw [Shared.layer.lookup_put] at hj
    split_ifs at hj with hji
    · obtain rfl := Option.some.inj hj
      exact hadmitted
    · exact h.admitted j tx' hj
  fits j c' q hq := by
    rcases Workers.getElem?_set_cases hq with ⟨rfl, hcp⟩ | ⟨hji, hold⟩
    · obtain ⟨rfl, rfl⟩ := Prod.mk.inj hcp
      exact hfits
    · have hleads : s.Leads (s.put i tx) := .of_tables_eq rfl (fun _ _ hc => hc) rfl
      refine Shared.fits_mono hleads (fun tx' hj => ?_) (h.fits j c' q hold)
      rwa [Shared.layer.lookup_put, if_neg hji] at hj
  entered := h.entered
  told := h.told

/-- The history goes on when no challenge has been used and no session made. -/
theorem Shared.History.of_tables (h : s.History cfg) {t' : Tables} {written : List Row}
    (hw : s.tables.Writes written t')
    (hissued : ∀ id challenge, t'.challenges.lookup id = some challenge →
      Issued cfg s.calls id challenge ∧ (challenge.usedAt.isSome = true →
        ∃ before, s.tables.challenges.lookup id = some before ∧ before.usedAt.isSome = true))
    (hsessions : ∀ id session, t'.sessions.lookup id = some session →
      (s.tables.sessions.lookup id).isSome) : ({ s with tables := t' } : Shared).History cfg where
  issued id challenge hlookup := (hissued id challenge hlookup).1
  fits login hlogin := by
    have hleads : s.Leads { s with tables := t' } := ⟨⟨written, hw⟩, fun _ _ hc => hc, fun _ hl => hl⟩
    exact (h.fits login hlogin).mono hleads
  challenges := h.challenges
  sessions := h.sessions
  used id challenge hlookup hused := by
    obtain ⟨before, hbefore, hused'⟩ := (hissued id challenge hlookup).2 hused
    exact h.used id before hbefore hused'
  traced id session hlookup := by
    obtain ⟨before, hbefore⟩ := Option.isSome_iff_exists.mp (hsessions id session hlookup)
    exact h.traced id before hbefore

/-- The tables change, and no challenge is used and no session made. -/
theorem Sound.tables (h : Sound cfg s phases) {t' : Tables} {written : List Row}
    (hw : s.tables.Writes written t')
    (hfree : ∀ j tx, s.transactions.lookup j = some tx → ∀ row ∈ written, row ∉ tx.rows)
    (hproper : t'.Proper)
    (hissued : ∀ id challenge, t'.challenges.lookup id = some challenge →
      Issued cfg s.calls id challenge ∧ (challenge.usedAt.isSome = true →
        ∃ before, s.tables.challenges.lookup id = some before ∧ before.usedAt.isSome = true))
    (hsessions : ∀ id session, t'.sessions.lookup id = some session →
      (s.tables.sessions.lookup id).isSome) : Sound cfg { s with tables := t' } phases := by
  exact h.change rfl hw (fun j tx hj => ⟨hj, hfree j tx hj⟩) hproper (fun _ hl => hl)
    (h.history.of_tables hw hissued hsessions) rfl rfl

/-- The challenges are the ones that there were. -/
theorem Sound.issued_same (h : Sound cfg s phases) {t' : Tables}
    (hsame : t'.challenges = s.tables.challenges) (id : Uuid) (challenge : MerchantAuthChallenge)
    (hlookup : t'.challenges.lookup id = some challenge) :
    Issued cfg s.calls id challenge ∧ (challenge.usedAt.isSome = true →
      ∃ before, s.tables.challenges.lookup id = some before ∧ before.usedAt.isSome = true) := by
  rw [hsame] at hlookup
  exact ⟨h.history.issued id challenge hlookup, fun hused => ⟨challenge, hlookup, hused⟩⟩

/-- A session is changed that keeps its merchant. -/
theorem Sound.updateSession (h : Sound cfg s phases) (id : Uuid)
    {f : MerchantSession → MerchantSession} (hf : ∀ session : MerchantSession, session.Becomes (f session))
    (hmerchant : ∀ session, (f session).merchantId = session.merchantId) :
    Sound cfg { s with tables := s.tables.updateSession id f } phases := by
  refine h.tables (Tables.writes_updateSession [] id hf)
    (fun _ _ _ row hrow => absurd hrow List.not_mem_nil) ?_
    (h.issued_same (Tables.challenges_updateSession s.tables id f)) ?_
  · refine h.proper.updateSession hf fun session merchantId hlookup hm => ?_
    rw [hmerchant session] at hm
    exact h.proper.bound id session merchantId hlookup hm
  · intro id' session' hlookup
    rw [Tables.lookup_updateSession] at hlookup
    split_ifs at hlookup with hid
    · obtain ⟨session, hsession, -⟩ := Option.map_eq_some_iff.mp hlookup
      rw [hid, hsession]
      rfl
    · rw [hlookup]
      rfl

/-- A challenge is issued. -/
theorem Sound.createChallenge (h : Sound cfg s phases) {id : Uuid} {walletAddress nonce : String}
    {issuedAt : Time} {challenge : MerchantAuthChallenge}
    (hcall : s.calls[i]? = some (.challenge walletAddress id nonce))
    (hchallenge : challenge = cfg.newChallenge (cfg.challengeMessage walletAddress nonce issuedAt))
    (hfresh : s.tables.challenges.lookup id = none) :
    Sound cfg { s with tables := { s.tables with
      challenges := s.tables.challenges.insert id challenge } } phases := by
  have hw : s.tables.Writes [] { s.tables with
      challenges := s.tables.challenges.insert id challenge } := by
    refine Tables.writes_challenge (fun before hbefore => ?_) (.inr hfresh)
    rw [hfresh] at hbefore
    cases hbefore
  subst hchallenge
  refine h.tables hw (fun _ _ _ row hrow => absurd hrow List.not_mem_nil) (h.proper.challenges _) ?_
    ?_
  · intro id' challenge hlookup
    rw [FinMap.lookup_insert] at hlookup
    split_ifs at hlookup with hid
    · obtain rfl := Option.some.inj hlookup
      subst hid
      exact ⟨⟨i, walletAddress, nonce, issuedAt, hcall, rfl⟩, nofun⟩
    · exact ⟨h.history.issued id' challenge hlookup, fun hused => ⟨challenge, hlookup, hused⟩⟩
  · intro id' session hlookup
    exact Option.isSome_iff_exists.mpr ⟨session, hlookup⟩

/-- A merchant is added that nobody holds, or its status is changed. -/
theorem Sound.merchant (h : Sound cfg s phases) {id : Uuid} {merchant : Merchant}
    {written : List Row}
    (hbecomes : ∀ before, s.tables.merchants.lookup id = some before → before.Becomes merchant)
    (hwritten : (.merchant id ∈ written ∧ .wallet merchant.walletAddress ∈ written) ∨
      (s.tables.merchants.lookup id).isSome)
    (hfree : ∀ j tx, s.transactions.lookup j = some tx → ∀ row ∈ written, row ∉ tx.rows)
    (halone : ∀ id', s.tables.Owns id' merchant.walletAddress → id' = id) :
    Sound cfg { s with tables := { s.tables with
      merchants := s.tables.merchants.insert id merchant } } phases := by
  refine h.tables (Tables.writes_merchant hbecomes hwritten) hfree (h.proper.merchant hbecomes halone)
    (h.issued_same rfl) fun id' session hlookup => ?_
  exact Option.isSome_iff_exists.mpr ⟨session, hlookup⟩

/-! ### Commits -/

/-- A registration is committed. -/
theorem Sound.store (h : Sound cfg s phases) {registered : Option (Uuid × Merchant)}
    {sessionId merchantId : Uuid}
    (htx : s.transactions.lookup i = some ⟨none, none, registered, some (sessionId, merchantId)⟩) :
    Sound cfg (s.commit i ⟨none, none, registered, some (sessionId, merchantId)⟩) phases := by
  obtain ⟨hw, hproper⟩ := (h.admitted i _ htx).register h.proper
  have hchallenges : (Transaction.apply ⟨none, none, registered, some (sessionId, merchantId)⟩
      s.tables).challenges = s.tables.challenges := by
    cases registered with
    | none => exact Tables.challenges_updateSession s.tables sessionId _
    | some row => exact Tables.challenges_updateSession _ sessionId _
  refine (h.abort i).tables hw (fun j tx hj row hrow => ?_)
    hproper ((h.abort i).issued_same hchallenges) fun id session hlookup => ?_
  · obtain ⟨hji, hlookup⟩ := FinMap.of_lookup_erase hj
    exact h.exclusive i j _ tx htx hlookup (Ne.symm hji) row hrow
  · -- no session is new
    by_contra hnone
    have hfresh : Row.session id ∉ (⟨none, none, registered, some (sessionId, merchantId)⟩ :
        Transaction).rows := by
      intro hmem
      obtain ⟨session', hsession', -⟩ := (h.admitted i _ htx).assigned sessionId merchantId rfl
      have hid : id = sessionId := by
        cases registered <;> simpa [Transaction.rows] using hmem
      rw [hid] at hnone
      exact hnone (Option.isSome_iff_exists.mpr ⟨session', hsession'⟩)
    rw [hw.session id hfresh (Option.not_isSome_iff_eq_none.mp hnone)] at hlookup
    cases hlookup

/-- The tables after a sign-in. -/
theorem lookup_signIn {t : Tables} {id sessionId : Uuid} {now : Time} {session : MerchantSession}
    {challenge : MerchantAuthChallenge} (hlookup : t.challenges.lookup id = some challenge) :
    let t' := Transaction.apply ⟨some (id, now), some (sessionId, session), none, none⟩ t
    (∀ id', t'.challenges.lookup id'
      = if id' = id then some { challenge with usedAt := some now } else t.challenges.lookup id') ∧
    ∀ id', t'.sessions.lookup id'
      = if id' = sessionId then some session else t.sessions.lookup id' := by
  intro t'
  have hconsumed : t.consume id now = _ := Tables.consume_of_lookup hlookup
  have ht' : t' = { t.consume id now with
    sessions := (t.consume id now).sessions.insert sessionId session } := rfl
  rw [ht', hconsumed]
  exact ⟨fun id' => FinMap.lookup_insert _ _ _ _, fun id' => FinMap.lookup_insert _ _ _ _⟩

/-- A sign-in is committed: the challenge is used for the session, as none was before. -/
theorem Sound.signIn (h : Sound cfg s phases) {k : Completion} {now : Time}
    {challenge : MerchantAuthChallenge} {merchant : Option (Uuid × Merchant)}
    (hcall : s.calls[i]? = some (.complete k)) (hcompleting : s.Completing cfg k now challenge)
    (htx : s.transactions.lookup i = some (cfg.signInOf k now merchant)) :
    Sound cfg (s.commit i (cfg.signInOf k now merchant)) phases ∧
      ⟨i, k.challengeId, k.sessionId⟩ ∈ (s.commit i (cfg.signInOf k now merchant)).logins := by
  have hadmitted := h.admitted i _ htx
  obtain ⟨hw, hproper⟩ := hadmitted.signIn h.proper
  obtain ⟨row, hrow, hunused, -⟩ := hadmitted.consumed k.challengeId now rfl
  obtain ⟨hfresh, -, -⟩ := hadmitted.opened k.sessionId _ rfl
  obtain ⟨hchallenges, hsessions⟩ := @lookup_signIn s.tables k.challengeId k.sessionId now
    (cfg.newSession k (merchant.map Prod.fst) now) row hrow
  have hlogins : (s.commit i (cfg.signInOf k now merchant)).logins
      = s.logins ++ [⟨i, k.challengeId, k.sessionId⟩] := rfl
  have hold : ∀ login ∈ s.logins, login ∈ (s.commit i (cfg.signInOf k now merchant)).logins :=
    fun login hlogin => hlogins ▸ List.mem_append_left _ hlogin
  have hnew : ⟨i, k.challengeId, k.sessionId⟩
      ∈ (s.commit i (cfg.signInOf k now merchant)).logins :=
    hlogins ▸ List.mem_append_right _ (List.mem_singleton_self _)
  have hleads : s.Leads (s.commit i (cfg.signInOf k now merchant)) :=
    ⟨⟨_, hw⟩, fun _ _ hc => hc, hold⟩
  -- nobody has used the challenge, or made the session
  have hchallengeId : ∀ login ∈ s.logins, login.challengeId ≠ k.challengeId := by
    rintro login hlogin hid
    obtain ⟨_, used, _, usedAt, -, -, -, hused, husedAt, -⟩ := h.history.fits login hlogin
    rw [hid, hrow] at hused
    obtain rfl := Option.some.inj hused
    rw [hunused] at husedAt
    cases husedAt
  have hsessionId : ∀ login ∈ s.logins, login.sessionId ≠ k.sessionId := by
    rintro login hlogin hid
    obtain ⟨_, _, made, _, -, -, -, -, -, -, hmade, -⟩ := h.history.fits login hlogin
    rw [hid, hfresh] at hmade
    cases hmade
  have hcompletes : cfg.Completes k { row with usedAt := none } now := by
    obtain ⟨row', hrow', hbecomes⟩ := hcompleting.seen
    obtain rfl := Option.some.inj (hrow.symm.trans hrow')
    have hsame : ({ row with usedAt := none } : MerchantAuthChallenge) = challenge := by
      rw [hbecomes.1]
      exact congrArg (fun usedAt => { challenge with usedAt := usedAt })
        hcompleting.completes.unused.symm
    exact hsame ▸ hcompleting.completes
  refine ⟨h.change rfl hw (fun j tx hj => ?_) hproper hold ?_ rfl rfl, hnew⟩
  · obtain ⟨hji, hlookup⟩ := FinMap.of_lookup_erase hj
    refine ⟨hlookup, fun written hwritten => ?_⟩
    exact h.exclusive i j _ tx htx hlookup (Ne.symm hji) written hwritten
  · refine ⟨fun id challenge' hlookup => ?_, fun login hlogin => ?_, ?_, ?_,
      fun id challenge' hlookup hused => ?_, fun id session hlookup => ?_⟩
    · rw [show (s.commit i (cfg.signInOf k now merchant)).tables.challenges.lookup id = _
        from hchallenges id] at hlookup
      split_ifs at hlookup with hid
      · obtain rfl := Option.some.inj hlookup
        obtain ⟨j, walletAddress, nonce, issuedAt, hissued, hchallenge⟩ :=
          h.history.issued k.challengeId row hrow
        refine ⟨j, walletAddress, nonce, issuedAt, hid ▸ hissued, ?_⟩
        rw [hchallenge]
      · exact h.history.issued id challenge' hlookup
    · rw [hlogins] at hlogin
      rcases List.mem_append.mp hlogin with hlogin | hlogin
      · exact (h.history.fits login hlogin).mono hleads
      · obtain rfl := List.mem_singleton.mp hlogin
        refine ⟨k, { row with usedAt := some now }, _, now, hcall, rfl, rfl,
          (hchallenges _).trans (if_pos rfl), rfl, hcompletes, (hsessions _).trans (if_pos rfl), ?_⟩
        exact ⟨rfl, nofun⟩
    · rw [hlogins, List.map_append]
      refine List.nodup_append.mpr ⟨h.history.challenges, List.nodup_singleton _, ?_⟩
      rintro id hid _ hlast rfl
      obtain ⟨login, hlogin, rfl⟩ := List.mem_map.mp hid
      exact hchallengeId login hlogin (List.mem_singleton.mp hlast)
    · rw [hlogins, List.map_append]
      refine List.nodup_append.mpr ⟨h.history.sessions, List.nodup_singleton _, ?_⟩
      rintro id hid _ hlast rfl
      obtain ⟨login, hlogin, rfl⟩ := List.mem_map.mp hid
      exact hsessionId login hlogin (List.mem_singleton.mp hlast)
    · rw [show (s.commit i (cfg.signInOf k now merchant)).tables.challenges.lookup id = _
        from hchallenges id] at hlookup
      split_ifs at hlookup with hid
      · exact ⟨_, hnew, hid.symm⟩
      · obtain ⟨login, hlogin, heq⟩ := h.history.used id challenge' hlookup hused
        exact ⟨login, hold login hlogin, heq⟩
    · rw [show (s.commit i (cfg.signInOf k now merchant)).tables.sessions.lookup id = _
        from hsessions id] at hlookup
      split_ifs at hlookup with hid
      · exact ⟨_, hnew, hid.symm⟩
      · obtain ⟨login, hlogin, heq⟩ := h.history.traced id session hlookup
        exact ⟨login, hold login hlogin, heq⟩

/-! ## A step of a call -/

theorem Sound.call (h : Sound cfg s phases) (hp : phases[i]? = some (c, p)) :
    s.calls[i]? = some c := by
  rw [h.calls, List.getElem?_map, hp]
  rfl

theorem reads_same {e : Effect} (he : e.Reads) (i : ℕ) (outcome : Outcome) (s : Shared) :
    (perform i outcome e s).2 = s := by
  cases e with
  | findChallenge id => cases outcome <;> rfl
  | findSessions tokenPrefix => cases outcome <;> rfl
  | findMerchant id => cases outcome <;> rfl
  | enterWithApiKey raw => rfl
  | _ => exact he.elim

/-- A call is told the result. -/
theorem Sound.reply (h : Sound cfg s phases) {result : Except RouteError Response}
    (htold : ∀ r, result = .ok r → s.Told cfg i r) :
    Sound cfg { s with replies := s.replies.insert i result } phases := by
  have hleads : s.Leads { s with replies := s.replies.insert i result } :=
    .of_tables_eq rfl (fun _ _ hc => hc) rfl
  exact
    { calls := h.calls
      proper := h.proper
      history := { h.history with }
      exclusive := h.exclusive
      admitted := h.admitted
      fits := fun j c p hj => Shared.fits_mono hleads (fun _ ht => ht) (h.fits j c p hj)
      entered := h.entered
      told := fun j r hj => by
        rw [FinMap.lookup_insert] at hj
        split_ifs at hj with hji
        · exact hji ▸ (htold r (Option.some.inj hj)).mono hleads
        · exact (h.told j r hj).mono hleads }

/-- A call is served by a route. -/
theorem Sound.enter (h : Sound cfg s phases) {context : MerchantContext}
    (hserved : s.ServedAs cfg i context.sessionId context.merchantId) :
    Sound cfg { s with entered := s.entered.insert i context } phases := by
  have hleads : s.Leads { s with entered := s.entered.insert i context } :=
    .of_tables_eq rfl (fun _ _ hc => hc) rfl
  exact
    { calls := h.calls
      proper := h.proper
      history := { h.history with }
      exclusive := h.exclusive
      admitted := h.admitted
      fits := fun j c p hj => Shared.fits_mono hleads (fun _ ht => ht) (h.fits j c p hj)
      entered := fun j context' hj => by
        rw [FinMap.lookup_insert] at hj
        split_ifs at hj with hji
        · obtain rfl := Option.some.inj hj
          exact hji ▸ hserved
        · exact h.entered j context' hj
      told := h.told }

/-! ### Statements -/

/-- The transaction of the call does what it has waited for. -/
theorem Sound.write (h : Sound cfg s phases) (hp : phases[i]? = some (c, p)) {tx tx' : Transaction}
    {wanted : List Row} (htx : s.transactions.lookup i = some tx) (hfree : s.held i wanted = false)
    (hrows : ∀ row ∈ tx'.rows, row ∈ wanted ∨ row ∈ tx.rows) (hadmitted : tx'.Admitted s.tables)
    (hfits : Stage.Fits cfg (s.put i tx') i c p') :
    Sound cfg (s.put i tx') (phases.set i (c, p')) := by
  refine h.put hp (h.exclusive.insert hfree fun row hrow => ?_) hadmitted hfits
  exact (hrows row hrow).imp_right fun hmem => ⟨tx, htx, hmem⟩

/-- The transaction of the call has only read. -/
theorem Sound.keep (h : Sound cfg s phases) (hp : phases[i]? = some (c, p)) {tx : Transaction}
    (htx : s.transactions.lookup i = some tx) (hfits : Stage.Fits cfg (s.put i tx) i c p') :
    Sound cfg (s.put i tx) (phases.set i (c, p')) := by
  refine h.put hp (h.exclusive.insert_of_subset fun row hrow => ⟨tx, htx, hrow⟩) ?_ hfits
  exact h.admitted i tx htx

/-- A statement that fails leaves the tables as they are. -/
theorem Sound.fail (h : Sound cfg s phases) (hp : phases[i]? = some (c, p)) {e : Effect}
    {outcome : Outcome} (hfails : e.Fails (perform i outcome e s).1) :
    Sound cfg (perform i outcome e s).2 (phases.set i (c, .failing)) := by
  have hunrun : ∀ {α : Type} (f : Transaction → Option (α × Transaction)),
      (s.within i outcome f).1 = none →
      Sound cfg (s.within i outcome f).2 (phases.set i (c, .failing)) := by
    intro α f hnone
    rw [Shared.layer.within_none hnone]
    exact (h.abort i).same hp trivial
  cases e with
  | consumeChallenge id now =>
      rcases Shared.layer.within_cases s i (outcome.run fun tx => some (tx.consume s.tables id now))
        with hgone | ⟨tx, f, count, tx', htx, hrun, hf, hdone⟩
      · exact hunrun _ (congrArg Prod.fst hgone)
      · -- there was no such row, and nothing is written
        have hstate : perform i outcome (.consumeChallenge id now) s = (some count, s.put i tx') :=
          hdone
        rw [hstate] at hfails ⊢
        have hcount : count ≠ 1 := fun hone => hfails (congrArg some hone)
        have hsame : tx' = tx := by
          obtain rfl := Transactions.Fate.of_run_some hrun
          have hconsume := Option.some.inj hf
          unfold Transaction.consume at hconsume
          split_ifs at hconsume with hone
          · exact absurd (congrArg Prod.fst hconsume).symm hcount
          · exact (congrArg Prod.snd hconsume).symm
        rw [hsame]
        exact h.keep hp htx trivial
  | findMerchantByWallet walletAddress => exact hunrun _ hfails
  | createSession id session => exact hunrun _ hfails
  | upsertMerchant id name walletAddress => exact hunrun _ hfails
  | assignMerchant sessionId merchantId => exact hunrun _ hfails
  | _ => exact hfails.elim

/-- A statement outside any transaction, whatever becomes of it. -/
theorem Sound.alone (h : Sound cfg s phases) {f : Tables → Option Tables}
    (hf : ∀ t, f s.tables = some t → Sound cfg { s with tables := t } phases) (outcome : Outcome) :
    Sound cfg (s.alone outcome f).2 phases := by
  unfold Shared.alone
  cases hdone : f s.tables with
  | none => exact h
  | some t =>
      cases outcome with
      | failed => exact h
      | served => exact hf t hdone
      | unanswered => exact hf t hdone

end

end Paymap.Api.MerchantSessions
