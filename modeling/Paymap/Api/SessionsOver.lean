import Paymap.Api.SignInSteps

set_option autoImplicit false

/-! # A session that is over stays over

Once a session is revoked or has expired, no call that starts later is served with its token, whatever
the calls before it are still doing: such a call never gets past finding the row (`Shut`), since the row
never changes back and no other session has the token.
-/

namespace Paymap.Api.MerchantSessions

open Relayer (Time Uuid)
open Locks (Kept)

section

variable {cfg : Config} {s s' : Shared} {phases : List (Call × Stage)} {i : ℕ} {c : Call}
  {p p' : Stage} {outcome : Outcome}

/-! ## What every step keeps -/

/-- What an effect leaves as it is, besides the transactions. -/
structure Frame (s s' : Shared) (i : ℕ) (e : Effect) : Prop where
  sessions : Kept MerchantSession.Becomes s.tables.sessions s'.tables.sessions
  clock : s'.clock = s.clock
  entered : ∀ j, (j ≠ i ∨ ∀ context, e ≠ .enter context) →
    s'.entered.lookup j = s.entered.lookup j
  replies : ∀ j, (j ≠ i ∨ ∀ result, e ≠ .reply result) →
    s'.replies.lookup j = s.replies.lookup j

theorem kept_refl (t : Tables) : Kept MerchantSession.Becomes t.sessions t.sessions :=
  Kept.refl MerchantSession.becomes_refl _

/-- Only tables and transactions change. -/
theorem Frame.of_tables {e : Effect} {tables : Tables} {transactions : FinMap ℕ Transaction}
    {logins : List Login} (hkept : Kept MerchantSession.Becomes s.tables.sessions tables.sessions) :
    Frame s { s with tables := tables, transactions := transactions, logins := logins } i e :=
  ⟨hkept, rfl, fun _ _ => rfl, fun _ _ => rfl⟩

theorem frame_within {α : Type} (s : Shared) (i : ℕ) (e : Effect) (outcome : Outcome)
    (f : Transaction → Option (α × Transaction)) : Frame s (s.within i outcome f).2 i e := by
  obtain ⟨transactions, hdone⟩ := Shared.layer.exists_within s i (outcome.run f)
  rw [hdone]
  exact .of_tables (kept_refl s.tables)

theorem frame_alone (s : Shared) (i : ℕ) (e : Effect) (outcome : Outcome)
    {f : Tables → Option Tables}
    (hf : ∀ t, f s.tables = some t → Kept MerchantSession.Becomes s.tables.sessions t.sessions) :
    Frame s (s.alone outcome f).2 i e := by
  unfold Shared.alone
  cases hdone : f s.tables with
  | none => exact .of_tables (kept_refl s.tables)
  | some t =>
      cases outcome with
      | failed => exact .of_tables (kept_refl s.tables)
      | served => exact .of_tables (hf t hdone)
      | unanswered => exact .of_tables (hf t hdone)

/-- Committing makes no session another one. -/
theorem Sound.commit_kept (h : Sound cfg s phases) (hp : phases[i]? = some (c, p))
    {answer : Option Unit} (hmove : Move cfg c p .commit answer p') {tx : Transaction}
    (htx : s.transactions.lookup i = some tx) :
    Kept MerchantSession.Becomes s.tables.sessions (tx.apply s.tables).sessions := by
  have hadmitted := h.admitted i tx htx
  have hsignIn : ∀ k now challenge merchant,
      phases[i]? = some (.complete k, .opened now challenge merchant) →
      Kept MerchantSession.Becomes s.tables.sessions (tx.apply s.tables).sessions := by
    intro k now challenge merchant hopened
    obtain ⟨-, hdoing⟩ := h.fits i _ _ hopened k rfl
    obtain rfl := hdoing tx htx
    exact (hadmitted.signIn h.proper).1.sessions
  have hstore : ∀ c' candidate merchant, phases[i]? = some (c', .assigned candidate merchant) →
      Kept MerchantSession.Becomes s.tables.sessions (tx.apply s.tables).sessions := by
    intro c' candidate merchant hassigned
    obtain ⟨-, -, hdoing⟩ := h.fits i _ _ hassigned
    obtain ⟨registered, rfl, -⟩ := hdoing tx htx
    exact (hadmitted.register h.proper).1.sessions
  cases hmove with
  | read reads => exact reads.elim
  | fail fails => exact fails.elim
  | signIn k now challenge merchant => exact hsignIn k now challenge merchant hp
  | signInLost k now challenge merchant => exact hsignIn k now challenge merchant hp
  | store header generated name candidate merchant => exact hstore _ candidate merchant hp
  | storeLost header generated name candidate merchant => exact hstore _ candidate merchant hp

theorem Sound.frame (h : Sound cfg s phases) (hp : phases[i]? = some (c, p)) {e : Effect}
    (hmove : Move cfg c p e (MerchantSessions.perform i outcome e s).1 p') :
    Frame s (MerchantSessions.perform i outcome e s).2 i e := by
  have hsame : ∀ e, Frame s s i e := fun e => .of_tables (kept_refl s.tables)
  cases e with
  | now => exact hsame _
  | createChallenge id challenge =>
      refine frame_alone s i _ outcome fun t ht => ?_
      unfold Tables.createChallenge at ht
      split_ifs at ht
      obtain rfl := Option.some.inj ht
      exact kept_refl s.tables
  | findChallenge id => cases outcome <;> exact hsame _
  | beginTransaction =>
      cases outcome with
      | served => exact .of_tables (kept_refl s.tables)
      | failed => exact hsame _
      | unanswered => exact hsame _
  | consumeChallenge id now => exact frame_within s i _ outcome _
  | findMerchantByWallet walletAddress => exact frame_within s i _ outcome _
  | createSession id session => exact frame_within s i _ outcome _
  | upsertMerchant id name walletAddress => exact frame_within s i _ outcome _
  | assignMerchant sessionId merchantId => exact frame_within s i _ outcome _
  | commit =>
      rcases Shared.layer.commit_cases (Shared.commit i) s i outcome with hgone | ⟨tx, htx, hdone⟩
      · rw [show (MerchantSessions.perform i outcome .commit s).2 = _ from congrArg Prod.snd hgone]
        exact .of_tables (kept_refl s.tables)
      · rw [show (MerchantSessions.perform i outcome .commit s).2 = _ from hdone]
        exact .of_tables (h.commit_kept hp hmove htx)
  | rollback => exact .of_tables (kept_refl s.tables)
  | findSessions tokenPrefix => cases outcome <;> exact hsame _
  | touchSession id lastUsedAt =>
      refine frame_alone s i _ outcome fun t ht => ?_
      unfold Tables.touchSession at ht
      split_ifs at ht
      obtain rfl := Option.some.inj ht
      have hwrites : s.tables.Writes [] (s.tables.updateSession id fun session =>
          { session with lastUsedAt := some lastUsedAt }) :=
        Tables.writes_updateSession [] id fun _ => ⟨rfl, fun _ hr => hr⟩
      exact hwrites.sessions
  | findMerchant id => cases outcome <;> exact hsame _
  | revokeSession id now =>
      refine frame_alone s i _ outcome fun t ht => ?_
      obtain rfl := Option.some.inj ht
      exact (Tables.writes_updateSession [] id (revoke_becomes now)).sessions
  | enter context =>
      refine ⟨kept_refl s.tables, rfl, fun j hj => ?_, fun _ _ => rfl⟩
      rcases hj with hne | hnot
      · exact AList.lookup_insert_ne hne
      · exact absurd rfl (hnot context)
  | enterWithApiKey raw => exact hsame _
  | reply result =>
      refine ⟨kept_refl s.tables, rfl, fun _ _ => rfl, fun j hj => ?_⟩
      rcases hj with hne | hnot
      · exact AList.lookup_insert_ne hne
      · exact absurd rfl (hnot result)

/-! ## A call with the token of a session that is over -/

/-- It has not got past finding the row. -/
def Stage.Refused (since : Time) : Stage → Prop
  | .idle => True
  | .failing => True
  | .timed now => since ≤ now
  | _ => False

/-- The session of this token is revoked, or over since then. -/
def Tables.Finished (cfg : Config) (raw : String) (since : Time) (t : Tables) : Prop :=
  ∃ id session, t.sessions.lookup id = some session ∧ session.tokenHash = cfg.sessionHash raw ∧
    (session.revokedAt.isSome = true ∨ session.expiresAt ≤ since)

/-- The session is finished, and none of the calls from the `n`th on is served with its token. -/
structure Shut (cfg : Config) (raw : String) (n : ℕ) (since : Time) (s : Shared)
    (phases : List (Call × Stage)) : Prop where
  sound : Sound cfg s phases
  finished : s.tables.Finished cfg raw since
  clock : since ≤ s.clock
  refused : ∀ i c p, n ≤ i → phases[i]? = some (c, p) → c.credential = some raw → p.Refused since
  unserved : ∀ i c p, n ≤ i → phases[i]? = some (c, p) → c.credential = some raw →
    s.entered.lookup i = none ∧ ∀ r, s.replies.lookup i ≠ some (.ok r)

variable {raw : String} {n : ℕ} {since : Time}

theorem Tables.Finished.kept {t t' : Tables} (h : t.Finished cfg raw since)
    (hkept : Kept MerchantSession.Becomes t.sessions t'.sessions) : t'.Finished cfg raw since := by
  obtain ⟨id, session, hlookup, htoken, hover⟩ := h
  obtain ⟨row, hrow, hbecomes⟩ := hkept id session hlookup
  refine ⟨id, row, hrow, hbecomes.tokenHash.trans htoken, ?_⟩
  rcases hover with hrevoked | hexpired
  · obtain ⟨revokedAt, hat⟩ := Option.isSome_iff_exists.mp hrevoked
    left
    rw [hbecomes.2 revokedAt hat]
    rfl
  · right
    rw [hbecomes.expiresAt]
    exact hexpired

/-- The row that is found for the token is the one of the session. -/
theorem Shut.not_live (h : Shut cfg raw n since s phases) {now : Time} (hsince : since ≤ now)
    {candidates : List Candidate} {candidate : Candidate}
    (hanswer : (perform i outcome (.findSessions (lookupPrefix raw)) s).1 = some candidates)
    (hfound : candidates.find? (cfg.matches raw) = some candidate) : ¬ candidate.2.1.Live now := by
  intro hlive
  have hcandidates : s.tables.candidates (lookupPrefix raw) = candidates := by
    cases outcome with
    | served => exact Option.some.inj hanswer
    | failed => cases hanswer
    | unanswered => cases hanswer
  subst hcandidates
  obtain ⟨hlookup, -⟩ := of_mem_candidates (List.mem_of_find?_eq_some hfound)
  have htoken := h.sound.matches hlookup (List.find?_some hfound)
  obtain ⟨id, session, hrow, htoken', hover⟩ := h.finished
  obtain rfl := h.sound.proper.tokens id candidate.1 session candidate.2.1 hrow hlookup
    (htoken'.trans htoken.symm)
  obtain rfl := Option.some.inj (hrow.symm.trans hlookup)
  rcases hover with hrevoked | hexpired
  · rw [hlive.1] at hrevoked
    cases hrevoked
  · exact absurd hlive.2 (Nat.not_lt.mpr (hexpired.trans hsince))

/-- It does not get past it, and is told nothing but an error. -/
theorem Shut.refuse (h : Shut cfg raw n since s phases) (hraw : c.credential = some raw)
    (hp : p.Refused since) {e : Effect}
    (hmove : Move cfg c p e (perform i outcome e s).1 p') :
    p'.Refused since ∧ (∀ context, e ≠ .enter context) ∧ ∀ r, e ≠ .reply (.ok r) := by
  generalize hanswer : (perform i outcome e s).1 = answer at hmove
  cases hmove with
  | now =>
      refine ⟨?_, nofun, nofun⟩
      obtain rfl : s.clock = _ := hanswer
      exact h.clock
  | read reads =>
      refine ⟨trivial, ?_, ?_⟩
      · rintro context rfl
        exact reads
      · rintro r rfl
        exact reads
  | refuse => exact ⟨trivial, nofun, nofun⟩
  | issue => cases hraw
  | tellChallenge => cases hraw
  | unbegun => exact ⟨trivial, nofun, nofun⟩
  | fail fails =>
      refine ⟨trivial, ?_, ?_⟩
      · rintro context rfl
        exact fails
      · rintro r rfl
        exact fails
  | rollback => exact ⟨trivial, nofun, nofun⟩
  | check => cases hraw
  | authenticate _ now raw' candidates candidate credential found live =>
      obtain rfl := Option.some.inj (hraw.symm.trans credential)
      exact absurd live (h.not_live hp hanswer found)
  | _ => exact hp.elim

theorem Shut.perform (h : Shut cfg raw n since s phases) (hp : phases[i]? = some (c, p))
    {e : Effect} (hwaits : s.waits i e = false)
    (hmove : Move cfg c p e (perform i outcome e s).1 p') :
    Shut cfg raw n since (perform i outcome e s).2 (phases.set i (c, p')) := by
  have hframe := h.sound.frame hp hmove
  refine ⟨h.sound.perform hp hwaits hmove, h.finished.kept hframe.sessions, ?_, ?_, ?_⟩
  · rw [hframe.clock]
    exact h.clock
  · intro j c' q hj hq hraw
    rcases Workers.getElem?_set_cases hq with ⟨rfl, hcp⟩ | ⟨-, hold⟩
    · obtain ⟨rfl, rfl⟩ := Prod.mk.inj hcp
      exact (h.refuse hraw (h.refused j c' p hj hp hraw) hmove).1
    · exact h.refused j c' q hj hold hraw
  · intro j c' q hj hq hraw
    rcases Workers.getElem?_set_cases hq with ⟨rfl, hcp⟩ | ⟨hji, hold⟩
    · -- what it has been told is an error
      obtain ⟨rfl, rfl⟩ := Prod.mk.inj hcp
      obtain ⟨-, henter, hreply⟩ := h.refuse hraw (h.refused j c' p hj hp hraw) hmove
      obtain ⟨hentered, hreplies⟩ := h.unserved j c' p hj hp hraw
      refine ⟨(hframe.entered j (.inr henter)).trans hentered, fun r hr => ?_⟩
      by_cases htells : ∃ result, e = .reply result
      · obtain ⟨result, rfl⟩ := htells
        have hresult : (s.replies.insert j result).lookup j = some (.ok r) := hr
        rw [AList.lookup_insert] at hresult
        obtain rfl := Option.some.inj hresult
        exact hreply r rfl
      · rw [hframe.replies j (.inr fun result he => htells ⟨result, he⟩)] at hr
        exact hreplies r hr
    · obtain ⟨hentered, hreplies⟩ := h.unserved j c' q hj hold hraw
      rw [hframe.entered j (.inl hji), hframe.replies j (.inl hji)]
      exact ⟨hentered, hreplies⟩

theorem sessions_outside (s : Shared) (a : Action) :
    (outsideEffect s a).tables.sessions = s.tables.sessions ∧
    s.clock ≤ (outsideEffect s a).clock ∧ (outsideEffect s a).entered = s.entered ∧
    (outsideEffect s a).replies = s.replies := by
  cases a with
  | tick ms => exact ⟨rfl, Nat.le_add_right _ _, rfl, rfl⟩
  | setStatus merchantId status =>
      refine ⟨?_, le_rfl, rfl, rfl⟩
      show (s.tables.setStatus merchantId status).sessions = _
      unfold Tables.setStatus
      cases s.tables.merchants.lookup merchantId <;> rfl
  | createMerchant id merchant =>
      unfold outsideEffect
      dsimp only
      split_ifs
      · exact ⟨rfl, le_rfl, rfl, rfl⟩
      · refine ⟨?_, le_rfl, rfl, rfl⟩
        show (s.tables.createMerchant id merchant).sessions = _
        unfold Tables.createMerchant
        split_ifs <;> rfl
  | _ => exact ⟨rfl, le_rfl, rfl, rfl⟩

theorem Shut.outside (h : Shut cfg raw n since s phases) (a : Action) :
    Shut cfg raw n since (outsideEffect s a) phases := by
  obtain ⟨hsessions, hclock, hentered, hreplies⟩ := sessions_outside s a
  refine ⟨h.sound.outside a, h.finished.kept ?_, h.clock.trans hclock, h.refused, ?_⟩
  · rw [hsessions]
    exact kept_refl s.tables
  · rw [hentered, hreplies]
    exact h.unserved

/-- A call that is not there yet is not served. -/
theorem Sound.unserved (h : Sound cfg s phases) (hi : phases.length ≤ i) :
    s.entered.lookup i = none ∧ ∀ r, s.replies.lookup i ≠ some (.ok r) := by
  have hnone : ∀ c, s.calls[i]? ≠ some c := by
    intro c hc
    have hlt := (List.getElem?_eq_some_iff.mp hc).1
    rw [h.calls, List.length_map] at hlt
    omega
  constructor
  · cases hentered : s.entered.lookup i with
    | none => rfl
    | some context =>
        obtain ⟨c, -, -, hcall, -⟩ := h.entered i context hentered
        exact absurd hcall (hnone c)
  · intro r hr
    have htold := h.told i r hr
    cases r with
    | challenge id message networkPassphrase expiresAt =>
        obtain ⟨_, _, hcall⟩ := htold
        exact hnone _ hcall
    | session sessionToken expiresAt profileRequired merchant =>
        obtain ⟨_, hcall, -⟩ := htold
        exact hnone _ hcall
    | merchant merchantId name walletAddress =>
        obtain ⟨_, c, _, _, hcall, -⟩ := htold
        exact hnone c hcall
    | loggedOut =>
        obtain ⟨c, _, _, _, hcall, -⟩ := htold
        exact hnone c hcall

theorem Shut.start (h : Shut cfg raw n since s phases) (c : Call) :
    Shut cfg raw n since { s with calls := s.calls ++ [c] } (phases ++ [(c, .idle)]) := by
  refine ⟨h.sound.start c, h.finished, h.clock, ?_, ?_⟩
  · intro j c' q hj hq hraw
    rw [List.getElem?_append] at hq
    split_ifs at hq
    · exact h.refused j c' q hj hq hraw
    · obtain ⟨-, rfl⟩ := Prod.mk.inj (List.mem_singleton.mp (List.mem_of_getElem? hq))
      trivial
  · intro j c' q hj hq hraw
    rw [List.getElem?_append] at hq
    split_ifs at hq with hlt
    · exact h.unserved j c' q hj hq hraw
    · exact h.sound.unserved (Nat.le_of_not_lt hlt)

end

/-! ## Runs -/

section

variable {cfg : Config} {raw : String} {n : ℕ} {since : Time} {s : System}

theorem shut_exec (a : Action) (h : Workers.Tracked (Step cfg) (Shut cfg raw n since) s) :
    Workers.Tracked (Step cfg) (Shut cfg raw n since) (exec cfg s a) := by
  by_cases hcall : ∃ c, a = .call c
  · obtain ⟨c, rfl⟩ := hcall
    obtain ⟨phases, hin, hshut⟩ := h
    have hcalled : Workers.Tracked (Step cfg)
        (fun shared phases' => shared = { s.shared with calls := s.shared.calls ++ [c] } ∧
          Shut cfg raw n since s.shared phases')
        (s.outside fun shared => { shared with calls := shared.calls ++ [c] }) :=
      ⟨phases, hin, rfl, hshut⟩
    exact hcalled.start_to (follows_serve c) fun phases' hcall => hcall.1 ▸ hcall.2.start c
  · by_cases hwork : ∃ worker outcome, a = .work worker outcome
    · obtain ⟨worker, outcome, rfl⟩ := hwork
      rcases exec_work (s := s) worker outcome with hsame | ⟨e, k, hw, hwaits, hdone⟩
      · rw [hsame]
        exact h
      · rw [hdone]
        refine h.work fun phases p e' k' p' hshut hp hw' hmove => ?_
        cases hw.symm.trans hw'
        obtain ⟨c, p⟩ := p
        obtain ⟨c', p'⟩ := p'
        obtain ⟨rfl, hmove⟩ := hmove
        exact hshut.perform hp hwaits hmove
    · rw [exec_outside a (fun c hc => hcall ⟨c, hc⟩) fun worker outcome hw =>
        hwork ⟨worker, outcome, hw⟩]
      exact h.outside fun phases _ hshut => hshut.outside a

end

/-- The session of the token is revoked or has expired, or somebody was told that it is logged out. -/
def Shared.Over (cfg : Config) (raw : String) (s : Shared) : Prop :=
  s.tables.Finished cfg raw s.clock ∨ ∃ i c, s.calls[i]? = some c ∧ c.credential = some raw ∧
    s.replies.lookup i = some (.ok .loggedOut)

theorem Sound.finished {cfg : Config} {raw : String} {s : Shared} {phases : List (Call × Stage)}
    (h : Sound cfg s phases) (hover : s.Over cfg raw) : s.tables.Finished cfg raw s.clock := by
  rcases hover with hfinished | ⟨i, c, hcall, hraw, hreply⟩
  · exact hfinished
  · obtain ⟨c', raw', id, session, hcall', hraw', hlookup, htoken, hrevoked⟩ := h.told i _ hreply
    obtain rfl := Option.some.inj (hcall.symm.trans hcall')
    obtain rfl := Option.some.inj (hraw.symm.trans hraw')
    exact ⟨id, session, hlookup, htoken, .inl hrevoked⟩

/-- **A session that is over stays over**: from a state on in which it is revoked or expired, or in which
a caller was told that it is logged out, no call that comes later is served with its token, in any
continuation. -/
theorem over_stays_over (cfg : Config) (before after : List Action) {raw : String}
    (hover : (run cfg initial before).shared.Over cfg raw) :
    let s := (run cfg initial before).shared
    let s' := (run cfg (run cfg initial before) after).shared
    ∀ i c, s.calls.length ≤ i → s'.calls[i]? = some c → c.credential = some raw →
      s'.entered.lookup i = none ∧ ∀ r, s'.replies.lookup i ≠ some (.ok r) := by
  intro s s' i c hi hcall hraw
  obtain ⟨phases, hin, hsound⟩ := tracked_run (tracked_initial cfg) before
  have hlength : s.calls.length = phases.length := by
    rw [hsound.calls, List.length_map]
  -- there is no later call yet
  have hnone : ∀ j c p, s.calls.length ≤ j → phases[j]? = some (c, p) → False := by
    intro j c p hj hp
    have hlt := (List.getElem?_eq_some_iff.mp hp).1
    omega
  have hshut : Shut cfg raw s.calls.length s.clock s phases :=
    { sound := hsound
      finished := hsound.finished hover
      clock := le_rfl
      refused := fun j c p hj hp _ => (hnone j c p hj hp).elim
      unserved := fun j c p hj hp _ => (hnone j c p hj hp).elim }
  have hstart : Workers.Tracked (Step cfg) (Shut cfg raw s.calls.length s.clock)
      (run cfg initial before) := ⟨phases, hin, hshut⟩
  obtain ⟨phases', -, hshut'⟩ := Runs.run_invariant
    (P := Workers.Tracked (Step cfg) (Shut cfg raw s.calls.length s.clock))
    (fun _ a hs => shut_exec a hs) hstart after
  have hphase : ∃ p, phases'[i]? = some (c, p) := by
    have hmap : (phases'.map Prod.fst)[i]? = some c := by
      rw [← hshut'.sound.calls]
      exact hcall
    rw [List.getElem?_map] at hmap
    obtain ⟨⟨c', p⟩, hp, rfl⟩ := Option.map_eq_some_iff.mp hmap
    exact ⟨p, hp⟩
  obtain ⟨p, hp⟩ := hphase
  exact hshut'.unserved i c p hi hp hraw

/-! ## A wallet that signs in and logs out

The request that follows is refused, whether or not it comes in before the day is over. -/

/-- A signature that is good enough to sign in with. -/
def mockSignature : String := "signature"

/-- One message is signed and one token is made, so that any hash will do. -/
def mockConfig : Config where
  networkPassphrase := "Test SDF Network ; September 2015"
  merchantAuthDomain := "paymap.example"
  toISOString _ := "1970-01-01T00:00:00.000Z"
  sha256 _ := [0]
  hmacSha256 _ := [0]
  bufferFrom _ := List.replicate 64 0
  toBase64 _ := mockSignature
  verify _ _ _ := some true

def mockWallet : String := "GBRPYHIL2CI3FNQ4BXLFMNDLFJUNPU2HY3ZMFSHONUCEOASW7QC7OX2H"

def mockToken : String := "pms_live_0123456789abcdef0123456789abcdef"

def mockCompletion : Completion where
  challengeId := 1
  message := mockConfig.buildChallengeMessage (mockConfig.challengeMessage mockWallet "nonce" 0)
  signature := mockSignature
  signerAddress := mockWallet
  sessionId := 2
  random := "0123456789abcdef0123456789abcdef"

/-- A call goes on for some steps. -/
def proceed (worker steps : ℕ) : List Action := List.replicate steps (.work worker .served)

def signInAndOut : List Action :=
  [.call (.challenge mockWallet 1 "nonce")] ++ proceed 0 3 ++ [.call (.complete mockCompletion)] ++
    proceed 1 8 ++ [.call (.logout (some ("Bearer " ++ mockToken)))] ++ proceed 2 5

def requestAgain : List Action := .call (.request (some ("Bearer " ++ mockToken))) :: proceed 3 3

theorem over_stays_over_logged_out :
    (run mockConfig initial signInAndOut).shared.replies.lookup 2 = some (.ok .loggedOut) ∧
    (run mockConfig (run mockConfig initial signInAndOut) requestAgain).shared.entered.lookup 3
      = none := by
  have hout : (run mockConfig initial signInAndOut).shared.replies.lookup 2
      = some (.ok .loggedOut) := by decide +kernel
  have hover : (run mockConfig initial signInAndOut).shared.Over mockConfig mockToken :=
    .inr ⟨2, .logout (some ("Bearer " ++ mockToken)), by decide +kernel, by decide +kernel, hout⟩
  refine ⟨hout, (@over_stays_over mockConfig signInAndOut requestAgain mockToken hover 3
    (.request (some ("Bearer " ++ mockToken))) ?_ ?_ ?_).1⟩
  · decide +kernel
  · decide +kernel
  · decide +kernel

end Paymap.Api.MerchantSessions
