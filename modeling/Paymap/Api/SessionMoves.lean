import Paymap.Api.MerchantSessions

set_option autoImplicit false

/-! # Signing in, move by move

The automaton that the requests about merchant sessions follow (`Move`), and that they follow it
(`follows_serve`). A stage keeps what a call has read: the time, the challenge that it completes, or the
row of the session that its credential was found in.
-/

namespace Paymap.Api.MerchantSessions

open Relayer (Time Uuid)

/-! ## What is checked -/

section

variable {cfg : Config}

/-- What a challenge is that may be consumed for a completion. -/
structure Config.Completes (cfg : Config) (c : Completion) (challenge : MerchantAuthChallenge)
    (now : Time) : Prop where
  unused : challenge.usedAt = none
  inTime : now < challenge.expiresAt
  wallet : challenge.walletAddress = c.signerAddress
  message : bufferFromHex challenge.messageHash = cfg.signedMessageDigest c.message
  signed : cfg.signatureValid c.signerAddress c.message c.signature = true

theorem completes_of_check {c : Completion} {challenge : MerchantAuthChallenge} {now : Time}
    (h : cfg.checkChallenge c challenge now = .ok ()) : cfg.Completes c challenge now := by
  simp only [Config.checkChallenge, Tx.bind_ok, Tx.rejectIf_ok, exists_const, not_not, not_le,
    Bool.not_eq_true, Option.isSome_eq_false_iff, Option.isNone_iff_eq_none] at h
  obtain ⟨hunused, htime, hwallet, hmessage, hsigned⟩ := h
  exact ⟨hunused, htime, hwallet, hmessage, Bool.eq_true_of_not_eq_false (by simpa using hsigned)⟩

end

/-- The credential of a request. -/
def Call.credential : Call → Option String
  | .challenge _ _ _ => none
  | .complete _ => none
  | .register header _ _ => bearerCredential (header.getD "")
  | .logout header => bearerCredential (header.getD "")
  | .request header => bearerCredential (header.getD "")

/-- The session is neither revoked nor over. -/
def MerchantSession.Live (session : MerchantSession) (now : Time) : Prop :=
  session.revokedAt = none ∧ now < session.expiresAt

/-! ## Stages and moves -/

/-- Where a call is. -/
inductive Stage where
  /-- Nothing is known of it, or it is done. -/
  | idle
  | timed (now : Time)
  /-- It has a challenge that it may consume. -/
  | checked (now : Time) (challenge : MerchantAuthChallenge)
  | begun (now : Time) (challenge : MerchantAuthChallenge)
  | consumed (now : Time) (challenge : MerchantAuthChallenge)
  | named (now : Time) (challenge : MerchantAuthChallenge) (merchant : Option (Uuid × Merchant))
  | opened (now : Time) (challenge : MerchantAuthChallenge) (merchant : Option (Uuid × Merchant))
  /-- Its session is committed. -/
  | signedIn (now : Time) (merchant : Option (Uuid × Merchant))
  /-- Its credential is a session, with this row. -/
  | authenticated (candidate : Candidate)
  | registering (candidate : Candidate)
  | adopted (candidate : Candidate) (merchant : Uuid × Merchant)
  | assigned (candidate : Candidate) (merchant : Uuid × Merchant)
  /-- The merchant of its session is stored. -/
  | registered (candidate : Candidate) (merchant : Uuid × Merchant)
  | revoked (candidate : Candidate)
  /-- The transaction is to be rolled back. -/
  | failing

/-- It only reads. -/
def Effect.Reads : Effect → Prop
  | .findChallenge _ => True
  | .findSessions _ => True
  | .findMerchant _ => True
  | .enterWithApiKey _ => True
  | _ => False

/-- A statement of a transaction that ends it. -/
def Effect.Fails : (e : Effect) → Answer e → Prop
  | .consumeChallenge _ _, answer => answer ≠ some 1
  | .findMerchantByWallet _, answer => answer = none
  | .createSession _ _, answer => answer = none
  | .upsertMerchant _ _ _, answer => answer = none
  | .assignMerchant _ _, answer => answer = none
  | _, _ => False

/-- What a call does next. -/
inductive Move (cfg : Config) : Call → Stage → (e : Effect) → Answer e → Stage → Prop where
  | now (c : Call) (time : Time) : Move cfg c .idle .now time (.timed time)
  | read {c : Call} {p : Stage} {e : Effect} {answer : Answer e} (reads : e.Reads) :
      Move cfg c p e answer .idle
  | refuse (c : Call) (p : Stage) (e : RouteError) : Move cfg c p (.reply (.error e)) () .idle
  -- a challenge is issued
  | issue (walletAddress : String) (id : Uuid) (nonce : String) (now : Time) (answer : Option Unit) :
      Move cfg (.challenge walletAddress id nonce) (.timed now)
        (.createChallenge id (cfg.newChallenge (cfg.challengeMessage walletAddress nonce now)))
        answer .idle
  | tellChallenge (walletAddress : String) (id : Uuid) (nonce message networkPassphrase : String)
      (expiresAt : Time) :
      Move cfg (.challenge walletAddress id nonce) .idle
        (.reply (.ok (.challenge id message networkPassphrase expiresAt))) () .idle
  -- a transaction is begun, fails, or is rolled back
  | unbegun (c : Call) (p : Stage) : Move cfg c p .beginTransaction none .idle
  | fail {c : Call} {p : Stage} {e : Effect} {answer : Answer e} (fails : e.Fails answer) :
      Move cfg c p e answer .failing
  | rollback (c : Call) : Move cfg c .failing .rollback () .idle
  -- a challenge is completed
  | check (k : Completion) (now : Time) (challenge : MerchantAuthChallenge)
      (completes : cfg.Completes k challenge now) :
      Move cfg (.complete k) (.timed now) (.findChallenge k.challengeId) (some (some challenge))
        (.checked now challenge)
  | begin (k : Completion) (now : Time) (challenge : MerchantAuthChallenge) :
      Move cfg (.complete k) (.checked now challenge) .beginTransaction (some ())
        (.begun now challenge)
  | consume (k : Completion) (now : Time) (challenge : MerchantAuthChallenge) :
      Move cfg (.complete k) (.begun now challenge) (.consumeChallenge k.challengeId now) (some 1)
        (.consumed now challenge)
  | name (k : Completion) (now : Time) (challenge : MerchantAuthChallenge)
      (merchant : Option (Uuid × Merchant)) :
      Move cfg (.complete k) (.consumed now challenge) (.findMerchantByWallet k.signerAddress)
        (some merchant) (.named now challenge merchant)
  | open (k : Completion) (now : Time) (challenge : MerchantAuthChallenge)
      (merchant : Option (Uuid × Merchant)) :
      Move cfg (.complete k) (.named now challenge merchant)
        (.createSession k.sessionId (cfg.newSession k (merchant.map Prod.fst) now)) (some ())
        (.opened now challenge merchant)
  | signIn (k : Completion) (now : Time) (challenge : MerchantAuthChallenge)
      (merchant : Option (Uuid × Merchant)) :
      Move cfg (.complete k) (.opened now challenge merchant) .commit (some ())
        (.signedIn now merchant)
  | signInLost (k : Completion) (now : Time) (challenge : MerchantAuthChallenge)
      (merchant : Option (Uuid × Merchant)) :
      Move cfg (.complete k) (.opened now challenge merchant) .commit none .idle
  | tellSession (k : Completion) (now : Time) (merchant : Option (Uuid × Merchant)) :
      Move cfg (.complete k) (.signedIn now merchant)
        (.reply (.ok (.session k.token (now + sessionTtlMs) merchant.isNone merchant))) () .idle
  -- a credential is a session
  | authenticate (c : Call) (now : Time) (raw : String) (candidates : List Candidate)
      (candidate : Candidate) (credential : c.credential = some raw)
      (found : candidates.find? (cfg.matches raw) = some candidate)
      (live : candidate.2.1.Live now) :
      Move cfg c (.timed now) (.findSessions (lookupPrefix raw)) (some candidates)
        (.authenticated candidate)
  | touch (c : Call) (candidate : Candidate) (now : Time) (answer : Option Unit) :
      Move cfg c (.authenticated candidate) (.touchSession candidate.1 now) answer
        (.authenticated candidate)
  | enter (header : Option String) (id : Uuid) (session : MerchantSession)
      (merchant : Uuid × Merchant) :
      Move cfg (.request header) (.authenticated (id, session, some merchant))
        (.enter ⟨id, merchant.1⟩) () .idle
  -- a session is revoked
  | nowAgain (header : Option String) (candidate : Candidate) (time : Time) :
      Move cfg (.logout header) (.authenticated candidate) .now time (.authenticated candidate)
  | revoke (header : Option String) (candidate : Candidate) (now : Time) :
      Move cfg (.logout header) (.authenticated candidate) (.revokeSession candidate.1 now)
        (some ()) (.revoked candidate)
  | revokeLost (header : Option String) (candidate : Candidate) (now : Time) :
      Move cfg (.logout header) (.authenticated candidate) (.revokeSession candidate.1 now) none
        .idle
  | tellLoggedOut (header : Option String) (candidate : Candidate) :
      Move cfg (.logout header) (.revoked candidate) (.reply (.ok .loggedOut)) () .idle
  -- a merchant is registered
  | find (header : Option String) (generated : Uuid) (name : String) (candidate : Candidate)
      (merchantId : Uuid) (merchant : Merchant)
      (own : candidate.2.1.merchantId = some merchantId) :
      Move cfg (.register header generated name) (.authenticated candidate)
        (.findMerchant merchantId) (some (some merchant)) (.registered candidate (merchantId, merchant))
  | register (header : Option String) (generated : Uuid) (name : String) (candidate : Candidate) :
      Move cfg (.register header generated name) (.authenticated candidate) .beginTransaction
        (some ()) (.registering candidate)
  | adopt (header : Option String) (generated : Uuid) (name : String) (candidate : Candidate)
      (merchant : Uuid × Merchant) :
      Move cfg (.register header generated name) (.registering candidate)
        (.upsertMerchant generated name candidate.2.1.walletAddress) (some merchant)
        (.adopted candidate merchant)
  | assign (header : Option String) (generated : Uuid) (name : String) (candidate : Candidate)
      (merchant : Uuid × Merchant) :
      Move cfg (.register header generated name) (.adopted candidate merchant)
        (.assignMerchant candidate.1 merchant.1) (some ()) (.assigned candidate merchant)
  | store (header : Option String) (generated : Uuid) (name : String) (candidate : Candidate)
      (merchant : Uuid × Merchant) :
      Move cfg (.register header generated name) (.assigned candidate merchant) .commit (some ())
        (.registered candidate merchant)
  | storeLost (header : Option String) (generated : Uuid) (name : String) (candidate : Candidate)
      (merchant : Uuid × Merchant) :
      Move cfg (.register header generated name) (.assigned candidate merchant) .commit none .idle
  | tellMerchant (header : Option String) (generated : Uuid) (name : String)
      (candidate : Candidate) (merchant : Uuid × Merchant) :
      Move cfg (.register header generated name) (.registered candidate merchant)
        (.reply (.ok (.merchant merchant.1 merchant.2.name merchant.2.walletAddress))) () .idle

/-- A call stays the one it is. -/
def Step (cfg : Config) (p : Call × Stage) (e : Effect) (answer : Answer e) (p' : Call × Stage) :
    Prop := p'.1 = p.1 ∧ Move cfg p.1 p.2 e answer p'.2

/-! ## The moves of a call -/

section

variable {cfg : Config} {c : Call} {α : Type}

/-- A program that follows the moves of its call. -/
theorem follows_step {w : Job α} {p : Stage} {Q : α → Stage → Prop}
    (h : w.Follows (Move cfg c) Q p) :
    w.Follows (Step cfg) (fun a p' => Q a p'.2) (c, p) := by
  induction w generalizing p with
  | ret a => exact h
  | raise e => trivial
  | call e k ih =>
      intro a
      obtain ⟨p', hmove, hrest⟩ := h a
      exact ⟨(c, p'), ⟨rfl, hmove⟩, ih a hrest⟩

/-- An error may be raised anywhere outside a transaction. -/
def Anywhere (_ : RouteError) (_ : Stage) : Prop := True

/-- A transaction commits what its body has done, or is rolled back. -/
theorem ends_transaction {body : Job α} {p p₁ : Stage} {P Q : α → Stage → Prop}
    (hbegin : Move cfg c p .beginTransaction (some ()) p₁)
    (hbody : body.Ends (Move cfg c) P (fun _ p' => p' = .failing) p₁)
    (hcommit : ∀ a p', P a p' → ∃ p'', Move cfg c p' .commit (some ()) p'' ∧ Q a p'')
    (hlost : ∀ a p', P a p' → ∃ p'', Move cfg c p' .commit none p'') :
    (transaction body).Ends (Move cfg c) Q Anywhere p := by
  rintro (_ | u)
  · exact ⟨_, .unbegun c p, trivial⟩
  · refine ⟨_, hbegin, ?_⟩
    show Prog.Ends _ _ _ (Prog.attempt _ >>= _) _
    rw [Prog.ends_bind, Prog.ends_attempt]
    refine hbody.mono ?_ ?_
    · rintro a p' hp (_ | u)
      · obtain ⟨p'', hmove⟩ := hlost a p' hp
        exact ⟨p'', hmove, trivial⟩
      · obtain ⟨p'', hmove, hq⟩ := hcommit a p' hp
        exact ⟨p'', hmove, hq⟩
    · rintro e _ rfl u
      exact ⟨_, .rollback c, trivial⟩

/-! ### Challenges -/

theorem ends_createMerchantAuthChallenge (walletAddress : String) (id : Uuid) (nonce : String) :
    (createMerchantAuthChallenge cfg walletAddress id nonce).Ends
      (Move cfg (.challenge walletAddress id nonce))
      (fun r p => p = .idle ∧ ∃ message networkPassphrase expiresAt,
        r = .challenge id message networkPassphrase expiresAt) Anywhere .idle := by
  refine fun now => ⟨_, .now _ now, fun answer => ⟨_, .issue _ _ _ now answer, ?_⟩⟩
  cases answer with
  | none => trivial
  | some u => exact ⟨rfl, _, _, _, rfl⟩

/-- The transaction that consumes the challenge ends with a session, or is to be rolled back. -/
theorem ends_consumeAndCreate (k : Completion) (now : Time) (challenge : MerchantAuthChallenge) :
    (consumeAndCreate cfg k now).Ends (Move cfg (.complete k))
      (fun merchant p => p = .opened now challenge merchant) (fun _ p => p = .failing)
      (.begun now challenge) := by
  rintro (_ | count)
  · exact ⟨_, .fail nofun, rfl⟩
  · by_cases hcount : count = 1
    · subst hcount
      refine ⟨_, .consume k now challenge, ?_⟩
      rintro (_ | merchant)
      · exact ⟨_, .fail rfl, rfl⟩
      · refine ⟨_, .name k now challenge merchant, ?_⟩
        rintro (_ | u)
        · exact ⟨_, .fail rfl, rfl⟩
        · exact ⟨_, .open k now challenge merchant, rfl⟩
    · refine ⟨_, .fail fun h => hcount (Option.some.inj h), ?_⟩
      show (if count = 1 then _ else _ : Job (Option (Uuid × Merchant))).Ends _ _ _ _
      rw [if_neg hcount]
      exact rfl

theorem ends_completeMerchantAuthChallenge (k : Completion) :
    (completeMerchantAuthChallenge cfg k).Ends (Move cfg (.complete k))
      (fun r p => ∃ now merchant, p = .signedIn now merchant ∧
        r = .session k.token (now + sessionTtlMs) merchant.isNone merchant) Anywhere .idle := by
  refine fun now => ⟨_, .now _ now, ?_⟩
  rintro (_ | _ | challenge)
  · exact ⟨_, .read trivial, trivial⟩
  · exact ⟨_, .read trivial, trivial⟩
  · cases hcheck : cfg.checkChallenge k challenge now with
    | error e =>
        refine ⟨_, .read trivial, ?_⟩
        simp only [Prog.bind, bind, orUnexpected, pure, hcheck]
        trivial
    | ok u =>
        refine ⟨_, .check k now challenge (completes_of_check hcheck), ?_⟩
        simp only [Prog.bind, bind, orUnexpected, pure, hcheck]
        show Prog.Ends _ _ _ (transaction _ >>= _) _
        rw [Prog.ends_bind]
        refine ends_transaction (.begin k now challenge) (ends_consumeAndCreate k now challenge) ?_ ?_
        · rintro merchant _ rfl
          exact ⟨_, .signIn k now challenge merchant, now, merchant, rfl, rfl⟩
        · rintro merchant _ rfl
          exact ⟨_, .signInLost k now challenge merchant⟩

/-! ### Sessions -/

/-- A session that authenticates a call is the one of its credential. -/
theorem ends_authenticateMerchantSession {raw : String} (hraw : c.credential = some raw) (now : Time)
    (allowPendingProfile : Bool) :
    (authenticateMerchantSession cfg raw now allowPendingProfile).Ends (Move cfg c)
      (fun candidate p => p = .authenticated candidate) Anywhere (.timed now) := by
  unfold authenticateMerchantSession
  split_ifs with hformed
  · rintro (_ | candidates)
    · exact ⟨_, .read trivial, trivial⟩
    · show ∃ p', Move cfg c _ _ _ p' ∧ (authenticateCandidate _ _ _).Ends _ _ _ p'
      cases hfound : candidates.find? (cfg.matches raw) with
      | none => exact ⟨_, .read trivial, trivial⟩
      | some candidate =>
          obtain ⟨id, session, merchant⟩ := candidate
          by_cases hover : session.revokedAt.isSome = true ∨ session.expiresAt ≤ now
          · refine ⟨_, .read trivial, ?_⟩
            show (if _ then _ else _ : Job Candidate).Ends _ _ _ _
            rw [if_pos hover]
            trivial
          · have hlive : session.Live now := by
              rw [not_or, not_le] at hover
              exact ⟨Option.not_isSome_iff_eq_none.mp hover.1, hover.2⟩
            refine ⟨_, .authenticate c now raw candidates _ hraw hfound hlive, ?_⟩
            show (if _ then _ else _ : Job Candidate).Ends _ _ _ _
            rw [if_neg hover]
            rcases merchant with _ | ⟨merchantId, row⟩
            · dsimp only
              split_ifs
              · exact rfl
              · trivial
            · dsimp only
              split_ifs
              · trivial
              · unfold recordUse
                split_ifs
                · rintro (_ | u)
                  · exact ⟨_, .touch _ _ _ none, trivial⟩
                  · exact ⟨_, .touch _ _ _ (some u), rfl⟩
                · exact rfl
  · trivial

theorem ends_authenticatePending {header : Option String}
    (hheader : c.credential = bearerCredential (header.getD "")) :
    (authenticatePending cfg header).Ends (Move cfg c)
      (fun candidate p => p = .authenticated candidate) Anywhere .idle := by
  unfold authenticatePending requireBearerCredential
  cases hraw : bearerCredential (header.getD "") with
  | none => trivial
  | some raw =>
      exact fun now => ⟨_, .now _ now, ends_authenticateMerchantSession (hheader.trans hraw) now true⟩

theorem ends_registerVerifiedMerchant (header : Option String) (generated : Uuid) (name : String)
    (candidate : Candidate) :
    (registerVerifiedMerchant candidate generated name).Ends
      (Move cfg (.register header generated name))
      (fun merchant p => p = .registered candidate merchant) Anywhere (.authenticated candidate) := by
  unfold registerVerifiedMerchant
  cases hmerchant : candidate.2.1.merchantId with
  | some merchantId =>
      rintro (_ | _ | merchant)
      · exact ⟨_, .read trivial, trivial⟩
      · exact ⟨_, .read trivial, trivial⟩
      · exact ⟨_, .find header generated name candidate merchantId merchant hmerchant, rfl⟩
  | none =>
      refine ends_transaction (P := fun merchant p => p = .assigned candidate merchant)
        (.register header generated name candidate) ?_ ?_ ?_
      · rintro (_ | merchant)
        · exact ⟨_, .fail rfl, rfl⟩
        · refine ⟨_, .adopt header generated name candidate merchant, ?_⟩
          rintro (_ | u)
          · exact ⟨_, .fail rfl, rfl⟩
          · exact ⟨_, .assign header generated name candidate merchant, rfl⟩
      · rintro merchant _ rfl
        exact ⟨_, .store header generated name candidate merchant, rfl⟩
      · rintro merchant _ rfl
        exact ⟨_, .storeLost header generated name candidate merchant⟩

/-! ### Requests -/

/-- A result is told from where the program has ended. -/
theorem follows_respond {body : Job Response} {Q : Response → Stage → Prop}
    (hbody : body.Ends (Move cfg c) Q Anywhere .idle)
    (htell : ∀ r p, Q r p → Move cfg c p (.reply (.ok r)) () .idle) :
    (respond body).Follows (Move cfg c) (fun _ _ => True) .idle := by
  rw [respond, Prog.follows_bind, Prog.follows_attempt]
  refine hbody.mono ?_ ?_
  · exact fun r p hr u => ⟨_, htell r p hr, trivial⟩
  · exact fun e p _ u => ⟨_, .refuse c p e, trivial⟩

theorem follows_enterRoute (header : Option String) :
    (enterRoute cfg header).Follows (Move cfg (.request header)) (fun _ _ => True) .idle := by
  have hauth : (authenticate cfg header).Ends (Move cfg (.request header))
      (fun credential p => match credential with
        | .session context => ∃ id session merchant, context = ⟨id, merchant.1⟩ ∧
            p = .authenticated (id, session, some merchant)
        | .apiKey _ => True) Anywhere .idle := by
    unfold authenticate
    rcases header with _ | header
    · trivial
    · dsimp only
      split_ifs with hempty
      · trivial
      · cases hraw : bearerCredential header with
        | none => trivial
        | some raw =>
            dsimp only
            split_ifs with hprefix
            · refine fun now => ⟨_, .now _ now, ?_⟩
              show Prog.Ends _ _ _ (authenticateMerchantSession _ _ _ _ >>= _) _
              rw [Prog.ends_bind]
              have hcredential : (Call.request (some header)).credential = some raw := hraw
              refine (ends_authenticateMerchantSession hcredential now false).mono ?_ fun _ _ h => h
              rintro ⟨id, session, _ | merchant⟩ _ rfl
              · trivial
              · exact ⟨id, session, merchant, rfl, rfl⟩
            · trivial
  rw [enterRoute, Prog.follows_bind, Prog.follows_attempt]
  refine hauth.mono ?_ ?_
  · rintro (raw | context) p hp
    · exact fun u => ⟨_, .read trivial, trivial⟩
    · obtain ⟨id, session, merchant, rfl, rfl⟩ := hp
      exact fun u => ⟨_, .enter header id session merchant, trivial⟩
  · exact fun e p _ u => ⟨_, .refuse _ p e, trivial⟩

/-- **A call makes only these moves.** -/
theorem follows_serve (c : Call) :
    (serve cfg c).Follows (Step cfg) (fun _ _ => True) (c, .idle) := by
  refine follows_step (Q := fun _ _ => True) ?_
  cases c with
  | challenge walletAddress id nonce =>
      refine follows_respond (ends_createMerchantAuthChallenge walletAddress id nonce) ?_
      rintro _ _ ⟨rfl, message, networkPassphrase, expiresAt, rfl⟩
      exact .tellChallenge walletAddress id nonce message networkPassphrase expiresAt
  | complete k =>
      refine follows_respond (ends_completeMerchantAuthChallenge k) ?_
      rintro _ _ ⟨now, merchant, rfl, rfl⟩
      exact .tellSession k now merchant
  | register header generated name =>
      have hregister : (register cfg header generated name).Ends
          (Move cfg (.register header generated name))
          (fun r p => ∃ candidate merchant, p = .registered candidate merchant ∧
            r = .merchant merchant.1 merchant.2.name merchant.2.walletAddress) Anywhere .idle := by
        rw [register, Prog.ends_bind]
        refine (ends_authenticatePending rfl).mono ?_ fun _ _ h => h
        rintro candidate _ rfl
        rw [Prog.ends_bind]
        refine (ends_registerVerifiedMerchant header generated name candidate).mono ?_ fun _ _ h => h
        rintro merchant _ rfl
        exact ⟨candidate, merchant, rfl, rfl⟩
      refine follows_respond hregister ?_
      rintro _ _ ⟨candidate, merchant, rfl, rfl⟩
      exact .tellMerchant header generated name candidate merchant
  | logout header =>
      have hlogout : (logout cfg header).Ends (Move cfg (.logout header))
          (fun r p => r = .loggedOut ∧ ∃ candidate, p = .revoked candidate) Anywhere .idle := by
        rw [logout, Prog.ends_bind]
        refine (ends_authenticatePending rfl).mono ?_ fun _ _ h => h
        rintro candidate _ rfl
        refine fun now => ⟨_, .nowAgain header candidate now, ?_⟩
        rintro (_ | u)
        · exact ⟨_, .revokeLost header candidate now, trivial⟩
        · exact ⟨_, .revoke header candidate now, rfl, candidate, rfl⟩
      refine follows_respond hlogout ?_
      rintro _ _ ⟨rfl, candidate, rfl⟩
      exact .tellLoggedOut header candidate
  | request header => exact follows_enterRoute header

end

end Paymap.Api.MerchantSessions
