import Paymap.Api.Credentials
import Paymap.Api.Rotations
import Paymap.Api.SessionMoves

set_option autoImplicit false

/-! # Requests with credentials, move by move

The automaton of a request (`Move`), and that it follows it (`follows_serve`). What a request does to the
sessions before it enters a route is left open; from there on a stage keeps the credential, and the row of
the key that a rotation has read.
-/

namespace Paymap.Api.Credentials

open Relayer (Time Uuid)
open ApiKeys (ApiKey GeneratedApiKey RotatedApiKey Candidate)

/-! ## Stages and moves -/

/-- Where a request is. -/
inductive Stage where
  /-- It has entered no route. -/
  | opening
  /-- The handler that authenticates it has let it in by a session. -/
  | admitted (context : MerchantSessions.MerchantContext)
  /-- It is to be authenticated by an API key. -/
  | presented (raw : String)
  /-- The row of its key was found, active. -/
  | known (id : Uuid) (apiKey : ApiKey)
  | entered (context : Context)
  /-- A transaction that replaces the key is open. -/
  | begun (merchantId id : Uuid)
  | found (merchantId id : Uuid) (current : ApiKey)
  | replaced (merchantId id : Uuid) (current : ApiKey)
  | made (merchantId id : Uuid) (current : ApiKey)
  /-- This key is revoked. -/
  | revoked (id : Uuid)
  /-- The transaction is to be rolled back. -/
  | failing
  | closed

/-- A row that authenticates the key: the first one with its hash, active, of an active merchant. -/
def Authenticates (hash : String → String) (raw : String) (candidates : List Candidate) (id : Uuid)
    (apiKey : ApiKey) : Prop :=
  candidates.find? (fun candidate => candidate.2.1.keyHash = hash raw) = some (id, apiKey, true) ∧
    apiKey.status = .active

/-- What may be told from anywhere. -/
def Response.Plain : Response → Prop
  | .handled => True
  | .created _ _ _ _ => True
  | _ => False

/-- A statement of a rotation that ends it. -/
def Fails : (e : ApiKeys.Effect) → ApiKeys.Answer e → Prop
  | .findKey _ _, answer => ∀ apiKey, answer ≠ some (some apiKey)
  | .revokeKey _ _, answer => answer = none
  | .createKey _ _, answer => answer = none
  | _, _ => False

/-- What a request does next. -/
inductive Move (hash : String → String) :
    Request → Stage → (e : Effect) → Answer e → Stage → Prop where
  -- the sessions
  | onSessions (r : Request) {e : MerchantSessions.Effect} (answer : Answer (.inl e))
      (quiet : ∀ context, e ≠ .enter context) : Move hash r .opening (.inl e) answer .opening
  | letIn (r : Request) (context : MerchantSessions.MerchantContext) :
      Move hash r .opening (.inl (.enter context)) () (.admitted context)
  | present (r : Request) (raw : String) (presents : r.call.credential = some raw) :
      Move hash r .opening (.inl (.enterWithApiKey raw)) () (.presented raw)
  -- authentication by a key
  | find (r : Request) {raw : String} {candidates : List Candidate} {id : Uuid} {apiKey : ApiKey}
      (authenticates : Authenticates hash raw candidates id apiKey) :
      Move hash r (.presented raw) (.inr (.key (.findKeys (ApiKeys.lookupPrefix raw))))
        (some candidates) (.known id apiKey)
  | findNone (r : Request) (raw keyPrefix : String) (answer : Option (List Candidate)) :
      Move hash r (.presented raw) (.inr (.key (.findKeys keyPrefix))) answer .closed
  | now (r : Request) (p : Stage) (time : Time) : Move hash r p (.inr (.key .now)) time p
  | touch (r : Request) (id touched : Uuid) (apiKey : ApiKey) (lastUsedAt : Time)
      (answer : Option Unit) :
      Move hash r (.known id apiKey) (.inr (.key (.touchKey touched lastUsedAt))) answer
        (.known id apiKey)
  -- a route is entered
  | enterByKey (r : Request) {id : Uuid} {apiKey : ApiKey}
      (scopes : ∀ scope ∈ r.requiredScopes, scope ∈ apiKey.scopes) :
      Move hash r (.known id apiKey) (.inr (.enter ⟨apiKey.merchantId, .apiKey id⟩)) ()
        (.entered ⟨apiKey.merchantId, .apiKey id⟩)
  | enterBySession (r : Request) (context : MerchantSessions.MerchantContext) :
      Move hash r (.admitted context)
        (.inr (.enter ⟨context.merchantId, .session context.sessionId⟩)) ()
        (.entered ⟨context.merchantId, .session context.sessionId⟩)
  -- a key is made, or revoked
  | insert {header : Option String} {name : Option Json} {scopes : Option (List Json)}
      {generated : GeneratedApiKey} {context : Context} {apiKey : ApiKey}
      (merchant : apiKey.merchantId = context.merchantId) (answer : Option Unit) :
      Move hash (.create header name scopes generated) (.entered context)
        (.inr (.insertKey context.credential generated.id apiKey)) answer .closed
  | revoke (header : Option String) (id : Uuid) (context : Context) (revokedAt : Time) :
      Move hash (.delete header id) (.entered context)
        (.inr (.revokeActive id context.merchantId revokedAt)) (some 1) (.revoked id)
  | revokeNone (header : Option String) (id : Uuid) (context : Context) (revokedAt : Time)
      (answer : Option ℕ) :
      Move hash (.delete header id) (.entered context)
        (.inr (.revokeActive id context.merchantId revokedAt)) answer .closed
  -- a key is replaced
  | begin (header : Option String) (generated : GeneratedApiKey) (merchantId id : Uuid) :
      Move hash (.rotate header generated) (.entered ⟨merchantId, .apiKey id⟩)
        (.inr (.key .beginTransaction)) (some ()) (.begun merchantId id)
  | unbegun (r : Request) (p : Stage) : Move hash r p (.inr (.key .beginTransaction)) none .closed
  | read (header : Option String) (generated : GeneratedApiKey) (merchantId id : Uuid)
      (current : ApiKey) :
      Move hash (.rotate header generated) (.begun merchantId id)
        (.inr (.key (.findKey id merchantId))) (some (some current)) (.found merchantId id current)
  | replace (header : Option String) (generated : GeneratedApiKey) (merchantId id : Uuid)
      (current : ApiKey) (revokedAt : Time) :
      Move hash (.rotate header generated) (.found merchantId id current)
        (.inr (.key (.revokeKey id revokedAt))) (some ()) (.replaced merchantId id current)
  | make (header : Option String) (generated : GeneratedApiKey) (merchantId id : Uuid)
      (current : ApiKey) :
      Move hash (.rotate header generated) (.replaced merchantId id current)
        (.inr (.key (.createKey generated.id
          (ApiKeys.newApiKey hash merchantId current generated)))) (some ())
        (.made merchantId id current)
  | commit (header : Option String) (generated : GeneratedApiKey) (merchantId id : Uuid)
      (current : ApiKey) :
      Move hash (.rotate header generated) (.made merchantId id current) (.inr (.key .commit))
        (some ()) (.revoked id)
  | commitLost (header : Option String) (generated : GeneratedApiKey) (merchantId id : Uuid)
      (current : ApiKey) :
      Move hash (.rotate header generated) (.made merchantId id current) (.inr (.key .commit)) none
        .closed
  | fail (r : Request) (p : Stage) {e : ApiKeys.Effect} {answer : Answer (.inr (.key e))}
      (fails : Fails e answer) : Move hash r p (.inr (.key e)) answer .failing
  | rollback (r : Request) : Move hash r .failing (.inr (.key .rollback)) () .closed
  -- the caller is told
  | refuse (r : Request) (p : Stage) (e : RouteError) :
      Move hash r p (.inr (.tell (.error e))) () .closed
  | answer (r : Request) (p : Stage) {response : Response} (plain : response.Plain) :
      Move hash r p (.inr (.tell (.ok response))) () .closed
  | answerRevoked (r : Request) (id : Uuid) :
      Move hash r (.revoked id) (.inr (.tell (.ok (.revoked id)))) () .closed
  | answerRotated (r : Request) (new : Uuid) (apiKey : String) (id : Uuid) :
      Move hash r (.revoked id) (.inr (.tell (.ok (.rotated ⟨new, apiKey, id⟩)))) () .closed

/-- A step of a request, which stays the same. -/
def Step (hash : String → String) (p : Request × Stage) (e : Effect) (answer : Answer e)
    (p' : Request × Stage) : Prop :=
  p'.1 = p.1 ∧ Move hash p.1 p.2 e answer p'.2

/-- A step of what is done with the keys. -/
def KeyMove (hash : String → String) (r : Request) (p : Stage) (e : KeyEffect) (answer : KeyAnswer e)
    (p' : Stage) : Prop :=
  Move hash r p (.inr e) answer p'

section

variable {hash : String → String} {cfg : MerchantSessions.Config} {r : Request} {α : Type}

theorem follows_step {w : Job α} {p : Stage} {Q : α → Stage → Prop}
    (h : w.Follows (Move hash r) Q p) : w.Follows (Step hash) (fun a p' => Q a p'.2) (r, p) := by
  induction w generalizing p with
  | ret a => exact h
  | raise e => trivial
  | call e k ih =>
      intro a
      obtain ⟨p', hmove, hrest⟩ := h a
      exact ⟨(r, p'), ⟨rfl, hmove⟩, ih a hrest⟩

/-- Where an error is raised does not matter. -/
def Anywhere (_ : RouteError) (_ : Stage) : Prop := True

/-! ## Authentication by a key -/

theorem ends_recordUse (id : Uuid) (apiKey : ApiKey) :
    (onKeys (ApiKeys.recordUse id apiKey)).Ends (KeyMove hash r)
      (fun result p => result = (id, apiKey) ∧ p = .known id apiKey) Anywhere (.known id apiKey) := by
  intro now
  refine ⟨_, .now r _ now, ?_⟩
  show (onKeys (if ApiKeys.usedLongAgo apiKey now = true then _ else _)).Ends _ _ _ _
  split_ifs
  · refine fun now' => ⟨_, .now r _ now', ?_⟩
    rintro (_ | u)
    · exact ⟨_, .touch r id id apiKey now' none, trivial⟩
    · exact ⟨_, .touch r id id apiKey now' (some u), rfl, rfl⟩
  · exact ⟨rfl, rfl⟩

theorem ends_authenticateApiKey (raw : String) :
    (onKeys (ApiKeys.authenticateApiKey hash raw)).Ends (KeyMove hash r)
      (fun result p => p = .known result.1 result.2) Anywhere (.presented raw) := by
  unfold ApiKeys.authenticateApiKey
  split_ifs
  · rintro (_ | candidates)
    · exact ⟨_, .findNone r raw _ none, trivial⟩
    · cases hfound : candidates.find? fun candidate => candidate.2.1.keyHash = hash raw with
      | none =>
          refine ⟨_, .findNone r raw _ (some candidates), ?_⟩
          show (onKeys (ApiKeys.authenticateCandidate (candidates.find? _))).Ends _ _ _ _
          rw [hfound]
          trivial
      | some candidate =>
          obtain ⟨id, apiKey, merchantActive⟩ := candidate
          by_cases hactive : apiKey.status = .active ∧ merchantActive = true
          · obtain ⟨hstatus, rfl⟩ := hactive
            refine ⟨_, .find r ⟨hfound, hstatus⟩, ?_⟩
            show (onKeys (ApiKeys.authenticateCandidate (candidates.find? _))).Ends _ _ _ _
            rw [hfound]
            simp only [ApiKeys.authenticateCandidate, hstatus, ne_eq, not_true_eq_false, if_false,
              Bool.true_eq_false]
            refine (ends_recordUse id apiKey).mono ?_ fun _ _ _ => trivial
            rintro _ _ ⟨rfl, rfl⟩
            rfl
          · refine ⟨_, .findNone r raw _ (some candidates), ?_⟩
            show (onKeys (ApiKeys.authenticateCandidate (candidates.find? _))).Ends _ _ _ _
            rw [hfound]
            unfold ApiKeys.authenticateCandidate
            dsimp only
            split_ifs with hstatus hmerchant
            · trivial
            · trivial
            · exact absurd ⟨not_not.mp hstatus, Bool.eq_true_of_not_eq_false hmerchant⟩ hactive
  · trivial

/-! ## The routes of keys -/

theorem ends_orThrow {x : Except RouteError α} {p : Stage} :
    (orThrow x).Ends (KeyMove hash r) (fun a p' => x = .ok a ∧ p' = p) Anywhere p := by
  cases x with
  | ok a => exact ⟨rfl, rfl⟩
  | error e => trivial

/-- What a handler leaves: a response that may be told. -/
def Told (hash : String → String) (r : Request) (response : Response) (p : Stage) : Prop :=
  Move hash r p (.inr (.tell (.ok response))) () .closed

theorem ends_createKey (header : Option String) (name : Option Json) (scopes : Option (List Json))
    (generated : GeneratedApiKey) (context : Context) :
    (createKey hash name scopes generated context).Ends
      (KeyMove hash (.create header name scopes generated))
      (Told hash (.create header name scopes generated)) Anywhere (.entered context) := by
  unfold createKey
  cases createApiKeySchema name scopes with
  | none => trivial
  | some input =>
      show Prog.Ends _ _ _ (createScopedApiKey hash context input generated >>= _) _
      unfold createScopedApiKey
      rw [Prog.ends_bind, Prog.ends_bind]
      refine ends_orThrow.mono ?_ fun _ _ _ => trivial
      rintro u _ ⟨-, rfl⟩
      rintro (_ | u)
      · exact ⟨_, .insert rfl none, trivial⟩
      · exact ⟨_, .insert rfl (some u), .answer _ _ trivial⟩

theorem ends_deleteKey (header : Option String) (id : Uuid) (context : Context) :
    (deleteKey id context).Ends (KeyMove hash (.delete header id)) (Told hash (.delete header id))
      Anywhere (.entered context) := by
  unfold deleteKey
  split_ifs
  · trivial
  · refine fun now => ⟨_, .now _ _ now, ?_⟩
    intro answer
    by_cases hone : answer = some 1
    · subst hone
      exact ⟨_, .revoke header id context now, .answerRevoked _ id⟩
    · refine ⟨_, .revokeNone header id context now answer, ?_⟩
      rcases answer with _ | count
      · trivial
      · have hne : count ≠ 1 := fun hcount => hone (congrArg some hcount)
        show Prog.Ends _ _ _ (if count = 1 then _ else _) _
        rw [if_neg hne]
        trivial

theorem ends_rotateApiKey (header : Option String) (generated : GeneratedApiKey)
    (merchantId id : Uuid) :
    (onKeys (ApiKeys.rotateApiKey hash merchantId id generated)).Ends
      (KeyMove hash (.rotate header generated))
      (fun rotated p => rotated.revokedApiKeyId = id ∧ p = .revoked id) Anywhere
      (.entered ⟨merchantId, .apiKey id⟩) := by
  rintro (_ | u)
  · exact ⟨_, .unbegun _ _, trivial⟩
  refine ⟨_, .begin header generated merchantId id, ?_⟩
  rintro (_ | _ | current)
  · exact ⟨_, .fail _ _ (fun _ h => by cases h), fun u => ⟨_, .rollback _, trivial⟩⟩
  · exact ⟨_, .fail _ _ (fun _ h => by cases h), fun u => ⟨_, .rollback _, trivial⟩⟩
  refine ⟨_, .read header generated merchantId id current, fun now => ⟨_, .now _ _ now, ?_⟩⟩
  rintro (_ | u)
  · exact ⟨_, .fail _ _ rfl, fun u => ⟨_, .rollback _, trivial⟩⟩
  refine ⟨_, .replace header generated merchantId id current now, ?_⟩
  rintro (_ | u)
  · exact ⟨_, .fail _ _ rfl, fun u => ⟨_, .rollback _, trivial⟩⟩
  refine ⟨_, .make header generated merchantId id current, ?_⟩
  rintro (_ | u)
  · exact ⟨_, .commitLost header generated merchantId id current, trivial⟩
  · exact ⟨_, .commit header generated merchantId id current, rfl, rfl⟩

theorem ends_rotate (header : Option String) (generated : GeneratedApiKey) (context : Context) :
    (rotate hash generated context).Ends (KeyMove hash (.rotate header generated))
      (Told hash (.rotate header generated)) Anywhere (.entered context) := by
  obtain ⟨merchantId, id | id⟩ := context
  · show Prog.Ends _ _ _ (onKeys (ApiKeys.rotateApiKey hash merchantId id generated) >>= _) _
    rw [Prog.ends_bind]
    refine (ends_rotateApiKey header generated merchantId id).mono ?_ fun _ _ h => h
    rintro ⟨new, apiKey, old⟩ _ ⟨rfl, rfl⟩
    exact .answerRotated _ new apiKey old
  · trivial

/-- What a route does once it is entered. -/
theorem ends_handler (r : Request) (context : Context) :
    (r.handler hash context).Ends (KeyMove hash r) (Told hash r) Anywhere (.entered context) := by
  cases r with
  | session c => exact .answer _ _ trivial
  | rotate header generated => exact ends_rotate header generated context
  | create header name scopes generated =>
      exact ends_createKey header name scopes generated context
  | delete header id => exact ends_deleteKey header id context
  | other header requiredScopes => exact .answer _ _ trivial

theorem follows_respond {body : KeyJob Response} {p : Stage}
    (hbody : body.Ends (KeyMove hash r) (Told hash r) Anywhere p) :
    (respond body).Ends (KeyMove hash r) (fun _ _ => True) Anywhere p := by
  rw [respond, Prog.ends_bind, Prog.ends_attempt]
  refine hbody.mono ?_ ?_
  · exact fun response p' htold u => ⟨_, htold, trivial⟩
  · exact fun e p' _ u => ⟨_, .refuse r p' e, trivial⟩

theorem ends_enterWithApiKey (raw : String) :
    (enterWithApiKey hash r raw).Ends (KeyMove hash r) (Told hash r) Anywhere (.presented raw) := by
  rw [enterWithApiKey, Prog.ends_bind]
  refine (ends_authenticateApiKey raw).mono ?_ fun _ _ h => h
  rintro ⟨id, apiKey⟩ _ rfl
  show Prog.Ends _ _ _ (orThrow _ >>= _) _
  rw [Prog.ends_bind]
  refine ends_orThrow.mono ?_ fun _ _ h => h
  rintro u _ ⟨hscopes, rfl⟩
  refine fun u => ⟨_, .enterByKey r fun scope hscope => ?_, ends_handler r _⟩
  -- no scope is missing
  unfold ApiKeys.requireApiKeyScopes at hscopes
  dsimp only at hscopes
  rw [Tx.rejectIf_ok, List.length_pos_iff, not_not, List.filter_eq_nil_iff] at hscopes
  simpa using hscopes scope hscope

/-! ## Requests -/

/-- It lets nobody in. -/
def Quiet (e : MerchantSessions.Effect) : Prop := ∀ context, e ≠ .enter context

theorem within_run {e : MerchantSessions.Effect} (he : Quiet e) :
    (MerchantSessions.Effect.run e).Within Quiet fun _ => True := ⟨he, fun _ => trivial⟩

theorem within_orUnexpected (a : Option α) :
    (MerchantSessions.orUnexpected a).Within Quiet fun _ => True := by
  cases a with
  | none => trivial
  | some a => trivial

theorem within_authenticateMerchantSession (raw : String) (now : Time) (allowPendingProfile : Bool) :
    (MerchantSessions.authenticateMerchantSession cfg raw now allowPendingProfile).Within Quiet
      fun _ => True := by
  unfold MerchantSessions.authenticateMerchantSession
  split_ifs
  · refine (within_run fun _ h => by cases h).bind fun answer =>
      (within_orUnexpected answer).bind fun candidates => ?_
    rcases candidates.find? (cfg.matches raw) with _ | ⟨id, session, _ | ⟨merchantId, row⟩⟩
    · trivial
    · unfold MerchantSessions.authenticateCandidate
      dsimp only
      split_ifs
      · trivial
      · trivial
      · trivial
    · unfold MerchantSessions.authenticateCandidate MerchantSessions.recordUse
      dsimp only
      split_ifs
      · trivial
      · trivial
      · exact (within_run fun _ h => by cases h).bind fun answer =>
          (within_orUnexpected answer).bind fun _ => trivial
      · trivial
  · trivial

/-- The credential that a request is authenticated with is its own. -/
theorem ends_authenticate {header : Option String} (hheader : r.call = .request header) :
    ((MerchantSessions.authenticate cfg header).attempt.left : Job _).Ends (Move hash r)
      (fun result p => p = .opening ∧
        ∀ raw, result = .ok (.apiKey raw) → r.call.credential = some raw) Anywhere .opening := by
  rw [Prog.attempt_left, Prog.ends_attempt]
  have hauth : ((MerchantSessions.authenticate cfg header).left : Job _).Ends
      (Move hash r) (fun credential p => p = .opening ∧
        ∀ raw, credential = .apiKey raw → r.call.credential = some raw)
      (fun _ p => p = .opening) .opening := by
    unfold MerchantSessions.authenticate
    rcases header with _ | header
    · exact rfl
    · dsimp only
      split_ifs
      · exact rfl
      · cases hraw : MerchantSessions.bearerCredential header with
        | none => exact rfl
        | some raw =>
            dsimp only
            split_ifs
            · -- a session
              refine fun now => ⟨_, .onSessions r now (fun _ h => by cases h), ?_⟩
              show Prog.Ends _ _ _
                (MerchantSessions.authenticateMerchantSession _ _ _ _ >>= _).left _
              rw [Prog.bind_left, Prog.ends_bind]
              refine ((within_authenticateMerchantSession raw now false).left
                fun e answer he => .onSessions r answer he).mono ?_ fun _ _ h => h
              rintro ⟨id, session, _ | merchant⟩ _ rfl
              · exact rfl
              · exact ⟨rfl, fun raw' h => by cases h⟩
            · refine ⟨rfl, fun raw' hraw' => ?_⟩
              cases hraw'
              rw [hheader]
              exact hraw
  refine hauth.mono ?_ ?_
  · rintro credential _ ⟨rfl, hcredential⟩
    exact ⟨rfl, fun raw h => hcredential raw (Except.ok.inj h)⟩
  · rintro e _ rfl
    exact ⟨rfl, fun raw h => by cases h⟩

/-- A guarded route, whatever is done to the sessions before. -/
theorem follows_serveGuarded {header : Option String} (hheader : r.call = .request header) :
    (serveGuarded cfg hash r header).Follows (Move hash r) (fun _ _ => True) .opening := by
  have hkeys : ∀ {p : Stage} {body : KeyJob Response},
      body.Ends (KeyMove hash r) (Told hash r) Anywhere p →
      ((respond body).right : Job Unit).Ends (Move hash r) (fun _ _ => True) (fun _ _ => True) p := by
    intro p body hbody
    refine ((follows_respond hbody).through (G := Eq) rfl ?_).mono (fun _ _ _ => trivial)
      fun _ _ _ => trivial
    rintro q _ e answer q' rfl hmove
    exact ⟨q', hmove, rfl⟩
  rw [← Prog.ends_anywhere, serveGuarded, Prog.ends_bind]
  refine (ends_authenticate hheader).mono ?_ fun _ _ h => h
  rintro (e | raw | context) _ ⟨rfl, hraw⟩
  · exact fun u => ⟨_, .onSessions r u (fun _ h => by cases h), trivial⟩
  · exact fun u => ⟨_, .present r raw (hraw raw rfl),
      hkeys (ends_enterWithApiKey raw)⟩
  · refine fun u => ⟨_, .letIn r context, hkeys ?_⟩
    exact fun u => ⟨_, .enterBySession r context, ends_handler r _⟩

/-- A request about the session itself, which lets nobody in. -/
theorem follows_session (c : MerchantSessions.Call) :
    (serve cfg hash (.session c)).Follows (Move hash (.session c)) (fun _ _ => True) .opening := by
  rw [← Prog.ends_anywhere]
  by_cases hrequest : ∃ header, c = .request header
  · obtain ⟨header, rfl⟩ := hrequest
    show Prog.Ends _ _ _ ((MerchantSessions.authenticate cfg header).attempt >>= _).left _
    rw [Prog.bind_left, Prog.ends_bind]
    refine (ends_authenticate rfl).mono ?_ fun _ _ _ => trivial
    rintro (e | raw | context) _ ⟨rfl, hraw⟩
    · exact fun u => ⟨_, .onSessions _ u (fun _ h => by cases h), trivial⟩
    · exact fun u => ⟨_, .present _ raw (hraw raw rfl), trivial⟩
    · exact fun u => ⟨_, .letIn _ context, trivial⟩
  · have hfollows : (MerchantSessions.serve cfg c).Follows (MerchantSessions.Step cfg)
        (fun _ _ => True) (c, .idle) := MerchantSessions.follows_serve c
    rw [← Prog.ends_anywhere] at hfollows
    refine (hfollows.through (G := fun q p => q.1 = c ∧ p = .opening) ⟨rfl, rfl⟩ ?_).mono
      (fun _ _ _ => trivial) fun _ _ _ => trivial
    rintro ⟨c', q⟩ _ e answer ⟨c'', q'⟩ ⟨rfl, rfl⟩ ⟨hsame, hmove⟩
    refine ⟨.opening, .onSessions _ answer ?_, hsame, rfl⟩
    rintro context rfl
    -- only a request to a guarded route is let in
    cases hmove with
    | read reads => exact reads
    | fail fails => exact fails
    | enter header id session merchant => exact hrequest ⟨header, rfl⟩

/-- **A request makes only these moves.** -/
theorem follows_serve (r : Request) :
    (serve cfg hash r).Follows (Step hash) (fun _ _ => True) (r, .opening) := by
  refine follows_step (Q := fun _ _ => True) ?_
  cases r with
  | session c => exact follows_session c
  | rotate header generated => exact follows_serveGuarded rfl
  | create header name scopes generated => exact follows_serveGuarded rfl
  | delete header id => exact follows_serveGuarded rfl
  | other header requiredScopes => exact follows_serveGuarded rfl

end

end Paymap.Api.Credentials
