import Paymap.Api.KeySteps
import Paymap.Api.SessionsOver

set_option autoImplicit false

/-! # The authority of API keys

In every run a key goes back to a signature of the wallet of its merchant, through keys that may manage
keys (`keys_go_back_to_signatures`), and who is served by a route presents the token of a session or a
key with the scopes that the route asks for (`served_with_authority`).

The sessions are those of `MerchantSessions`, whose runs are what is seen of those here (`looks_run`).
-/

namespace Paymap.Api.Credentials

open Relayer (Time Uuid)
open ApiKeys (ApiKey GeneratedApiKey RotatedApiKey)
open Locks (Kept)

/-! ## Runs -/

section

variable {cfg : MerchantSessions.Config} {hash : String → String} {s : System}
  {Inv : Shared → List (Request × Stage) → Prop}

theorem exec_outside (a : Action) (hrequest : ∀ r, a ≠ .request r)
    (hwork : ∀ worker outcome, a ≠ .work worker outcome) :
    exec cfg hash s a = s.outside fun shared => outsideEffect shared a := by
  cases a with
  | request r => exact absurd rfl (hrequest r)
  | work worker outcome => exact absurd rfl (hwork worker outcome)
  | _ => rfl

/-- A request does nothing while it waits or when it is done. -/
theorem exec_work (cfg : MerchantSessions.Config) (s : System) (worker : ℕ) (outcome : Outcome) :
    exec cfg hash s (.work worker outcome) = s ∨ ∃ e k, s.running[worker]? = some (.call e k) ∧
      waits s.shared worker e = false ∧
      exec cfg hash s (.work worker outcome) = s.work (perform worker outcome) worker := by
  unfold exec
  dsimp only
  split
  · rename_i e k hw
    split_ifs with hwaits
    · exact .inl rfl
    · exact .inr ⟨e, k, hw, Bool.eq_false_of_not_eq_true hwaits, rfl⟩
  · exact .inl rfl

/-- What arrivals, moves of requests and everything else keep is kept by every action. -/
theorem tracked_exec
    (harrive : ∀ shared phases r, Inv shared phases → Inv (arrive r shared) (phases ++ [(r, .opening)]))
    (hmove : ∀ shared phases i outcome r p e p', Inv shared phases → phases[i]? = some (r, p) →
      waits shared i e = false → Move hash r p e (perform i outcome e shared).1 p' →
      Inv (perform i outcome e shared).2 (phases.set i (r, p')))
    (houtside : ∀ shared phases a, Inv shared phases → Inv (outsideEffect shared a) phases)
    (a : Action) (h : Workers.Tracked (Step hash) Inv s) :
    Workers.Tracked (Step hash) Inv (exec cfg hash s a) := by
  by_cases hrequest : ∃ r, a = .request r
  · obtain ⟨r, rfl⟩ := hrequest
    obtain ⟨phases, hin, hinv⟩ := h
    have harrived : Workers.Tracked (Step hash)
        (fun shared phases' => shared = arrive r s.shared ∧ Inv s.shared phases')
        (s.outside (arrive r)) := ⟨phases, hin, rfl, hinv⟩
    exact harrived.start_to (follows_serve r) fun phases' hinv' =>
      hinv'.1 ▸ harrive s.shared phases' r hinv'.2
  · by_cases hwork : ∃ worker outcome, a = .work worker outcome
    · obtain ⟨worker, outcome, rfl⟩ := hwork
      rcases exec_work cfg s worker outcome with hsame | ⟨e, k, hw, hwaits, hdone⟩
      · rw [hsame]
        exact h
      · rw [hdone]
        refine h.work fun phases p e' k' p' hinv hp hw' hstep => ?_
        cases hw.symm.trans hw'
        obtain ⟨r, p⟩ := p
        obtain ⟨r', p'⟩ := p'
        obtain ⟨rfl, hstep⟩ := hstep
        exact hmove _ _ _ _ _ _ _ _ hinv hp hwaits hstep
    · rw [exec_outside a (fun r hr => hrequest ⟨r, hr⟩) fun worker outcome hw =>
        hwork ⟨worker, outcome, hw⟩]
      exact h.outside fun phases _ hinv => houtside _ _ a hinv

end

/-! ## The invariant in every run -/

section

variable {hash : String → String} {s : Shared} {phases : List (Request × Stage)}

theorem grows_arrive (r : Request) (s : Shared) : s.Grows (arrive r s) where
  keys := kept_refl _
  issues _ hissue := hissue
  rotations _ hrotation := hrotation
  requests i r' hr' := by
    have hlt : i < s.2.requests.length := (List.getElem?_eq_some_iff.mp hr').1
    exact (List.getElem?_append_left hlt).trans hr'
  sessions _ _ hj := hj

theorem Sound.arrive (h : Sound hash s phases) (r : Request) :
    Sound hash (arrive r s) (phases ++ [(r, .opening)]) where
  requests := by
    rw [List.map_append, ← h.requests]
    rfl
  calls := by
    show s.1.calls ++ [r.call] = (s.2.requests ++ [r]).map Request.call
    rw [List.map_append, h.calls]
    rfl
  admitted i context hi := by
    have hlt := h.admitted i context hi
    rw [List.length_append]
    omega
  table := h.table
  transactions i t ht := (h.transactions i t ht).mono (grows_arrive r s)
  lineage id key hkey := by
    obtain ⟨sessionId, hdescends⟩ := h.lineage id key hkey
    exact ⟨sessionId, hdescends.mono (grows_arrive r s)⟩
  authority parent id hmade := by
    obtain ⟨merchantId, hmanages⟩ := h.authority parent id hmade
    exact ⟨merchantId, hmanages.mono (grows_arrive r s)⟩
  entered i context hi := (h.entered i context hi).mono (grows_arrive r s)
  told i response hi := (h.told i response hi).mono (grows_arrive r s)
  fits i r' p hp := by
    rw [List.getElem?_append] at hp
    split_ifs at hp with hlt
    · exact (h.fits i r' p hp).mono (grows_arrive r s) ⟨id, fun _ => id⟩
    · obtain ⟨-, rfl⟩ := Prod.mk.inj (List.mem_singleton.mp (List.mem_of_getElem? hp))
      -- nobody that has not come yet is let in
      show s.1.entered.lookup i = none
      rw [Option.eq_none_iff_forall_not_mem]
      exact fun context hcontext => hlt (h.admitted i context hcontext)

theorem frame_outside (s : MerchantSessions.Shared) (a : MerchantSessions.Action) :
    (MerchantSessions.outsideEffect s a).calls = s.calls ∧
      (MerchantSessions.outsideEffect s a).entered = s.entered := by
  cases a with
  | createMerchant id merchant =>
      unfold MerchantSessions.outsideEffect
      dsimp only
      split_ifs <;> exact ⟨rfl, rfl⟩
  | _ => exact ⟨rfl, rfl⟩

/-- What is done outside the requests writes no key. -/
theorem outside_leads (h : Sound hash s phases) (a : Action) (i : ℕ) :
    Leads hash s (outsideEffect s a) i ∧ ∀ j, Apart s (outsideEffect s a) j := by
  obtain ⟨hcalls, hentered⟩ := frame_outside s.1 a.onSessions
  have hsessions : ∀ j, Leads hash s (MerchantSessions.outsideEffect s.1 a.onSessions, s.2) j := by
    refine fun j => h.sessions hcalls (fun k context hk => .inr ?_) fun k context hk => ?_
    · exact hentered ▸ hk
    · exact hentered ▸ hk
  have hapart : ∀ j, Apart s (MerchantSessions.outsideEffect s.1 a.onSessions, s.2) j := fun j =>
    ⟨fun hnone => (congrArg (fun entered => entered.lookup j) hentered).trans hnone, fun _ => id⟩
  by_cases habort : ∃ worker, a = .abort worker
  · obtain ⟨worker, rfl⟩ := habort
    refine ⟨?_, fun j => ⟨id, fun t ht => (ApiKeys.Shared.layer.lookup_abort ht).2⟩⟩
    exact
      { hsessions i with
        grows := Shared.grows_of_keys_eq rfl rfl rfl rfl hentered
        apart := fun j _ => ⟨id, fun t ht => (ApiKeys.Shared.layer.lookup_abort ht).2⟩
        table := h.table.abort worker
        transactions := fun j t ht => h.transactions j t (ApiKeys.Shared.layer.lookup_abort ht).2
        lineage := fun id key hkey => .inl ⟨key, hkey, key.becomes_refl⟩
        authority := fun parent id hmade => .inl hmade
        entered := fun j context hj => .inl hj
        told := fun j response hj => .inl hj }
  · have hsame : outsideEffect s a = (MerchantSessions.outsideEffect s.1 a.onSessions, s.2) := by
      cases a with
      | abort worker => exact absurd ⟨worker, rfl⟩ habort
      | _ => rfl
    rw [hsame]
    exact ⟨hsessions i, hapart⟩

theorem Sound.outside (h : Sound hash s phases) (a : Action) :
    Sound hash (outsideEffect s a) phases := by
  obtain ⟨hleads, hapart⟩ := outside_leads h a phases.length
  refine h.lead hleads rfl (fun context hj => ?_) fun j r p hp =>
    (h.fits j r p hp).mono hleads.grows (hapart j)
  have hentered : (outsideEffect s a).1.entered = s.1.entered := by
    cases a with
    | abort worker => rfl
    | _ => exact (frame_outside s.1 _).2
  rw [hentered] at hj
  exact h.admitted _ context hj

abbrev Tracked (hash : String → String) (s : System) : Prop :=
  Workers.Tracked (Step hash) (Sound hash) s

theorem tracked_initial (hash : String → String) : Tracked hash initial := by
  refine ⟨[], ⟨rfl, fun hp => by cases hp⟩, ?_⟩
  exact
    { requests := rfl
      calls := rfl
      admitted := fun i context hi => by cases hi
      table :=
        { hashes := fun id id' key key' hkey => by cases hkey
          exclusive := Locks.exclusive_empty
          fresh := fun i t ht => by cases ht }
      transactions := fun i t ht => by cases ht
      lineage := fun id key hkey => by cases hkey
      authority := fun parent id hmade => by
        rcases hmade with hissued | hrotated
        · cases hissued
        · cases hrotated
      entered := fun i context hi => by cases hi
      told := fun i response hi => by cases hi
      fits := fun i r p hp => by cases hp }

theorem tracked_run (cfg : MerchantSessions.Config) {s : System} (h : Tracked hash s)
    (actions : List Action) : Tracked hash (run cfg hash s actions) := by
  refine Runs.run_invariant (P := Tracked hash) (fun _ a hs => tracked_exec ?_ ?_ ?_ a hs) h actions
  · exact fun shared phases r hsound => hsound.arrive r
  · intro shared phases i outcome r p e p' hsound hp hwaits hmove
    obtain ⟨hleads, hfits⟩ := hsound.move hp hwaits hmove
    exact hsound.step hp hleads hfits
  · exact fun shared phases a hsound => hsound.outside a

end

/-! ## What is seen of it on the sessions -/

section

variable {s : System}

theorem looks_exec (cfg : MerchantSessions.Config) (hash : String → String)
    {d : MerchantSessions.System} (h : s.Looks d) (a : Action) :
    (exec cfg hash s a).Looks (MerchantSessions.exec cfg d a.onSessions) ∨
      (exec cfg hash s a).Looks d := by
  by_cases hrequest : ∃ r, a = .request r
  · obtain ⟨r, rfl⟩ := hrequest
    exact .inl ((h.outside rfl).start (seen_serve r))
  · by_cases hwork : ∃ worker outcome, a = .work worker outcome
    · obtain ⟨worker, outcome, rfl⟩ := hwork
      rcases exec_work cfg s worker outcome with hsame | ⟨e, k, hw, hwaits, hdone⟩
      · rw [hsame]
        exact .inr h
      · rw [hdone]
        cases e with
        | inr e => exact .inr (h.work_right hw rfl)
        | inl e =>
            obtain ⟨⟨k', hw'⟩, hlooks⟩ : (∃ k', d.running[worker]? = some (.call e k')) ∧
                (s.work (perform worker outcome) worker).Looks
                  (d.work (MerchantSessions.perform worker (onSessions outcome)) worker) :=
              h.work_left hw rfl
            have hgoes : MerchantSessions.exec cfg d (.work worker (onSessions outcome)) =
                d.work (MerchantSessions.perform worker (onSessions outcome)) worker := by
              have hfree : d.shared.waits worker e = false := h.shared_eq ▸ hwaits
              unfold MerchantSessions.exec
              simp only [hw', hfree, Bool.false_eq_true, if_false]
            exact .inl (hgoes.symm ▸ hlooks)
    · rw [exec_outside a (fun r hr => hrequest ⟨r, hr⟩) fun worker outcome hw =>
        hwork ⟨worker, outcome, hw⟩]
      have hseen : MerchantSessions.exec cfg d a.onSessions =
          d.outside fun shared => MerchantSessions.outsideEffect shared a.onSessions := by
        cases a with
        | request r => exact absurd ⟨r, rfl⟩ hrequest
        | work worker outcome => exact absurd ⟨worker, outcome, rfl⟩ hwork
        | _ => rfl
      rw [hseen]
      refine .inl (h.outside ?_)
      cases a <;> rfl

/-- **The sessions of a run are those of a run of `MerchantSessions`.** -/
theorem looks_run (cfg : MerchantSessions.Config) (hash : String → String) (actions : List Action) :
    ∃ seen, (run cfg hash initial actions).Looks
      (MerchantSessions.run cfg MerchantSessions.initial seen) := by
  refine Runs.run_invariant (P := fun s : System => ∃ seen, s.Looks
    (MerchantSessions.run cfg MerchantSessions.initial seen)) (fun s a hs => ?_) ⟨[], ?_⟩ actions
  · obtain ⟨seen, hlooks⟩ := hs
    rcases looks_exec cfg hash hlooks a with hstep | hstay
    · have hrun : MerchantSessions.run cfg MerchantSessions.initial (seen ++ [a.onSessions]) =
          MerchantSessions.exec cfg (MerchantSessions.run cfg MerchantSessions.initial seen)
            a.onSessions := Runs.run_concat _ _ _
      exact ⟨seen ++ [a.onSessions], hrun.symm ▸ hstep⟩
    · exact ⟨seen, hstay⟩
  · exact ⟨rfl, rfl, fun i x y hx => by cases hx⟩

theorem sessions_tracked (cfg : MerchantSessions.Config) (hash : String → String)
    (actions : List Action) :
    ∃ phases, MerchantSessions.Sound cfg (run cfg hash initial actions).shared.1 phases := by
  obtain ⟨seen, hlooks⟩ := looks_run cfg hash actions
  obtain ⟨phases, -, hsound⟩ :=
    MerchantSessions.tracked_run (MerchantSessions.tracked_initial cfg) seen
  exact ⟨phases, hlooks.shared_eq ▸ hsound⟩

end

/-! ## Where keys come from -/

section

variable {cfg : MerchantSessions.Config} {hash : String → String}

namespace Shared

/-- The session goes back to a signature of the wallet of the merchant. -/
def SignedFor (cfg : MerchantSessions.Config) (s : Shared) (sessionId merchantId : Uuid) : Prop :=
  ∃ session login, s.1.tables.sessions.lookup sessionId = some session ∧ login ∈ s.1.logins ∧
    login.sessionId = sessionId ∧ s.1.SignedIn cfg login session ∧
    s.1.tables.Owns merchantId session.walletAddress

theorem signedFor_of_entered {s : Shared}
    {calls : List (MerchantSessions.Call × MerchantSessions.Stage)}
    (h : MerchantSessions.Sound cfg s.1 calls) {i : ℕ} {sessionId merchantId : Uuid}
    (hentered : s.1.entered.lookup i = some ⟨sessionId, merchantId⟩) :
    s.SignedFor cfg sessionId merchantId := by
  obtain ⟨c, raw, session, -, -, hlookup, -, howns⟩ := h.entered i _ hentered
  obtain ⟨login, hlogin, rfl⟩ := h.history.traced sessionId session hlookup
  exact ⟨session, login, hlookup, hlogin, rfl, h.history.signedIn hlogin hlookup, howns⟩

/-- At the root is a request that was let in by the session. -/
theorem Descends.root {s : Shared} {merchantId sessionId id : Uuid}
    (h : s.Descends merchantId sessionId id) :
    ∃ i, s.1.entered.lookup i = some ⟨sessionId, merchantId⟩ := by
  induction h with
  | issued entered issue => exact ⟨_, entered⟩
  | made _ _ _ ih => exact ih
  | rotated _ _ _ ih => exact ih

end Shared

/-- **Every API key goes back to a signature**, in every run: a request in a session of the wallet that
owns its merchant has made it, or a key of this merchant that may manage keys, and that goes back to such a
session, was used to make it or was replaced by it. A key that may not manage keys is never behind another
one, and two keys never have one hash. -/
theorem keys_go_back_to_signatures (cfg : MerchantSessions.Config) (hash : String → String)
    (actions : List Action) :
    let s := (run cfg hash initial actions).shared
    (∀ id key, s.2.table.keys.lookup id = some key →
      ∃ sessionId, s.Descends key.merchantId sessionId id ∧
        s.SignedFor cfg sessionId key.merchantId) ∧
    (∀ parent id, (.apiKey parent, id) ∈ s.2.issues ∨ (parent, id) ∈ s.2.table.rotations →
      ∃ merchantId, s.Manages merchantId parent) ∧
    ∀ id id' key key', s.2.table.keys.lookup id = some key → s.2.table.keys.lookup id' = some key' →
      key.keyHash = key'.keyHash → id = id' := by
  intro s
  obtain ⟨phases, -, hsound⟩ := tracked_run cfg (tracked_initial hash) actions
  obtain ⟨calls, hsessions⟩ := sessions_tracked cfg hash actions
  refine ⟨fun id key hkey => ?_, hsound.authority, hsound.table.hashes⟩
  obtain ⟨sessionId, hdescends⟩ := hsound.lineage id key hkey
  obtain ⟨i, hentered⟩ := hdescends.root
  exact ⟨sessionId, hdescends, Shared.signedFor_of_entered hsessions hentered⟩

namespace Shared

/-- What the request presents is the token of the session, or the key, which has the scopes that the
route asks for. -/
def Presents (cfg : MerchantSessions.Config) (hash : String → String) (s : Shared) (r : Request)
    (context : Context) : Prop :=
  ∃ raw, r.call.credential = some raw ∧
    match context.credential with
    | .session sessionId => ∃ session, s.1.tables.sessions.lookup sessionId = some session ∧
        session.tokenHash = cfg.sessionHash raw ∧
        s.1.tables.Owns context.merchantId session.walletAddress
    | .apiKey id => ∃ key, s.2.table.keys.lookup id = some key ∧ key.keyHash = hash raw ∧
        key.merchantId = context.merchantId ∧ ∀ scope ∈ r.requiredScopes, scope ∈ key.scopes

end Shared

/-- **A route is entered only with the authority of the wallet** of the merchant, in every run: with the
token of a session of this wallet, or with a key of the merchant that has the scopes of the route; either
way the wallet has signed in. -/
theorem served_with_authority (cfg : MerchantSessions.Config) (hash : String → String)
    (actions : List Action) :
    let s := (run cfg hash initial actions).shared
    (∀ i context, s.2.entered.lookup i = some context →
      (∃ r, s.2.requests[i]? = some r ∧ s.Presents cfg hash r context) ∧
      ∃ sessionId, s.SignedFor cfg sessionId context.merchantId) ∧
    ∀ i response, s.2.replies.lookup i = some (.ok response) → s.Bears response := by
  intro s
  obtain ⟨phases, -, hsound⟩ := tracked_run cfg (tracked_initial hash) actions
  obtain ⟨calls, hsessions⟩ := sessions_tracked cfg hash actions
  refine ⟨fun i context hentered => ?_, hsound.told⟩
  obtain ⟨r, hr, hacts⟩ := hsound.entered i context hentered
  obtain ⟨merchantId, id | sessionId⟩ := context
  · obtain ⟨raw, key, hraw, hkey, hhash, rfl, hscopes⟩ := hacts
    refine ⟨⟨r, hr, raw, hraw, key, hkey, hhash, rfl, hscopes⟩, ?_⟩
    obtain ⟨sessionId, hdescends⟩ := hsound.lineage id key hkey
    obtain ⟨j, hroot⟩ := hdescends.root
    exact ⟨sessionId, Shared.signedFor_of_entered hsessions hroot⟩
  · obtain ⟨c, raw, session, hcall, hraw, hlookup, htoken, howns⟩ := hsessions.entered i _ hacts
    refine ⟨⟨r, hr, raw, ?_, session, hlookup, htoken, howns⟩, sessionId,
      Shared.signedFor_of_entered hsessions hacts⟩
    -- the call is the one of the request
    rw [hsound.calls, List.getElem?_map, hr] at hcall
    obtain rfl := Option.some.inj hcall
    exact hraw

end

end Paymap.Api.Credentials
