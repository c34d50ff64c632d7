import Paymap.Api.KeyMoves
import Paymap.Api.KeyTables

set_option autoImplicit false

/-! # Where API keys come from

Every key goes back to a session (`Descends`): a request that has entered a route with the session has
made it, or a request with a key that may manage keys has made it, or has put it in the place of such a
key; all of them belong to one merchant. This is part of the invariant of the runs (`Sound`), with what a
request is served with (`Acts`) and what its stage knows of the tables (`Stage.Fits`).
-/

namespace Paymap.Api.Credentials

open Relayer (Time Uuid)
open ApiKeys (ApiKey GeneratedApiKey RotatedApiKey Candidate Transaction)
open Locks (Kept)

/-! ## Lineage -/

namespace Shared

/-- The key belongs to the merchant, and may manage keys. -/
def Manages (s : Shared) (merchantId id : Uuid) : Prop :=
  ∃ key, s.2.table.keys.lookup id = some key ∧ key.merchantId = merchantId ∧
    "api_keys:manage" ∈ key.scopes

/-- The key goes back to the session, in which a request was served as the merchant. -/
inductive Descends (s : Shared) (merchantId sessionId : Uuid) : Uuid → Prop where
  | issued {i : ℕ} {id : Uuid} (entered : s.1.entered.lookup i = some ⟨sessionId, merchantId⟩)
      (issue : (.session sessionId, id) ∈ s.2.issues) : Descends s merchantId sessionId id
  | made {parent id : Uuid} (descends : Descends s merchantId sessionId parent)
      (manages : s.Manages merchantId parent) (issue : (.apiKey parent, id) ∈ s.2.issues) :
      Descends s merchantId sessionId id
  | rotated {parent id : Uuid} (descends : Descends s merchantId sessionId parent)
      (manages : s.Manages merchantId parent) (rotation : (parent, id) ∈ s.2.table.rotations) :
      Descends s merchantId sessionId id

/-- The request is served with this credential, as this merchant. -/
def Acts (hash : String → String) (s : Shared) (i : ℕ) (context : Context) : Prop :=
  ∃ r, s.2.requests[i]? = some r ∧
    match context.credential with
    | .session sessionId => s.1.entered.lookup i = some ⟨sessionId, context.merchantId⟩
    | .apiKey id => ∃ raw key, r.call.credential = some raw ∧
        s.2.table.keys.lookup id = some key ∧ key.keyHash = hash raw ∧
        key.merchantId = context.merchantId ∧ ∀ scope ∈ r.requiredScopes, scope ∈ key.scopes

def IsRevoked (s : Shared) (id : Uuid) : Prop :=
  ∃ key, s.2.table.keys.lookup id = some key ∧ key.status = .revoked

/-- The response speaks of a key that is revoked. -/
def Bears (s : Shared) : Response → Prop
  | .revoked id => s.IsRevoked id
  | .rotated rotated => s.IsRevoked rotated.revokedApiKeyId
  | _ => True

/-- The request is one to replace the key it presents. -/
def Replaces (s : Shared) (i : ℕ) : Prop :=
  ∃ header generated, s.2.requests[i]? = some (.rotate header generated)

/-- The transaction of the request has done this, unless it is aborted. -/
def Doing (s : Shared) (i : ℕ) (t : Transaction) : Prop :=
  ∀ t', s.2.table.transactions.lookup i = some t' → t' = t

/-! ### What stays -/

/-- Nothing of it is lost. -/
structure Grows (s s' : Shared) : Prop where
  keys : Kept ApiKey.Becomes s.2.table.keys s'.2.table.keys
  issues : ∀ issue ∈ s.2.issues, issue ∈ s'.2.issues
  rotations : ∀ rotation ∈ s.2.table.rotations, rotation ∈ s'.2.table.rotations
  requests : ∀ (i : ℕ) (r : Request), s.2.requests[i]? = some r → s'.2.requests[i]? = some r
  sessions : ∀ i context, s.1.entered.lookup i = some context → s'.1.entered.lookup i = some context

section

variable {s s' : Shared} {hash : String → String} {merchantId sessionId id : Uuid} {i : ℕ}

theorem grows_of_keys_eq (hkeys : s'.2.table.keys = s.2.table.keys)
    (hissues : s'.2.issues = s.2.issues) (hrotations : s'.2.table.rotations = s.2.table.rotations)
    (hrequests : s'.2.requests = s.2.requests) (hentered : s'.1.entered = s.1.entered) :
    s.Grows s' where
  keys := hkeys ▸ Kept.refl ApiKey.becomes_refl _
  issues _ hissue := hissues ▸ hissue
  rotations _ hrotation := hrotations ▸ hrotation
  requests _ _ hr := hrequests ▸ hr
  sessions _ _ hj := hentered ▸ hj

theorem Manages.mono (h : s.Grows s') (hmanages : s.Manages merchantId id) :
    s'.Manages merchantId id := by
  obtain ⟨key, hkey, hmerchant, hscope⟩ := hmanages
  obtain ⟨key', hkey', hbecomes⟩ := h.keys id key hkey
  exact ⟨key', hkey', hbecomes.merchantId.trans hmerchant, hbecomes.scopes ▸ hscope⟩

theorem Descends.mono (h : s.Grows s') (hdescends : s.Descends merchantId sessionId id) :
    s'.Descends merchantId sessionId id := by
  induction hdescends with
  | issued entered issue => exact .issued (h.sessions _ _ entered) (h.issues _ issue)
  | made _ manages issue ih => exact .made ih (manages.mono h) (h.issues _ issue)
  | rotated _ manages rotation ih => exact .rotated ih (manages.mono h) (h.rotations _ rotation)

theorem Acts.mono (h : s.Grows s') {context : Context} (hacts : s.Acts hash i context) :
    s'.Acts hash i context := by
  obtain ⟨merchantId, id | id⟩ := context
  · obtain ⟨r, hr, raw, key, hraw, hkey, hhash, hmerchant, hscopes⟩ := hacts
    obtain ⟨key', hkey', hbecomes⟩ := h.keys id key hkey
    exact ⟨r, h.requests i r hr, raw, key', hraw, hkey', hbecomes.keyHash.trans hhash,
      hbecomes.merchantId.trans hmerchant, hbecomes.scopes ▸ hscopes⟩
  · obtain ⟨r, hr, hentered⟩ := hacts
    exact ⟨r, h.requests i r hr, h.sessions i _ hentered⟩

/-- A key that a request to a route of keys is served with may manage keys. -/
theorem Acts.manages (hacts : s.Acts hash i ⟨merchantId, .apiKey id⟩) {r : Request}
    (hr : s.2.requests[i]? = some r) (hscopes : r.requiredScopes = ApiKeys.requiredScopes) :
    s.Manages merchantId id := by
  obtain ⟨r', hr', raw, key, hraw, hkey, hhash, hmerchant, hscope⟩ := hacts
  obtain rfl := Option.some.inj (hr.symm.trans hr')
  rw [hscopes] at hscope
  exact ⟨key, hkey, hmerchant, hscope _ (List.mem_singleton_self _)⟩

theorem IsRevoked.mono (h : s.Grows s') (hrevoked : s.IsRevoked id) : s'.IsRevoked id := by
  obtain ⟨key, hkey, hstatus⟩ := hrevoked
  obtain ⟨key', hkey', hbecomes⟩ := h.keys id key hkey
  exact ⟨key', hkey', hbecomes.revoked hstatus⟩

theorem Replaces.mono (h : s.Grows s') (hreplaces : s.Replaces i) : s'.Replaces i := by
  obtain ⟨header, generated, hr⟩ := hreplaces
  exact ⟨header, generated, h.requests i _ hr⟩

theorem bears_of_plain (s : Shared) {response : Response} (plain : response.Plain) :
    s.Bears response := by
  cases response with
  | handled => trivial
  | created apiKeyId name scopes apiKey => trivial
  | rotated rotated => exact False.elim plain
  | revoked id => exact False.elim plain

theorem Bears.mono (h : s.Grows s') {response : Response} (hbears : s.Bears response) :
    s'.Bears response := by
  cases response with
  | revoked id => exact IsRevoked.mono h hbears
  | rotated rotated => exact IsRevoked.mono h hbears
  | handled => trivial
  | created apiKeyId name scopes apiKey => trivial

end

end Shared

/-! ## What a stage knows -/

def Stage.Fits (hash : String → String) (s : Shared) (i : ℕ) (r : Request) : Stage → Prop
  | .opening => s.1.entered.lookup i = none
  | .admitted context => s.1.entered.lookup i = some context
  | .presented raw => r.call.credential = some raw
  | .known id apiKey => ∃ raw key, r.call.credential = some raw ∧
      s.2.table.keys.lookup id = some key ∧ apiKey.Becomes key ∧ apiKey.keyHash = hash raw
  | .entered context => s.Acts hash i context
  | .begun merchantId id => s.Acts hash i ⟨merchantId, .apiKey id⟩ ∧ s.Doing i .empty
  | .found merchantId id _ => s.Acts hash i ⟨merchantId, .apiKey id⟩ ∧ s.Doing i .empty
  | .replaced merchantId id _ => s.Acts hash i ⟨merchantId, .apiKey id⟩ ∧
      ∃ revokedAt, s.Doing i ⟨some (id, revokedAt), none⟩
  | .made merchantId id current => s.Acts hash i ⟨merchantId, .apiKey id⟩ ∧
      ∀ header generated, r = .rotate header generated → ∃ revokedAt,
        s.Doing i ⟨some (id, revokedAt),
          some (generated.id, ApiKeys.newApiKey hash merchantId current generated)⟩
  | .revoked id => s.IsRevoked id
  | .failing => True
  | .closed => True

/-- What a step leaves as it is, as far as the request `j` is concerned. -/
structure Apart (s s' : Shared) (j : ℕ) : Prop where
  opening : s.1.entered.lookup j = none → s'.1.entered.lookup j = none
  doing : ∀ t, s'.2.table.transactions.lookup j = some t →
    s.2.table.transactions.lookup j = some t

section

variable {s s' : Shared} {hash : String → String} {i : ℕ} {r : Request} {p p' : Stage}
  {phases : List (Request × Stage)}

theorem Stage.Fits.mono (h : s.Grows s') (hapart : Apart s s' i) (hfits : p.Fits hash s i r) :
    p.Fits hash s' i r := by
  have hdoing : ∀ t, s.Doing i t → s'.Doing i t := fun t hdoing t' ht' =>
    hdoing t' (hapart.doing t' ht')
  cases p with
  | opening => exact hapart.opening hfits
  | admitted context => exact h.sessions i context hfits
  | presented raw => exact hfits
  | known id apiKey =>
      obtain ⟨raw, key, hraw, hkey, hbecomes, hhash⟩ := hfits
      obtain ⟨key', hkey', hbecomes'⟩ := h.keys id key hkey
      exact ⟨raw, key', hraw, hkey', hbecomes.trans hbecomes', hhash⟩
  | entered context => exact Shared.Acts.mono h hfits
  | begun merchantId id => exact ⟨hfits.1.mono h, hdoing _ hfits.2⟩
  | found merchantId id current => exact ⟨hfits.1.mono h, hdoing _ hfits.2⟩
  | replaced merchantId id current =>
      obtain ⟨hacts, revokedAt, hdone⟩ := hfits
      exact ⟨hacts.mono h, revokedAt, hdoing _ hdone⟩
  | made merchantId id current =>
      refine ⟨hfits.1.mono h, fun header generated hr => ?_⟩
      obtain ⟨revokedAt, hdone⟩ := hfits.2 header generated hr
      exact ⟨revokedAt, hdoing _ hdone⟩
  | revoked id => exact Shared.IsRevoked.mono h hfits
  | failing => trivial
  | closed => trivial

/-! ## The invariant -/

/-- What holds in every state of a run. -/
structure Sound (hash : String → String) (s : Shared) (phases : List (Request × Stage)) : Prop where
  requests : s.2.requests = phases.map Prod.fst
  calls : s.1.calls = s.2.requests.map Request.call
  admitted : ∀ i context, s.1.entered.lookup i = some context → i < phases.length
  table : s.2.table.Proper
  transactions : ∀ i t, s.2.table.transactions.lookup i = some t → s.Replaces i
  lineage : ∀ id key, s.2.table.keys.lookup id = some key →
    ∃ sessionId, s.Descends key.merchantId sessionId id
  authority : ∀ parent id, (.apiKey parent, id) ∈ s.2.issues ∨ (parent, id) ∈ s.2.table.rotations →
    ∃ merchantId, s.Manages merchantId parent
  entered : ∀ i context, s.2.entered.lookup i = some context → s.Acts hash i context
  told : ∀ i response, s.2.replies.lookup i = some (.ok response) → s.Bears response
  fits : ∀ i r (p : Stage), phases[i]? = some (r, p) → p.Fits hash s i r

/-- What the step of a request leads to. -/
structure Leads (hash : String → String) (s s' : Shared) (i : ℕ) : Prop where
  grows : s.Grows s'
  apart : ∀ j, j ≠ i → Apart s s' j
  requests : s'.2.requests = s.2.requests
  calls : s'.1.calls = s.1.calls
  admitted : ∀ j context, s'.1.entered.lookup j = some context →
    j = i ∨ s.1.entered.lookup j = some context
  table : s'.2.table.Proper
  transactions : ∀ j t, s'.2.table.transactions.lookup j = some t → s'.Replaces j
  lineage : ∀ id key, s'.2.table.keys.lookup id = some key →
    (∃ before, s.2.table.keys.lookup id = some before ∧ before.Becomes key) ∨
      ∃ sessionId, s'.Descends key.merchantId sessionId id
  authority : ∀ parent id,
    (.apiKey parent, id) ∈ s'.2.issues ∨ (parent, id) ∈ s'.2.table.rotations →
    ((.apiKey parent, id) ∈ s.2.issues ∨ (parent, id) ∈ s.2.table.rotations) ∨
      ∃ merchantId, s'.Manages merchantId parent
  entered : ∀ j context, s'.2.entered.lookup j = some context →
    s.2.entered.lookup j = some context ∨ s'.Acts hash j context
  told : ∀ j response, s'.2.replies.lookup j = some (.ok response) →
    s.2.replies.lookup j = some (.ok response) ∨ s'.Bears response

/-- What a step leads to, with stages that fit, keeps the invariant. -/
theorem Sound.lead (h : Sound hash s phases) (hleads : Leads hash s s' i)
    {phases' : List (Request × Stage)} (hphases : phases'.map Prod.fst = phases.map Prod.fst)
    (hadmitted : ∀ context, s'.1.entered.lookup i = some context → i < phases.length)
    (hfits : ∀ j r (p : Stage), phases'[j]? = some (r, p) → p.Fits hash s' j r) :
    Sound hash s' phases' where
  requests := hleads.requests.trans (h.requests.trans hphases.symm)
  calls := by rw [hleads.calls, h.calls, hleads.requests]
  admitted j context hj := by
    have hlength : phases'.length = phases.length := by
      simpa using congrArg List.length hphases
    rw [hlength]
    rcases hleads.admitted j context hj with rfl | hbefore
    · exact hadmitted context hj
    · exact h.admitted j context hbefore
  table := hleads.table
  transactions := hleads.transactions
  lineage id key hkey := by
    rcases hleads.lineage id key hkey with ⟨before, hbefore, hbecomes⟩ | hnew
    · obtain ⟨sessionId, hdescends⟩ := h.lineage id before hbefore
      rw [hbecomes.merchantId]
      exact ⟨sessionId, hdescends.mono hleads.grows⟩
    · exact hnew
  authority parent id hmade := by
    rcases hleads.authority parent id hmade with hbefore | hnew
    · obtain ⟨merchantId, hmanages⟩ := h.authority parent id hbefore
      exact ⟨merchantId, hmanages.mono hleads.grows⟩
    · exact hnew
  entered j context hj := by
    rcases hleads.entered j context hj with hbefore | hnew
    · exact (h.entered j context hbefore).mono hleads.grows
    · exact hnew
  told j response hj := by
    rcases hleads.told j response hj with hbefore | hnew
    · exact (h.told j response hbefore).mono hleads.grows
    · exact hnew
  fits := hfits

/-- **A step keeps the invariant** if it leads on, and the new stage of the request fits. -/
theorem Sound.step (h : Sound hash s phases) (hp : phases[i]? = some (r, p))
    (hleads : Leads hash s s' i) (hfits : p'.Fits hash s' i r) :
    Sound hash s' (phases.set i (r, p')) := by
  refine h.lead hleads (Workers.map_fst_set hp p')
    (fun _ _ => (List.getElem?_eq_some_iff.mp hp).1) fun j r' q hq => ?_
  rcases Workers.getElem?_set_cases hq with ⟨rfl, hsame⟩ | ⟨hj, hold⟩
  · cases hsame
    exact hfits
  · exact (h.fits j r' q hold).mono hleads.grows (hleads.apart j hj)

end

end Paymap.Api.Credentials
