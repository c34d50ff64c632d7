import Paymap.Api.CheckoutSessions
import Paymap.Client.Ids

set_option autoImplicit false

/-! # The decimals of a mandate

Amounts are decimals outside and base units inside, and what converts between them is looked up anew each
time, at the product of a checkout session that the mandate is linked to.

The chain is asked whether a mandate is for the asset of the product, and it knows no decimals. So two
products may count the same asset in different decimals, and a mandate of one may be linked to a session
of the other. A mandate has one meaning in a run exactly when no such link is made (`one_meaning_iff`).
-/

namespace Paymap.Api.Decimals

open Linking (CheckoutSession LinkMandateInput Outcome)
open Registry (Address)
open Relayer (Time Uuid)

/-! ## The routes that write the rows -/

structure State where
  products : FinMap Uuid ProductRow
  linking : Linking.System

/-- The rows of `CheckoutSession`. -/
def State.sessions (s : State) : FinMap String CheckoutSession := s.linking.shared.sessions

/-- The row that `POST /products` makes of a body. It is stored before the response is made of it. -/
def productOf (strKey : String → Option Address) (body : Body) : Except RouteError Product := do
  let input ← (createProductSchema strKey body).elim (.error .zod) .ok
  let product ← toProduct input
  insertProduct product
  return product

/-! ## Runs -/

inductive Action where
  /-- `POST /products` of a merchant, with the id the row is given. -/
  | createProduct (id merchantId : Uuid) (body : Body)
  /-- `POST /checkout-sessions` of a merchant. -/
  | createSession (id : String) (merchantId : Uuid) (now : Time) (input : CreateCheckoutSessionInput)
  /-- `POST /checkout-sessions/:id/mandate`, of anybody. -/
  | link (a : Linking.Action)

/-- What the schema lets through to the route. -/
def admitted : Linking.Action → Prop
  | .call c => Client.IsHexId32 c.input.mandateId
  | .work _ _ => True

instance (a : Linking.Action) : Decidable (admitted a) := by
  cases a with
  | call c => exact inferInstanceAs (Decidable (Client.IsHexId32 _))
  | work worker outcome => exact .isTrue trivial

section

variable (strKey : String → Option Address) (walletAddress : Uuid → Address)

/-- A refused request changes nothing, and neither does a row whose id is taken. -/
def exec (s : State) : Action → State
  | .createProduct id merchantId body =>
      match productOf strKey body, s.products.lookup id with
      | .ok product, none => { s with products := s.products.insert id ⟨merchantId, product⟩ }
      | _, _ => s
  | .createSession id merchantId now input =>
      match checkoutSessionOf s.products merchantId (walletAddress merchantId) now input,
        s.sessions.lookup id with
      | .ok session, none =>
          { s with
            linking := s.linking.outside fun shared =>
              { shared with sessions := shared.sessions.insert id session } }
      | _, _ => s
  | .link a => if admitted a then { s with linking := Linking.exec s.linking a } else s

/-- Nothing is stored. -/
def initial : State := ⟨∅, Linking.initial ∅⟩

end

/-! ## The decimals of a mandate -/

/-- The product of a session. -/
def State.product (s : State) (session : CheckoutSession) : Option Product :=
  (s.products.lookup session.productId).map ProductRow.product

/-! ## Links -/

/-- A session was linked, and its product had these decimals. -/
structure Link where
  sessionId : String
  mandateId : String
  assetDecimals : ℤ

/-- The update of a row, as a step carries it out. -/
structure Update where
  id : String
  input : LinkMandateInput
  /-- The row before. -/
  session : CheckoutSession

/-- The database carries the effect out. -/
def carriedOut : Outcome → Bool
  | .failed _ => false
  | _ => true

/-- The update that the next effect of a call is. -/
def updateBy (s : Linking.Shared) (outcome : Outcome) : Option (Linking.Job Unit) → Option Update
  | some (.call (.updateSession id input) _) =>
      if carriedOut outcome then (s.sessions.lookup id).map (Update.mk id input ·) else none
  | _ => none

def updateOf (s : Linking.System) : Linking.Action → Option Update
  | .call _ => none
  | .work worker outcome => updateBy s.shared outcome s.running[worker]?

def linksBy (s : State) : Option Update → List Link
  | none => []
  | some u =>
      ((s.product u.session).map fun product =>
        Link.mk u.id u.input.mandateId product.assetDecimals).toList

/-- The link that a step makes. -/
def linksOf (s : State) : Action → List Link
  | .link a => linksBy s (updateOf s.linking a)
  | _ => []

/-- The first link of a mandate, however the mandate is spelled. -/
def firstLink (links : List Link) (mandateId : String) : Option Link :=
  links.find? fun l => Client.hexToId l.mandateId = Client.hexToId mandateId

/-- What the decimals of a mandate are is what they were when it was first linked. -/
def OneMeaning (s : State) (links : List Link) : Prop :=
  ∀ choice merchantId mandateId decimals,
    resolveAssetDecimalsForMandate choice s.products s.sessions merchantId mandateId = .ok decimals →
    ∃ first, firstLink links mandateId = some first ∧ first.assetDecimals = decimals

/-- A mandate that was linked before is linked again to a session of a product with the decimals it
was first linked with. -/
def KeepsDecimals (s : State) (links : List Link) (a : Action) : Prop :=
  ∀ l ∈ linksOf s a, ∀ first, firstLink links l.mandateId = some first →
    l.assetDecimals = first.assetDecimals

section

variable {s : State} {merchantId : Uuid} {mandateId : String} {decimals : ℤ}

/-- **What is resolved** is the decimals of a product that the mandate is linked to. -/
theorem resolve_ok {choice : ℕ}
    (h : resolveAssetDecimalsForMandate choice s.products s.sessions merchantId mandateId = .ok decimals) :
    ∃ id session product, s.sessions.lookup id = some session ∧
      session.mandateId = some mandateId ∧ s.product session = some product ∧
      product.assetDecimals = decimals := by
  unfold resolveAssetDecimalsForMandate at h
  cases hfound : findFirst choice (fun row => row.merchantId = merchantId ∧
      row.mandateId = some mandateId) s.sessions with
  | none => rw [hfound] at h; cases h
  | some session =>
      simp only [hfound] at h
      obtain ⟨hmatches, id, hrow⟩ := findFirst_some hfound
      cases hproduct : s.products.lookup session.productId with
      | none => rw [hproduct] at h; cases h
      | some row =>
          rw [hproduct] at h
          cases h
          exact ⟨id, session, row.product, hrow, (of_decide_eq_true hmatches).2,
            congrArg (Option.map _) hproduct, rfl⟩

/-- Every row of the mandate may be the one that its decimals are taken from. -/
theorem exists_resolve {id : String} {session : CheckoutSession} {product : Product}
    (hrow : s.sessions.lookup id = some session) (hlinked : session.mandateId = some mandateId)
    (hproduct : s.product session = some product) :
    ∃ choice, resolveAssetDecimalsForMandate choice s.products s.sessions session.merchantId mandateId
      = .ok product.assetDecimals := by
  obtain ⟨choice, hfound⟩ := exists_findFirst (p := fun row => row.merchantId = session.merchantId ∧
    row.mandateId = some mandateId) hrow (decide_eq_true ⟨rfl, hlinked⟩)
  obtain ⟨row, hstored, rfl⟩ := Option.map_eq_some_iff.mp hproduct
  refine ⟨choice, ?_⟩
  simp only [resolveAssetDecimalsForMandate, hfound, hstored]

end

/-! ## What a step does to the sessions -/

/-- The sessions, once an update has been carried out. -/
def updated (sessions : FinMap String CheckoutSession) : Option Update → FinMap String CheckoutSession
  | none => sessions
  | some u => sessions.insert u.id (u.session.link u.input)

theorem sessions_updateSession (s : Linking.Shared) (id : String) (input : LinkMandateInput) :
    (s.updateSession id input).2.sessions
      = updated s.sessions ((s.sessions.lookup id).map (Update.mk id input ·)) := by
  unfold Linking.Shared.updateSession
  cases s.sessions.lookup id with
  | none => rfl
  | some session => rfl

/-- **The link route** changes the row of an update, and no other one. -/
theorem sessions_exec (s : Linking.System) (a : Linking.Action) :
    (Linking.exec s a).shared.sessions = updated s.shared.sessions (updateOf s a) := by
  cases a with
  | call c => rfl
  | work worker outcome =>
      show (s.work (Linking.perform worker outcome) worker).shared.sessions
        = updated s.shared.sessions (updateBy s.shared outcome s.running[worker]?)
      unfold Workers.work
      cases hw : s.running[worker]? with
      | none => rfl
      | some job =>
          cases job with
          | ret u => rfl
          | raise e => rfl
          | call e k =>
              cases e with
              | updateSession id input =>
                  cases outcome with
                  | failed now => rfl
                  | served now mandate => exact sessions_updateSession s.shared id input
                  | unanswered now => exact sessions_updateSession s.shared id input
              | findSession id => cases outcome <;> rfl
              | now => rfl
              | getMandate mandateId => rfl
              | upsertIndex mandateId row => cases outcome <;> rfl
              | reply result => rfl

/-- What is updated is a row. -/
theorem lookup_of_updateOf {s : Linking.System} {a : Linking.Action} {u : Update}
    (h : updateOf s a = some u) : s.shared.sessions.lookup u.id = some u.session := by
  cases a with
  | call c => cases h
  | work worker outcome =>
      change updateBy s.shared outcome s.running[worker]? = some u at h
      unfold updateBy at h
      split at h
      · split at h
        · obtain ⟨session, hrow, rfl⟩ := Option.map_eq_some_iff.mp h
          exact hrow
        · cases h
      · cases h

/-! ## What a step does -/

/-- A step leaves products and sessions alone, stores a new one of either, or links a session. -/
inductive Change (s s' : State) : List Link → Prop
  | silent (products : s'.products = s.products) (sessions : s'.sessions = s.sessions) : Change s s' []
  | newProduct (id : Uuid) (row : ProductRow) (fresh : s.products.lookup id = none)
      (products : s'.products = s.products.insert id row) (sessions : s'.sessions = s.sessions) :
      Change s s' []
  | newSession (id : String) (session : CheckoutSession) (product : Product)
      (stored : s.product session = some product) (unlinked : session.mandateId = none)
      (products : s'.products = s.products) (sessions : s'.sessions = s.sessions.insert id session) :
      Change s s' []
  | link (u : Update) (row : s.sessions.lookup u.id = some u.session)
      (products : s'.products = s.products)
      (sessions : s'.sessions = s.sessions.insert u.id (u.session.link u.input)) :
      Change s s' (((s.product u.session).map fun product =>
        Link.mk u.id u.input.mandateId product.assetDecimals).toList)

section

variable {strKey : String → Option Address} {walletAddress : Uuid → Address} {s s' : State}
  {links new : List Link} {a : Action}

theorem exec_change (s : State) (a : Action) :
    Change s (exec strKey walletAddress s a) (linksOf s a) := by
  cases a with
  | createProduct id merchantId body =>
      show Change s (match productOf strKey body, s.products.lookup id with
        | .ok product, none => { s with products := s.products.insert id ⟨merchantId, product⟩ }
        | _, _ => s) []
      split
      · rename_i product _ hfresh
        exact .newProduct id ⟨merchantId, product⟩ hfresh rfl rfl
      · exact .silent rfl rfl
  | createSession id merchantId now input =>
      show Change s (match checkoutSessionOf s.products merchantId (walletAddress merchantId) now input,
          s.sessions.lookup id with
        | .ok session, none =>
            { s with
              linking := s.linking.outside fun shared =>
                { shared with sessions := shared.sessions.insert id session } }
        | _, _ => s) []
      split
      · rename_i session hsession _
        obtain ⟨hunlinked, row, hrow⟩ := checkoutSessionOf_ok hsession
        exact .newSession id session row.product (congrArg (Option.map _) hrow) hunlinked rfl rfl
      · exact .silent rfl rfl
  | link a =>
      by_cases hadmitted : admitted a
      · have hexec : exec strKey walletAddress s (.link a)
            = { s with linking := Linking.exec s.linking a } := if_pos hadmitted
        have hsessions := sessions_exec s.linking a
        rw [hexec]
        show Change s _ (linksBy s (updateOf s.linking a))
        cases hupdate : updateOf s.linking a with
        | none =>
            rw [hupdate] at hsessions
            refine .silent rfl ?_
            exact hsessions
        | some u =>
            rw [hupdate] at hsessions
            refine .link u (lookup_of_updateOf hupdate) rfl ?_
            exact hsessions
      · have hexec : exec strKey walletAddress s (.link a) = s := if_neg hadmitted
        rw [hexec]
        cases a with
        | call c => exact .silent rfl rfl
        | work worker outcome => exact absurd trivial hadmitted

/-! ## Every session has its product -/

def Referential (s : State) : Prop :=
  ∀ id session, s.sessions.lookup id = some session → ∃ product, s.product session = some product

/-- The product of a stored session stays. -/
theorem Change.product_eq (h : Change s s' new) {session : CheckoutSession} {product : Product}
    (hproduct : s.product session = some product) : s'.product session = some product := by
  unfold State.product at hproduct ⊢
  cases h with
  | silent products sessions => rwa [products]
  | newSession id session' product' stored unlinked products sessions => rwa [products]
  | link u row products sessions => rwa [products]
  | newProduct id row fresh products sessions =>
      have hne : session.productId ≠ id := by
        intro heq
        rw [heq, fresh] at hproduct
        cases hproduct
      rwa [products, FinMap.lookup_insert, if_neg hne]

theorem Change.referential (h : Change s s' new) (hs : Referential s) : Referential s' := by
  intro id session hrow
  -- it is enough that the row had its product before
  have hkeep : (∃ product, s.product session = some product) →
      ∃ product, s'.product session = some product :=
    fun ⟨product, hproduct⟩ => ⟨product, h.product_eq hproduct⟩
  apply hkeep
  cases h with
  | silent products sessions => exact hs id session (sessions ▸ hrow)
  | newProduct id' row fresh products sessions => exact hs id session (sessions ▸ hrow)
  | newSession id' session' product' stored unlinked products sessions =>
      rw [sessions, FinMap.lookup_insert] at hrow
      split_ifs at hrow
      · cases hrow
        exact ⟨product', stored⟩
      · exact hs id session hrow
  | link u row products sessions =>
      rw [sessions, FinMap.lookup_insert] at hrow
      split_ifs at hrow
      · cases hrow
        exact hs u.id u.session row
      · exact hs id session hrow

/-! ## The first link gives the decimals -/

theorem firstLink_append (new : List Link) (mandateId : String) :
    firstLink (links ++ new) mandateId
      = (firstLink links mandateId).or (firstLink new mandateId) :=
  List.find?_append

/-- Every session of a mandate has the decimals that the mandate was first linked with. -/
def Scaled (s : State) (links : List Link) : Prop :=
  ∀ id session mandateId product, s.sessions.lookup id = some session →
    session.mandateId = some mandateId → s.product session = some product →
    ∃ first, firstLink links mandateId = some first ∧ first.assetDecimals = product.assetDecimals

theorem oneMeaning_iff : OneMeaning s links ↔ Scaled s links := by
  constructor
  · intro h id session mandateId product hrow hlinked hproduct
    obtain ⟨choice, hresolve⟩ := exists_resolve hrow hlinked hproduct
    exact h choice session.merchantId mandateId product.assetDecimals hresolve
  · intro h choice merchantId mandateId decimals hresolve
    obtain ⟨id, session, product, hrow, hlinked, hproduct, rfl⟩ := resolve_ok hresolve
    exact h id session mandateId product hrow hlinked hproduct

/-- A row that was there before still has the decimals of its mandate. -/
theorem Scaled.append (h : Scaled s links) (new : List Link) {id : String} {session : CheckoutSession}
    {mandateId : String} {product : Product} (hrow : s.sessions.lookup id = some session)
    (hlinked : session.mandateId = some mandateId) (hproduct : s.product session = some product) :
    ∃ first, firstLink (links ++ new) mandateId = some first ∧
      first.assetDecimals = product.assetDecimals := by
  obtain ⟨first, hfirst, hdecimals⟩ := h id session mandateId product hrow hlinked hproduct
  refine ⟨first, ?_, hdecimals⟩
  rw [firstLink_append, hfirst]
  rfl

/-- **A step** keeps the decimals of all mandates exactly if it keeps those of the one it links. -/
theorem Change.scaled_iff (h : Change s s' new) (hs : Referential s) (hscaled : Scaled s links) :
    Scaled s' (links ++ new) ↔ ∀ l ∈ new, ∀ first, firstLink links l.mandateId = some first →
      l.assetDecimals = first.assetDecimals := by
  -- a row that was there before is no matter
  have hold : ∀ id session mandateId product, s.sessions.lookup id = some session →
      session.mandateId = some mandateId → s'.product session = some product →
      ∃ first, firstLink (links ++ new) mandateId = some first ∧
        first.assetDecimals = product.assetDecimals := by
    intro id session mandateId product hrow hlinked hproduct
    obtain ⟨product', hproduct'⟩ := hs id session hrow
    have hsame : product' = product := Option.some.inj ((h.product_eq hproduct').symm.trans hproduct)
    rw [hsame] at hproduct'
    exact hscaled.append new hrow hlinked hproduct'
  cases hkind : h with
  | silent products sessions =>
      refine iff_of_true (fun id session mandateId product hrow => ?_) (by simp)
      exact hold id session mandateId product (sessions ▸ hrow)
  | newProduct id' row fresh products sessions =>
      refine iff_of_true (fun id session mandateId product hrow => ?_) (by simp)
      exact hold id session mandateId product (sessions ▸ hrow)
  | newSession id' session' product' stored unlinked products sessions =>
      refine iff_of_true (fun id session mandateId product hrow hlinked => ?_) (by simp)
      rw [sessions, FinMap.lookup_insert] at hrow
      split_ifs at hrow
      · cases hrow
        rw [unlinked] at hlinked
        cases hlinked
      · exact hold id session mandateId product hrow hlinked
  | link u row products sessions =>
      obtain ⟨product', hproduct'⟩ := hs u.id u.session row
      have hafter : s'.product (u.session.link u.input) = some product' := h.product_eq hproduct'
      rw [hproduct'] at hold ⊢
      simp only [Option.map_some, Option.toList_some, List.mem_singleton, forall_eq] at hold ⊢
      have hlast : firstLink (links ++ [⟨u.id, u.input.mandateId, product'.assetDecimals⟩])
          u.input.mandateId = (firstLink links u.input.mandateId).or
            (some ⟨u.id, u.input.mandateId, product'.assetDecimals⟩) := by
        rw [firstLink_append]
        congr 1
        simp [firstLink]
      constructor
      · intro hscaled' first hfirst
        have hrow' : s'.sessions.lookup u.id = some (u.session.link u.input) := by
          rw [sessions, FinMap.lookup_insert, if_pos rfl]
        obtain ⟨first', hfirst', hdecimals⟩ := hscaled' u.id _ u.input.mandateId product' hrow' rfl hafter
        rw [hlast, hfirst] at hfirst'
        cases hfirst'
        exact hdecimals.symm
      · intro hkeeps id session mandateId product hrow hlinked hproduct
        rw [sessions, FinMap.lookup_insert] at hrow
        split_ifs at hrow
        · cases hrow
          cases hlinked
          cases hafter.symm.trans hproduct
          rw [hlast]
          cases hfirst : firstLink links u.input.mandateId with
          | none => exact ⟨_, rfl, rfl⟩
          | some first => exact ⟨first, rfl, (hkeeps first hfirst).symm⟩
        · exact hold id session mandateId product hrow hlinked hproduct

end

/-- **A mandate has one meaning**: in a run, the decimals that are resolved for a mandate are always those
of the product of the session that it was first linked to, exactly when each later link of a mandate is to
a session of a product with the same decimals. -/
theorem one_meaning_iff (strKey : String → Option Address) (walletAddress : Uuid → Address)
    (actions : List Action) :
    (∀ earlier later, actions = earlier ++ later →
      OneMeaning (Runs.run (Runs.noting (exec strKey walletAddress) linksOf) (initial, []) earlier).1
        (Runs.run (Runs.noting (exec strKey walletAddress) linksOf) (initial, []) earlier).2) ↔
    ∀ q ∈ Runs.trace (Runs.noting (exec strKey walletAddress) linksOf) (initial, []) actions,
      KeepsDecimals q.1.1 q.1.2 q.2 := by
  refine Runs.prefixes_iff_along (I := fun q : State × List Link => Referential q.1)
    (P := fun q => OneMeaning q.1 q.2) (C := fun q a => KeepsDecimals q.1 q.2 a) ?_ ?_ ?_ ?_
  · exact fun q a hs => (exec_change q.1 a).referential hs
  · intro q a hs hmeaning
    exact oneMeaning_iff.trans ((exec_change q.1 a).scaled_iff hs (oneMeaning_iff.mp hmeaning))
  · exact fun id session hrow => by cases hrow
  · exact oneMeaning_iff.mpr fun id session mandateId product hrow => by cases hrow

/-! ## Two products for one asset

A merchant sells in seven decimals of an asset, and then in two, and somebody who has paid for a
session of the first product reports the mandate for one of the second product, too. -/

def assetText : String := "CDLZFC3SYJYDZT7K67VZ75HPJVIEUVNIXF47ZG2FB2RMQQVU2HHGCYSC"

def mockStrKey (text : String) : Option Address := if text = assetText then some ⟨3⟩ else none

def productFields (assetDecimals : ℚ) : List (String × Json) :=
  [("name", .string "Plan"), ("assetAddress", .string assetText),
    ("assetDecimals", .number assetDecimals), ("amountType", .string "fixed"),
    ("fixedAmount", .string "5"), ("maxPerPeriod", .string "5"), ("periodSeconds", .number 100),
    ("minIntervalSeconds", .number 10), ("maxSuccessfulCharges", .number 3),
    ("defaultDurationSeconds", .number 1000)]

def productBody (assetDecimals : ℚ) : Body := fun field => (productFields assetDecimals).lookup field

def mandateText : String := Client.idToHex Registry.mockId

/-- The mandate is linked to the session, by the call with this number. -/
def linkedTo (worker : ℕ) (id : String) : List Action :=
  .link (.call ⟨id, mandateText, ⟨1⟩⟩) ::
    List.replicate 7 (.link (.work worker (.served 0 (.read (Linking.mandateOfPayer ⟨1⟩)))))

def twoProducts : List Action :=
  [.createProduct 1 1 (productBody 7), .createProduct 2 1 (productBody 2),
    .createSession "a" 1 0 ⟨1, "1", none, none, none⟩,
    .createSession "b" 1 0 ⟨2, "2", none, none, none⟩]
  ++ linkedTo 0 "a" ++ linkedTo 1 "b"

abbrev twoProductsRun : State × List Link :=
  Runs.run (Runs.noting (exec mockStrKey fun _ => ⟨2⟩) linksOf) (initial, []) twoProducts

/-- **The mandate was first linked with seven decimals, and is charged in two.** -/
theorem two_decimals :
    (firstLink twoProductsRun.2 mandateText).map Link.assetDecimals = some 7 ∧
    resolveAssetDecimalsForMandate 0 twoProductsRun.1.products twoProductsRun.1.sessions 1 mandateText
      = .ok 2 ∧
    ¬ ∀ earlier later, twoProducts = earlier ++ later →
      OneMeaning (Runs.run (Runs.noting (exec mockStrKey fun _ => ⟨2⟩) linksOf) (initial, []) earlier).1
        (Runs.run (Runs.noting (exec mockStrKey fun _ => ⟨2⟩) linksOf) (initial, []) earlier).2 := by
  have hfirst : (firstLink twoProductsRun.2 mandateText).map Link.assetDecimals = some 7 := by
    decide +kernel
  have hresolve : resolveAssetDecimalsForMandate 0 twoProductsRun.1.products
      twoProductsRun.1.sessions 1 mandateText = .ok 2 := by decide +kernel
  refine ⟨hfirst, hresolve, fun h => ?_⟩
  obtain ⟨first, hlink, hdecimals⟩ := h twoProducts [] (List.append_nil _).symm 0 1 mandateText 2 hresolve
  rw [show firstLink twoProductsRun.2 mandateText = some first from hlink, Option.map_some,
    hdecimals] at hfirst
  cases hfirst

end Paymap.Api.Decimals
