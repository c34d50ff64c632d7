import Paymap.Api.SessionMoves

set_option autoImplicit false

/-! # The tables of merchant sessions

How the rows change (`Becomes`), what a change writes (`Tables.Writes`), and what the tables are like
(`Tables.Proper`): a session belongs to the merchant of its wallet, a wallet has at most one merchant, and
a token one session. An open transaction goes with the tables (`Transaction.Admitted`), and keeps going with
them while nobody writes what it holds.
-/

namespace Paymap.Api.MerchantSessions

open Relayer (Time Uuid)
open Locks (Kept)

/-! ## How rows change -/

/-- A challenge is used, once. -/
def MerchantAuthChallenge.Becomes (a b : MerchantAuthChallenge) : Prop :=
  b = { a with usedAt := b.usedAt } ∧ ∀ usedAt, a.usedAt = some usedAt → b.usedAt = some usedAt

/-- A session gets a merchant, is used, and is revoked, once. -/
def MerchantSession.Becomes (a b : MerchantSession) : Prop :=
  b = { a with merchantId := b.merchantId, lastUsedAt := b.lastUsedAt, revokedAt := b.revokedAt } ∧
    ∀ revokedAt, a.revokedAt = some revokedAt → b.revokedAt = some revokedAt

/-- A merchant is disabled or enabled. -/
def Merchant.Becomes (a b : Merchant) : Prop := b = { a with status := b.status }

theorem MerchantAuthChallenge.becomes_refl (a : MerchantAuthChallenge) : a.Becomes a :=
  ⟨rfl, fun _ h => h⟩

theorem MerchantSession.becomes_refl (a : MerchantSession) : a.Becomes a := ⟨rfl, fun _ h => h⟩

theorem Merchant.becomes_refl (a : Merchant) : a.Becomes a := rfl

theorem MerchantAuthChallenge.Becomes.trans {a b c : MerchantAuthChallenge} (h : a.Becomes b)
    (h' : b.Becomes c) : a.Becomes c := by
  refine ⟨?_, fun usedAt hused => h'.2 usedAt (h.2 usedAt hused)⟩
  rw [h'.1, h.1]

theorem MerchantSession.Becomes.trans {a b c : MerchantSession} (h : a.Becomes b)
    (h' : b.Becomes c) : a.Becomes c := by
  refine ⟨?_, fun revokedAt hrevoked => h'.2 revokedAt (h.2 revokedAt hrevoked)⟩
  rw [h'.1, h.1]

theorem Merchant.Becomes.trans {a b c : Merchant} (h : a.Becomes b) (h' : b.Becomes c) :
    a.Becomes c := by
  unfold Merchant.Becomes at *
  rw [h', h]

namespace MerchantSession

variable {a b : MerchantSession}

theorem Becomes.walletAddress (h : a.Becomes b) : b.walletAddress = a.walletAddress := by rw [h.1]

theorem Becomes.tokenHash (h : a.Becomes b) : b.tokenHash = a.tokenHash := by rw [h.1]

theorem Becomes.expiresAt (h : a.Becomes b) : b.expiresAt = a.expiresAt := by rw [h.1]

end MerchantSession

namespace Tables

/-! ## What the tables are like -/

/-- The merchant has this wallet. -/
def Owns (t : Tables) (merchantId : Uuid) (walletAddress : String) : Prop :=
  ∃ merchant, t.merchants.lookup merchantId = some merchant ∧
    merchant.walletAddress = walletAddress

/-- A session has this token. -/
def HasToken (t : Tables) (tokenHash : String) : Prop :=
  ∃ id session, t.sessions.lookup id = some session ∧ session.tokenHash = tokenHash

structure Proper (t : Tables) : Prop where
  bound : ∀ id session merchantId, t.sessions.lookup id = some session →
    session.merchantId = some merchantId → t.Owns merchantId session.walletAddress
  wallets : ∀ id id' walletAddress, t.Owns id walletAddress → t.Owns id' walletAddress → id = id'
  tokens : ∀ id id' session session', t.sessions.lookup id = some session →
    t.sessions.lookup id' = some session' → session.tokenHash = session'.tokenHash → id = id'

variable {t t' : Tables}

theorem hasToken_iff {tokenHash : String} : t.hasToken tokenHash = true ↔ t.HasToken tokenHash := by
  unfold hasToken HasToken
  rw [List.any_eq_true]
  constructor
  · rintro ⟨session, hmem, htoken⟩
    obtain ⟨id, hid⟩ := FinMap.mem_values.mp hmem
    exact ⟨id, session, hid, of_decide_eq_true htoken⟩
  · rintro ⟨id, session, hid, htoken⟩
    exact ⟨session, FinMap.mem_values.mpr ⟨id, hid⟩, decide_eq_true htoken⟩

theorem of_merchantOf_some {walletAddress : String} {merchant : Uuid × Merchant}
    (h : t.merchantOf walletAddress = some merchant) :
    t.merchants.lookup merchant.1 = some merchant.2 ∧ merchant.2.walletAddress = walletAddress := by
  unfold merchantOf at h
  obtain ⟨row, hrow, rfl⟩ := Option.map_eq_some_iff.mp h
  refine ⟨AList.mem_lookup_iff.mpr (List.mem_of_find?_eq_some hrow), ?_⟩
  simpa using List.find?_some hrow

theorem not_owns_of_merchantOf_none {walletAddress : String}
    (h : t.merchantOf walletAddress = none) (id : Uuid) : ¬ t.Owns id walletAddress := by
  rintro ⟨merchant, hlookup, hwallet⟩
  unfold merchantOf at h
  have hnone := List.find?_eq_none.mp (Option.map_eq_none_iff.mp h) ⟨id, merchant⟩
    (AList.mem_lookup_iff.mp hlookup)
  simp [hwallet] at hnone

/-! ## What is written -/

/-- The tables have changed: what is new in them, or has been used, is among the rows. -/
structure Writes (written : List Row) (t t' : Tables) : Prop where
  challenges : Kept MerchantAuthChallenge.Becomes t.challenges t'.challenges
  sessions : Kept MerchantSession.Becomes t.sessions t'.sessions
  merchants : Kept Merchant.Becomes t.merchants t'.merchants
  challenge : ∀ id challenge, .challenge id ∉ written → t.challenges.lookup id = some challenge →
    t'.challenges.lookup id = some challenge
  session : ∀ id, .session id ∉ written → t.sessions.lookup id = none →
    t'.sessions.lookup id = none
  token : ∀ tokenHash, .token tokenHash ∉ written → t'.HasToken tokenHash → t.HasToken tokenHash
  merchant : ∀ id, .merchant id ∉ written → t.merchants.lookup id = none →
    t'.merchants.lookup id = none
  wallet : ∀ id walletAddress, .wallet walletAddress ∉ written → t'.Owns id walletAddress →
    t.Owns id walletAddress

theorem Owns.mono {written : List Row} (h : Writes written t t') {id : Uuid} {walletAddress : String}
    (howns : t.Owns id walletAddress) : t'.Owns id walletAddress := by
  obtain ⟨merchant, hlookup, hwallet⟩ := howns
  obtain ⟨merchant', hlookup', hbecomes⟩ := h.merchants id merchant hlookup
  refine ⟨merchant', hlookup', ?_⟩
  rw [hbecomes]
  exact hwallet

theorem Writes.refl (written : List Row) (t : Tables) : Writes written t t where
  challenges := Kept.refl MerchantAuthChallenge.becomes_refl _
  sessions := Kept.refl MerchantSession.becomes_refl _
  merchants := Kept.refl Merchant.becomes_refl _
  challenge _ _ _ h := h
  session _ _ h := h
  token _ _ h := h
  merchant _ _ h := h
  wallet _ _ _ h := h

/-- One change after another. -/
theorem Writes.trans {written written' : List Row} {t'' : Tables} (h : Writes written t t')
    (h' : Writes written' t' t'') : Writes (written ++ written') t t'' where
  challenges := h.challenges.trans (fun _ _ _ => MerchantAuthChallenge.Becomes.trans) h'.challenges
  sessions := h.sessions.trans (fun _ _ _ => MerchantSession.Becomes.trans) h'.sessions
  merchants := h.merchants.trans (fun _ _ _ => Merchant.Becomes.trans) h'.merchants
  challenge id row hid hrow := by
    rw [List.mem_append, not_or] at hid
    exact h'.challenge id row hid.2 (h.challenge id row hid.1 hrow)
  session id hid hnone := by
    rw [List.mem_append, not_or] at hid
    exact h'.session id hid.2 (h.session id hid.1 hnone)
  token tokenHash htoken hhas := by
    rw [List.mem_append, not_or] at htoken
    exact h.token tokenHash htoken.1 (h'.token tokenHash htoken.2 hhas)
  merchant id hid hnone := by
    rw [List.mem_append, not_or] at hid
    exact h'.merchant id hid.2 (h.merchant id hid.1 hnone)
  wallet id walletAddress hwallet howns := by
    rw [List.mem_append, not_or] at hwallet
    exact h.wallet id walletAddress hwallet.1 (h'.wallet id walletAddress hwallet.2 howns)

/-! ### Challenges -/

/-- The table of challenges gets a new row, or one in the place of another. -/
theorem writes_challenge {id : Uuid} {challenge : MerchantAuthChallenge} {written : List Row}
    (hbecomes : ∀ before, t.challenges.lookup id = some before → before.Becomes challenge)
    (hwritten : .challenge id ∈ written ∨ t.challenges.lookup id = none) :
    Writes written t { t with challenges := t.challenges.insert id challenge } where
  challenges := Kept.insert MerchantAuthChallenge.becomes_refl hbecomes
  sessions := Kept.refl MerchantSession.becomes_refl _
  merchants := Kept.refl Merchant.becomes_refl _
  challenge id' row hid' hrow := by
    have hne : id' ≠ id := by
      rintro rfl
      rcases hwritten with hmem | hnone
      · exact hid' hmem
      · rw [hnone] at hrow
        cases hrow
    exact (AList.lookup_insert_ne hne).trans hrow
  session _ _ h := h
  token _ _ h := h
  merchant _ _ h := h
  wallet _ _ _ h := h

theorem consume_of_lookup {id : Uuid} {challenge : MerchantAuthChallenge} {now : Time}
    (h : t.challenges.lookup id = some challenge) :
    t.consume id now
      = { t with challenges := t.challenges.insert id { challenge with usedAt := some now } } := by
  unfold consume
  rw [h]

theorem writes_consume {id : Uuid} {challenge : MerchantAuthChallenge} {now : Time}
    (h : t.challenges.lookup id = some challenge) (hunused : challenge.usedAt = none) :
    Writes [.challenge id] t (t.consume id now) := by
  rw [consume_of_lookup h]
  refine writes_challenge (fun before hbefore => ?_) (.inl (List.mem_singleton_self _))
  obtain rfl := Option.some.inj (h.symm.trans hbefore)
  refine ⟨rfl, fun usedAt hused => ?_⟩
  rw [hunused] at hused
  cases hused

/-! ### Sessions -/

/-- The table of sessions gets a new row, or one in the place of another. -/
theorem writes_session {id : Uuid} {session : MerchantSession} {written : List Row}
    (hbecomes : ∀ before, t.sessions.lookup id = some before → before.Becomes session)
    (hwritten : (.session id ∈ written ∧ .token session.tokenHash ∈ written) ∨
      (t.sessions.lookup id).isSome) :
    Writes written t { t with sessions := t.sessions.insert id session } where
  challenges := Kept.refl MerchantAuthChallenge.becomes_refl _
  sessions := Kept.insert MerchantSession.becomes_refl hbecomes
  merchants := Kept.refl Merchant.becomes_refl _
  challenge _ _ _ h := h
  session id' hid' hnone := by
    have hne : id' ≠ id := by
      rintro rfl
      rcases hwritten with hmem | hsome
      · exact hid' hmem.1
      · rw [hnone] at hsome
        cases hsome
    exact (AList.lookup_insert_ne hne).trans hnone
  token tokenHash htoken hhas := by
    obtain ⟨id', session', hlookup, rfl⟩ := hhas
    rw [FinMap.lookup_insert] at hlookup
    split_ifs at hlookup with hid
    · obtain rfl := Option.some.inj hlookup
      rcases hwritten with hmem | hsome
      · exact absurd hmem.2 htoken
      · obtain ⟨before, hbefore⟩ := Option.isSome_iff_exists.mp hsome
        exact ⟨id, before, hbefore, (hbecomes before hbefore).tokenHash.symm⟩
    · exact ⟨id', session', hlookup, rfl⟩
  merchant _ _ h := h
  wallet _ _ _ h := h

theorem lookup_updateSession (t : Tables) (id id' : Uuid) (f : MerchantSession → MerchantSession) :
    (t.updateSession id f).sessions.lookup id'
      = if id' = id then (t.sessions.lookup id).map f else t.sessions.lookup id' := by
  unfold updateSession
  cases hrow : t.sessions.lookup id with
  | none =>
      split_ifs with hid
      · exact hid ▸ hrow
      · rfl
  | some session => exact FinMap.lookup_insert _ _ _ _

theorem writes_updateSession (written : List Row) (id : Uuid) {f : MerchantSession → MerchantSession}
    (hf : ∀ session : MerchantSession, session.Becomes (f session)) :
    Writes written t (t.updateSession id f) := by
  unfold updateSession
  cases hrow : t.sessions.lookup id with
  | none => exact .refl _ _
  | some session =>
      refine writes_session (fun before hbefore => ?_) (.inr (by rw [hrow]; rfl))
      obtain rfl := Option.some.inj (hrow.symm.trans hbefore)
      exact hf session

theorem challenges_updateSession (t : Tables) (id : Uuid) (f : MerchantSession → MerchantSession) :
    (t.updateSession id f).challenges = t.challenges := by
  unfold updateSession
  cases t.sessions.lookup id <;> rfl

theorem merchants_updateSession (t : Tables) (id : Uuid) (f : MerchantSession → MerchantSession) :
    (t.updateSession id f).merchants = t.merchants := by
  unfold updateSession
  cases t.sessions.lookup id <;> rfl

/-! ### Merchants -/

/-- The table of merchants gets a new row, or one in the place of another. -/
theorem writes_merchant {id : Uuid} {merchant : Merchant} {written : List Row}
    (hbecomes : ∀ before, t.merchants.lookup id = some before → before.Becomes merchant)
    (hwritten : (.merchant id ∈ written ∧ .wallet merchant.walletAddress ∈ written) ∨
      (t.merchants.lookup id).isSome) :
    Writes written t { t with merchants := t.merchants.insert id merchant } where
  challenges := Kept.refl MerchantAuthChallenge.becomes_refl _
  sessions := Kept.refl MerchantSession.becomes_refl _
  merchants := Kept.insert Merchant.becomes_refl hbecomes
  challenge _ _ _ h := h
  session _ _ h := h
  token _ _ h := h
  merchant id' hid' hnone := by
    have hne : id' ≠ id := by
      rintro rfl
      rcases hwritten with hmem | hsome
      · exact hid' hmem.1
      · rw [hnone] at hsome
        cases hsome
    exact (AList.lookup_insert_ne hne).trans hnone
  wallet id' walletAddress hwallet howns := by
    obtain ⟨merchant', hlookup, rfl⟩ := howns
    rw [FinMap.lookup_insert] at hlookup
    split_ifs at hlookup with hid
    · obtain rfl := Option.some.inj hlookup
      rcases hwritten with hmem | hsome
      · exact absurd hmem.2 hwallet
      · obtain ⟨before, hbefore⟩ := Option.isSome_iff_exists.mp hsome
        refine ⟨before, hid ▸ hbefore, ?_⟩
        rw [hbecomes before hbefore]
    · exact ⟨merchant', hlookup, rfl⟩

/-! ## The tables stay proper -/

theorem Proper.challenges (h : t.Proper) (challenges : FinMap Uuid MerchantAuthChallenge) :
    ({ t with challenges := challenges } : Tables).Proper where
  bound := h.bound
  wallets := h.wallets
  tokens := h.tokens

/-- A session of a new token, bound to the merchant of its wallet. -/
theorem Proper.open (h : t.Proper) {id : Uuid} {session : MerchantSession}
    (htoken : ¬ t.HasToken session.tokenHash)
    (hbound : ∀ merchantId, session.merchantId = some merchantId →
      t.Owns merchantId session.walletAddress) :
    ({ t with sessions := t.sessions.insert id session } : Tables).Proper where
  bound id' session' merchantId hlookup hmerchant := by
    rw [FinMap.lookup_insert] at hlookup
    split_ifs at hlookup with hid
    · obtain rfl := Option.some.inj hlookup
      exact hbound merchantId hmerchant
    · exact h.bound id' session' merchantId hlookup hmerchant
  wallets := h.wallets
  tokens id₁ id₂ session₁ session₂ hlookup₁ hlookup₂ htokens := by
    rw [FinMap.lookup_insert] at hlookup₁ hlookup₂
    split_ifs at hlookup₁ hlookup₂ with hid₁ hid₂ hid₂
    · exact hid₁.trans hid₂.symm
    · obtain rfl := Option.some.inj hlookup₁
      exact absurd ⟨id₂, session₂, hlookup₂, htokens.symm⟩ htoken
    · obtain rfl := Option.some.inj hlookup₂
      exact absurd ⟨id₁, session₁, hlookup₁, htokens⟩ htoken
    · exact h.tokens id₁ id₂ session₁ session₂ hlookup₁ hlookup₂ htokens

/-- A session changes, and gets no merchant but the one of its wallet. -/
theorem Proper.updateSession (h : t.Proper) {id : Uuid} {f : MerchantSession → MerchantSession}
    (hf : ∀ session : MerchantSession, session.Becomes (f session))
    (hbound : ∀ session merchantId, t.sessions.lookup id = some session →
      (f session).merchantId = some merchantId → t.Owns merchantId session.walletAddress) :
    (t.updateSession id f).Proper := by
  -- every row has been one with the same wallet and the same token
  have hback : ∀ id' session', (t.updateSession id f).sessions.lookup id' = some session' →
      ∃ session, t.sessions.lookup id' = some session ∧ session.Becomes session' ∧
        (id' = id ∧ session' = f session ∨ session' = session) := by
    intro id' session' hlookup
    rw [lookup_updateSession] at hlookup
    split_ifs at hlookup with hid
    · obtain ⟨session, hsession, rfl⟩ := Option.map_eq_some_iff.mp hlookup
      exact ⟨session, hid ▸ hsession, hf session, .inl ⟨hid, rfl⟩⟩
    · exact ⟨session', hlookup, session'.becomes_refl, .inr rfl⟩
  have howns : ∀ merchantId walletAddress, (t.updateSession id f).Owns merchantId walletAddress ↔
      t.Owns merchantId walletAddress := by
    intro merchantId walletAddress
    unfold Owns
    rw [merchants_updateSession]
  refine ⟨?_, ?_, ?_⟩
  · intro id' session' merchantId hlookup hmerchant
    obtain ⟨session, hsession, hbecomes, hcase⟩ := hback id' session' hlookup
    rw [howns, hbecomes.walletAddress]
    rcases hcase with ⟨rfl, rfl⟩ | rfl
    · exact hbound session merchantId hsession hmerchant
    · exact h.bound id' session' merchantId hsession hmerchant
  · intro id₁ id₂ walletAddress howns₁ howns₂
    exact h.wallets id₁ id₂ walletAddress ((howns _ _).mp howns₁) ((howns _ _).mp howns₂)
  · intro id₁ id₂ session₁ session₂ hlookup₁ hlookup₂ htokens
    obtain ⟨before₁, hbefore₁, hbecomes₁, -⟩ := hback id₁ session₁ hlookup₁
    obtain ⟨before₂, hbefore₂, hbecomes₂, -⟩ := hback id₂ session₂ hlookup₂
    rw [hbecomes₁.tokenHash, hbecomes₂.tokenHash] at htokens
    exact h.tokens id₁ id₂ before₁ before₂ hbefore₁ hbefore₂ htokens

/-- A merchant is added or changed, and nobody else has its wallet. -/
theorem Proper.merchant (h : t.Proper) {id : Uuid} {merchant : Merchant}
    (hbecomes : ∀ before, t.merchants.lookup id = some before → before.Becomes merchant)
    (halone : ∀ id', t.Owns id' merchant.walletAddress → id' = id) :
    ({ t with merchants := t.merchants.insert id merchant } : Tables).Proper where
  bound id' session merchantId hlookup hmerchant := by
    have howns := h.bound id' session merchantId hlookup hmerchant
    have hw : t.Writes [.merchant id, .wallet merchant.walletAddress]
        { t with merchants := t.merchants.insert id merchant } :=
      writes_merchant hbecomes (.inl ⟨by simp, by simp⟩)
    exact howns.mono hw
  wallets id₁ id₂ walletAddress howns₁ howns₂ := by
    -- who has a wallet now has had it, or is the one that is written
    have hback : ∀ id', ({ t with merchants := t.merchants.insert id merchant } : Tables).Owns id'
        walletAddress → (id' = id ∧ merchant.walletAddress = walletAddress) ∨
          t.Owns id' walletAddress := by
      rintro id' ⟨merchant', hlookup, hwallet⟩
      rw [FinMap.lookup_insert] at hlookup
      split_ifs at hlookup with hid
      · obtain rfl := Option.some.inj hlookup
        exact .inl ⟨hid, hwallet⟩
      · exact .inr ⟨merchant', hlookup, hwallet⟩
    rcases hback id₁ howns₁ with ⟨rfl, rfl⟩ | hold₁
    · rcases hback id₂ howns₂ with ⟨rfl, -⟩ | hold₂
      · rfl
      · exact (halone id₂ hold₂).symm
    · rcases hback id₂ howns₂ with ⟨rfl, rfl⟩ | hold₂
      · exact halone id₁ hold₁
      · exact h.wallets id₁ id₂ walletAddress hold₁ hold₂
  tokens := h.tokens

end Tables

/-! ## Open transactions -/

/-- What a transaction has done can be committed. -/
structure Transaction.Admitted (t : Tables) (tx : Transaction) : Prop where
  consumed : ∀ id now, tx.consumed = some (id, now) → ∃ challenge,
    t.challenges.lookup id = some challenge ∧ challenge.usedAt = none ∧ now < challenge.expiresAt
  opened : ∀ id session, tx.opened = some (id, session) → t.sessions.lookup id = none ∧
    ¬ t.HasToken session.tokenHash ∧
    ∀ merchantId, session.merchantId = some merchantId → t.Owns merchantId session.walletAddress
  registered : ∀ id merchant, tx.registered = some (id, merchant) →
    t.merchants.lookup id = none ∧ ∀ id', ¬ t.Owns id' merchant.walletAddress
  assigned : ∀ id merchantId, tx.assigned = some (id, merchantId) → ∃ session,
    t.sessions.lookup id = some session ∧ (t.Owns merchantId session.walletAddress ∨
      ∃ merchant, tx.registered = some (merchantId, merchant) ∧
        merchant.walletAddress = session.walletAddress)

namespace Transaction

variable {t t' : Tables} {tx : Transaction}

theorem admitted_empty (t : Tables) : Admitted t .empty where
  consumed _ _ h := by cases h
  opened _ _ h := by cases h
  registered _ _ h := by cases h
  assigned _ _ h := by cases h

/-- A transaction holds what it has written. -/
theorem mem_rows_consumed {id : Uuid} {now : Time} (h : tx.consumed = some (id, now)) :
    Row.challenge id ∈ tx.rows := by simp [rows, h]

theorem mem_rows_opened {id : Uuid} {session : MerchantSession}
    (h : tx.opened = some (id, session)) :
    Row.session id ∈ tx.rows ∧ Row.token session.tokenHash ∈ tx.rows := by simp [rows, h]

theorem mem_rows_registered {id : Uuid} {merchant : Merchant}
    (h : tx.registered = some (id, merchant)) :
    Row.merchant id ∈ tx.rows ∧ Row.wallet merchant.walletAddress ∈ tx.rows := by simp [rows, h]

/-- **The frame**: a transaction still goes with the tables when none of the rows that were written is
one that it holds. -/
theorem Admitted.of_writes (h : Admitted t tx) {written : List Row} (hw : t.Writes written t')
    (hfree : ∀ row ∈ written, row ∉ tx.rows) : Admitted t' tx where
  consumed id now hconsumed := by
    obtain ⟨challenge, hlookup, hunused, htime⟩ := h.consumed id now hconsumed
    have hmine : Row.challenge id ∉ written :=
      fun hmem => hfree _ hmem (mem_rows_consumed hconsumed)
    exact ⟨challenge, hw.challenge id challenge hmine hlookup, hunused, htime⟩
  opened id session hopened := by
    obtain ⟨hfresh, htoken, hbound⟩ := h.opened id session hopened
    obtain ⟨hid, hhash⟩ := mem_rows_opened hopened
    refine ⟨hw.session id (fun hmem => hfree _ hmem hid) hfresh, fun hhas => ?_, ?_⟩
    · exact htoken (hw.token _ (fun hmem => hfree _ hmem hhash) hhas)
    · exact fun merchantId hmerchant => (hbound merchantId hmerchant).mono hw
  registered id merchant hregistered := by
    obtain ⟨hfresh, hnobody⟩ := h.registered id merchant hregistered
    obtain ⟨hid, hwallet⟩ := mem_rows_registered hregistered
    refine ⟨hw.merchant id (fun hmem => hfree _ hmem hid) hfresh, fun id' howns => ?_⟩
    exact hnobody id' (hw.wallet id' _ (fun hmem => hfree _ hmem hwallet) howns)
  assigned id merchantId hassigned := by
    obtain ⟨session, hlookup, howner⟩ := h.assigned id merchantId hassigned
    obtain ⟨session', hlookup', hbecomes⟩ := hw.sessions id session hlookup
    refine ⟨session', hlookup', ?_⟩
    rw [hbecomes.walletAddress]
    exact howner.imp (Tables.Owns.mono hw) fun hmine => hmine

/-! ### What is committed -/

/-- A sign-in is committed. -/
theorem Admitted.signIn {id sessionId : Uuid} {now : Time} {session : MerchantSession}
    (h : Admitted t ⟨some (id, now), some (sessionId, session), none, none⟩) (hproper : t.Proper) :
    let t' := Transaction.apply ⟨some (id, now), some (sessionId, session), none, none⟩ t
    t.Writes [.challenge id, .session sessionId, .token session.tokenHash] t' ∧ t'.Proper := by
  intro t'
  obtain ⟨challenge, hlookup, hunused, -⟩ := h.consumed id now rfl
  obtain ⟨hfresh, htoken, hbound⟩ := h.opened sessionId session rfl
  have hconsumed : t.consume id now = _ := Tables.consume_of_lookup hlookup
  have ht' : t' = { t.consume id now with sessions := t.sessions.insert sessionId session } := by
    show ({ t.consume id now with
      sessions := (t.consume id now).sessions.insert sessionId session } : Tables) = _
    rw [hconsumed]
  have hopen : (t.consume id now).Writes [.session sessionId, .token session.tokenHash] t' := by
    rw [ht', hconsumed]
    refine Tables.writes_session (fun before hbefore => ?_) (.inl ⟨by simp, by simp⟩)
    rw [hfresh] at hbefore
    cases hbefore
  refine ⟨(Tables.writes_consume hlookup hunused).trans hopen, ?_⟩
  rw [ht', hconsumed]
  exact (hproper.challenges _).open htoken hbound

/-- A session gets its merchant. -/
def assignTo (t : Tables) (sessionId merchantId : Uuid) : Tables :=
  t.updateSession sessionId fun session => { session with merchantId := some merchantId }

theorem writes_assignTo (written : List Row) (sessionId merchantId : Uuid) :
    t.Writes written (assignTo t sessionId merchantId) :=
  Tables.writes_updateSession written sessionId fun _ => ⟨rfl, fun _ h => h⟩

theorem proper_assignTo (hproper : t.Proper) {sessionId merchantId : Uuid}
    {session : MerchantSession} (hlookup : t.sessions.lookup sessionId = some session)
    (howns : t.Owns merchantId session.walletAddress) :
    (assignTo t sessionId merchantId).Proper := by
  refine hproper.updateSession (fun _ => ⟨rfl, fun _ h => h⟩) ?_
  intro session' merchantId' hlookup' hmerchant
  obtain rfl := Option.some.inj (hlookup.symm.trans hlookup')
  obtain rfl := Option.some.inj hmerchant
  exact howns

/-- A registration is committed. -/
theorem Admitted.register {registered : Option (Uuid × Merchant)} {sessionId merchantId : Uuid}
    (h : Admitted t ⟨none, none, registered, some (sessionId, merchantId)⟩) (hproper : t.Proper) :
    let tx : Transaction := ⟨none, none, registered, some (sessionId, merchantId)⟩
    t.Writes tx.rows (tx.apply t) ∧ (tx.apply t).Proper := by
  intro tx
  obtain ⟨session, hlookup, howner⟩ := h.assigned sessionId merchantId rfl
  cases registered with
  | none =>
      have howns : t.Owns merchantId session.walletAddress := by
        rcases howner with howns | ⟨merchant, hnone, -⟩
        · exact howns
        · cases hnone
      exact ⟨writes_assignTo _ sessionId merchantId, proper_assignTo hproper hlookup howns⟩
  | some row =>
      obtain ⟨id, merchant⟩ := row
      obtain ⟨hfresh, hnobody⟩ := h.registered id merchant rfl
      have hbecomes : ∀ before, t.merchants.lookup id = some before →
          before.Becomes merchant := by
        intro before hbefore
        rw [hfresh] at hbefore
        cases hbefore
      have hadded : t.Writes [.merchant id, .wallet merchant.walletAddress]
          { t with merchants := t.merchants.insert id merchant } :=
        Tables.writes_merchant hbecomes (.inl ⟨by simp, by simp⟩)
      have hproper' := hproper.merchant hbecomes fun id' howns => absurd howns (hnobody id')
      have howns : ({ t with merchants := t.merchants.insert id merchant } : Tables).Owns merchantId
          session.walletAddress := by
        rcases howner with howns | ⟨merchant', hrow, hwallet⟩
        · exact howns.mono hadded
        · cases hrow
          exact ⟨merchant, AList.lookup_insert _, hwallet⟩
      exact ⟨hadded.trans (writes_assignTo [.session sessionId] sessionId merchantId),
        proper_assignTo hproper' hlookup howns⟩

end Transaction

end Paymap.Api.MerchantSessions
