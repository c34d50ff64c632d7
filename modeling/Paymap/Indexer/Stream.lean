import Paymap.Indexer.Chain

set_option autoImplicit false

/-! # The stream of events

The stream only grows, and what is new in it lies in a ledger that was not closed before. An entry's
id is its place, and the entries are in the order of their ledgers. A lifecycle event names the
merchant that its mandate is stored with; that merchant never changes.
-/

namespace Paymap.Indexer

open Registry (Address BytesN Event Host Storage)

/-! ## Events and their entries -/

theorem lifecycleEvent?_fields {raw : EventResponse} {event : MandateLifecycleEvent}
    (h : raw.lifecycleEvent? = some event) :
    event.rpcEventId = raw.id ∧ event.ledger = raw.ledger ∧
      decodeMandateLifecycleEvent raw = some event := by
  unfold EventResponse.lifecycleEvent? at h
  split at h
  · refine ⟨?_, ?_, h⟩
    · unfold decodeMandateLifecycleEvent at h
      split at h <;> cases h <;> rfl
    · unfold decodeMandateLifecycleEvent at h
      split at h <;> cases h <;> rfl
  · cases h

theorem getElem?_responses {id ledger : ℕ} {ok : Bool} {events : List Event} {i : ℕ}
    {raw : EventResponse} (h : (responses id ledger ok events)[i]? = some raw) :
    raw.id = id + i ∧ raw.ledger = ledger ∧ raw.inSuccessfulContractCall = ok ∧
      raw.event ∈ events := by
  induction events generalizing id i with
  | nil => simp [responses] at h
  | cons event events ih =>
      rw [responses] at h
      cases i with
      | zero =>
          obtain rfl := Option.some.inj h
          exact ⟨rfl, rfl, rfl, List.mem_cons_self⟩
      | succ i =>
          rw [List.getElem?_cons_succ] at h
          obtain ⟨hid, hledger, hok, hmem⟩ := ih h
          exact ⟨by omega, hledger, hok, List.mem_cons_of_mem _ hmem⟩

/-- The mandate is stored with this merchant. -/
def Owns (s : Storage) (mandateId : BytesN) (merchant : Address) : Prop :=
  ∃ m, s.getMandate mandateId = some m ∧ m.merchant = merchant

theorem Owns.unique {s : Storage} {mandateId : BytesN} {merchant merchant' : Address}
    (h : Owns s mandateId merchant) (h' : Owns s mandateId merchant') : merchant = merchant' := by
  obtain ⟨m, hm, rfl⟩ := h
  obtain ⟨m', hm', rfl⟩ := h'
  rw [Option.some.inj (hm.symm.trans hm')]

/-- A record written under its own key, with the merchant that was there. -/
theorem Owns.setMandate {s : Storage} {mandateId : BytesN} {merchant : Address}
    (h : Owns s mandateId merchant) {m : Registry.Mandate}
    (hm : ∀ m₀, s.getMandate m.id = some m₀ → m.merchant = m₀.merchant) :
    Owns (s.setMandate m) mandateId merchant := by
  obtain ⟨m₀, hm₀, rfl⟩ := h
  unfold Owns
  rw [Storage.getMandate_setMandate]
  split
  · rename_i heq
    exact ⟨m, rfl, hm m₀ (heq ▸ hm₀)⟩
  · exact ⟨m₀, hm₀, rfl⟩

theorem owns_setMandate_self {s : Storage} {mandateId : BytesN} {m : Registry.Mandate}
    (hid : m.id = mandateId) : Owns (s.setMandate m) mandateId m.merchant :=
  ⟨m, by rw [Storage.getMandate_setMandate, if_pos hid.symm], rfl⟩

/-- An event that names the merchant its mandate is stored with, if it is a lifecycle event. -/
def Event.Owned (s : Storage) (event : Event) : Prop :=
  ∀ {id ledger : ℕ} {ok : Bool} {lifecycle : MandateLifecycleEvent},
    decodeMandateLifecycleEvent ⟨id, ledger, ok, event⟩ = some lifecycle →
    Owns s lifecycle.mandateId lifecycle.merchant

section

variable {T : Type} {host : Host T} {l : Registry.Ledger T}

/-- **What a step of the registry publishes**, and what it leaves as it was. -/
theorem exec_owns (host : Host T) (hkeyed : l.storage.Keyed) (step : Registry.Step T) :
    (∀ {mandateId merchant}, Owns l.storage mandateId merchant →
      Owns (Registry.exec host l step).storage mandateId merchant) ∧
    ∀ event ∈ (Registry.exec host l step).events.drop l.events.length,
      Event.Owned (Registry.exec host l step).storage event := by
  have hmoved := Registry.moved_exec host l step
  generalize Registry.exec host l step = l' at hmoved
  cases hmoved with
  | closed t now hle => exact ⟨fun h => h, by simp⟩
  | tokens t => exact ⟨fun h => h, by simp⟩
  | rejected c f _ => exact ⟨fun h => h, by simp⟩
  | done c v l' _ heffect =>
      obtain ⟨op, authorized⟩ := c
      cases heffect with
      | created input _ hfresh _ =>
          refine ⟨fun h => h.setMandate fun m₀ hm₀ => ?_, fun event hmem => ?_⟩
          · cases hfresh.symm.trans hm₀
          · rw [Registry.createdLedger, List.drop_left, List.mem_singleton] at hmem
            subst hmem
            intro id ledger ok lifecycle hdecode
            cases hdecode
            exact owns_setMandate_self rfl
      | statusChanged op mandateId m hm _ _ =>
          have hid : m.id = mandateId := hkeyed mandateId m hm
          refine ⟨fun h => h.setMandate fun m₀ hm₀ => ?_, fun event hmem => ?_⟩
          · have hsame : some m = some m₀ := hm.symm.trans (hid ▸ hm₀)
            obtain rfl := Option.some.inj hsame
            rfl
          · rw [Registry.statusLedger, List.drop_left, List.mem_singleton] at hmem
            subst hmem
            intro id ledger ok lifecycle hdecode
            have hstored : Owns (l.storage.setMandate { m with status := op.target }) mandateId
                m.merchant := owns_setMandate_self hid
            cases op <;> cases hdecode <;> exact hstored
      | charged mandateId chargeId amount invoiceHash m period collected t m' hm hc _ ha =>
          have hid : m.id = mandateId := hkeyed mandateId m hm
          have hid' : m'.id = mandateId := (congrArg Registry.Mandate.id ha.frame).trans hid
          have hmerchant : m'.merchant = m.merchant := (congrArg Registry.Mandate.merchant ha.frame).trans rfl
          refine ⟨fun h => ?_, fun event hmem => ?_⟩
          · refine Owns.setMandate (s := l.storage) h fun m₀ hm₀ => ?_
            have hsame : some m = some m₀ := hm.symm.trans (hid' ▸ hm₀)
            obtain rfl := Option.some.inj hsame
            exact hmerchant
          · rw [Registry.chargedLedger, List.drop_left] at hmem
            have hstored : Owns (l.storage.setMandate m') mandateId m'.merchant :=
              owns_setMandate_self hid'
            intro id ledger ok lifecycle hdecode
            rcases List.mem_cons.mp hmem with rfl | hmem
            · cases hdecode
            · split at hmem
              · obtain rfl := List.mem_singleton.mp hmem
                cases hdecode
                exact hstored
              · cases hmem
      | refunded mandateId paymentId amount refundId m payment total t _ _ _ _ =>
          refine ⟨fun h => h, fun event hmem => ?_⟩
          rw [Registry.refundedLedger, List.drop_left, List.mem_singleton] at hmem
          subst hmem
          intro id ledger ok lifecycle hdecode
          cases hdecode

/-! ## The chain -/

/-- What is true of the entries there are, when all of them lie in ledgers up to `top`. -/
structure Chain.SoundUpTo (chain : Chain T) (top : ℕ) : Prop where
  ids : ∀ {i : ℕ} {raw : EventResponse}, chain.stream[i]? = some raw → raw.id = i
  ordered : Feed.Ordered EventResponse.ledger chain.stream
  le_top : ∀ raw ∈ chain.stream, raw.ledger ≤ top
  keyed : chain.ledger.storage.Keyed
  owned : ∀ raw ∈ chain.stream, raw.inSuccessfulContractCall = true →
    Event.Owned chain.ledger.storage raw.event

abbrev Chain.Sound (chain : Chain T) : Prop := chain.SoundUpTo chain.sequence

/-- The chain has gone on: what is new in the stream lies above the ledgers there were. -/
structure Chain.Extends (chain chain' : Chain T) : Prop where
  stream : chain.stream <+: chain'.stream
  sequence_le : chain.sequence ≤ chain'.sequence
  fresh : ∀ {i : ℕ} {raw : EventResponse}, chain.stream.length ≤ i →
    chain'.stream[i]? = some raw → chain.sequence < raw.ledger
  owns : ∀ {mandateId : BytesN} {merchant : Address}, Owns chain.ledger.storage mandateId merchant →
    Owns chain'.ledger.storage mandateId merchant

theorem Chain.Extends.refl (chain : Chain T) : chain.Extends chain where
  stream := List.prefix_refl _
  sequence_le := Nat.le_refl _
  fresh hle hi := by
    have hlt := (List.getElem?_eq_some_iff.mp hi).1
    omega
  owns h := h

/-- Entries for more events, in the ledger that is closing. -/
theorem Chain.publish_adds {chain₀ chain : Chain T} (ok : Bool) (events : List Event)
    (hsound : chain.SoundUpTo (chain₀.sequence + 1)) (hextends : chain₀.Extends chain)
    (hsequence : chain.sequence = chain₀.sequence)
    (howned : ok = true → ∀ event ∈ events, Event.Owned chain.ledger.storage event) :
    (chain.publish ok events).SoundUpTo (chain₀.sequence + 1) ∧
      chain₀.Extends (chain.publish ok events) := by
  have hnew : ∀ raw ∈ responses chain.stream.length (chain.sequence + 1) ok events,
      raw.ledger = chain₀.sequence + 1 ∧ raw.inSuccessfulContractCall = ok ∧
        raw.event ∈ events := by
    intro raw hmem
    obtain ⟨i, hi⟩ := List.mem_iff_getElem?.mp hmem
    obtain ⟨-, hledger, hok, hevent⟩ := getElem?_responses hi
    exact ⟨by omega, hok, hevent⟩
  constructor
  · constructor
    · intro i raw hi
      unfold publish at hi
      rw [List.getElem?_append] at hi
      split at hi
      · exact hsound.ids hi
      · obtain ⟨hid, -⟩ := getElem?_responses hi
        omega
    · exact Feed.Ordered.append hsound.ordered hsound.le_top fun raw hmem => (hnew raw hmem).1
    · intro raw hmem
      rcases List.mem_append.mp hmem with hmem | hmem
      · exact hsound.le_top raw hmem
      · exact (hnew raw hmem).1.le
    · exact hsound.keyed
    · intro raw hmem hsucceeded
      rcases List.mem_append.mp hmem with hmem | hmem
      · exact hsound.owned raw hmem hsucceeded
      · obtain ⟨-, hok, hevent⟩ := hnew raw hmem
        exact howned (hok ▸ hsucceeded) raw.event hevent
  · refine ⟨hextends.stream.trans (List.prefix_append _ _), hsequence.ge, ?_, hextends.owns⟩
    intro i raw hle hi
    unfold publish at hi
    rw [List.getElem?_append] at hi
    split at hi
    · exact hextends.fresh hle hi
    · have hledger := (hnew raw (List.mem_of_getElem? hi)).1
      omega

/-- One more thing in the ledger that is closing. -/
theorem Chain.add_adds (host : Host T) {chain₀ chain : Chain T} (included : Included T)
    (hsound : chain.SoundUpTo (chain₀.sequence + 1)) (hextends : chain₀.Extends chain)
    (hsequence : chain.sequence = chain₀.sequence) :
    (chain.add host included).SoundUpTo (chain₀.sequence + 1) ∧
      chain₀.Extends (chain.add host included) ∧
      (chain.add host included).sequence = chain₀.sequence := by
  cases included with
  | failedCall events =>
      obtain ⟨hsound', hextends'⟩ :=
        publish_adds false events hsound hextends hsequence fun hfalse => by cases hfalse
      exact ⟨hsound', hextends', hsequence⟩
  | step step =>
      obtain ⟨howns, hevents⟩ := exec_owns host hsound.keyed step
      -- first the ledger alone, and then its events
      have hledger : ({ chain with ledger := Registry.exec host chain.ledger step } :
          Chain T).SoundUpTo (chain₀.sequence + 1) :=
        { hsound with
          keyed := (Registry.indexed_exec hsound.keyed step).2
          owned := fun raw hmem hok {_ _ _ _} hdecode =>
            howns (hsound.owned raw hmem hok hdecode) }
      have hgrown : chain₀.Extends { chain with ledger := Registry.exec host chain.ledger step } :=
        ⟨hextends.stream, hextends.sequence_le, hextends.fresh, fun h => howns (hextends.owns h)⟩
      obtain ⟨hsound', hextends'⟩ := publish_adds true _ hledger hgrown hsequence
        fun _ event hmem => hevents event hmem
      exact ⟨hsound', hextends', hsequence⟩

/-- **A ledger closes.** -/
theorem Chain.close_sound {chain : Chain T} (hsound : chain.Sound) (included : List (Included T)) :
    (chain.close host included).Sound ∧ chain.Extends (chain.close host included) := by
  have hadds : (included.foldl (add host) chain).SoundUpTo (chain.sequence + 1) ∧
      chain.Extends (included.foldl (add host) chain) ∧
      (included.foldl (add host) chain).sequence = chain.sequence := by
    have hstart : chain.SoundUpTo (chain.sequence + 1) :=
      { hsound with le_top := fun raw hmem => (hsound.le_top raw hmem).trans (Nat.le_succ _) }
    suffices h : ∀ chain', chain'.SoundUpTo (chain.sequence + 1) → chain.Extends chain' →
        chain'.sequence = chain.sequence →
        (included.foldl (add host) chain').SoundUpTo (chain.sequence + 1) ∧
          chain.Extends (included.foldl (add host) chain') ∧
          (included.foldl (add host) chain').sequence = chain.sequence from
      h chain hstart (.refl chain) rfl
    induction included with
    | nil => exact fun chain' hsound' hextends hsequence => ⟨hsound', hextends, hsequence⟩
    | cons first rest ih =>
        intro chain' hsound' hextends hsequence
        obtain ⟨hsound₁, hextends₁, hsequence₁⟩ :=
          add_adds host first hsound' hextends hsequence
        exact ih _ hsound₁ hextends₁ hsequence₁
  obtain ⟨hsound', hextends, -⟩ := hadds
  exact ⟨⟨hsound'.ids, hsound'.ordered, hsound'.le_top, hsound'.keyed, hsound'.owned⟩,
    hextends.stream, Nat.le_succ _, hextends.fresh, hextends.owns⟩

theorem Chain.genesis_sound (t₀ : U64) (tok₀ : T) (sequence : ℕ) :
    (genesis t₀ tok₀ sequence).Sound where
  ids hi := by cases hi
  ordered _ hi _ := by cases hi
  le_top raw hmem := by cases hmem
  keyed id m hm := by cases hm
  owned raw hmem := by cases hmem

/-! ## Events on the chain -/

/-- A lifecycle event of a successful call, in a closed ledger. -/
def Chain.OnChain (chain : Chain T) (event : MandateLifecycleEvent) : Prop :=
  ∃ raw ∈ chain.stream, raw.lifecycleEvent? = some event

variable {chain chain' : Chain T} {event event' : MandateLifecycleEvent}

/-- The entry of an event is where its id says. -/
theorem Chain.OnChain.entry (hsound : chain.Sound) (h : chain.OnChain event) :
    ∃ raw, chain.stream[event.rpcEventId]? = some raw ∧ raw.lifecycleEvent? = some event ∧
      raw.ledger = event.ledger := by
  obtain ⟨raw, hmem, hevent⟩ := h
  obtain ⟨i, hi⟩ := List.mem_iff_getElem?.mp hmem
  obtain ⟨hid, hledger, -⟩ := lifecycleEvent?_fields hevent
  refine ⟨raw, ?_, hevent, hledger.symm⟩
  rw [hid, hsound.ids hi, hi]

theorem Chain.OnChain.lt_length (hsound : chain.Sound) (h : chain.OnChain event) :
    event.rpcEventId < chain.stream.length := by
  obtain ⟨raw, hi, -⟩ := h.entry hsound
  exact (List.getElem?_eq_some_iff.mp hi).1

theorem Chain.OnChain.eq_of_id (hsound : chain.Sound) (h : chain.OnChain event)
    (h' : chain.OnChain event') (hid : event.rpcEventId = event'.rpcEventId) : event = event' := by
  obtain ⟨raw, hi, hevent, -⟩ := h.entry hsound
  obtain ⟨raw', hi', hevent', -⟩ := h'.entry hsound
  rw [hid, hi'] at hi
  obtain rfl := Option.some.inj hi
  exact Option.some.inj (hevent.symm.trans hevent')

theorem Chain.OnChain.ledger_le (hsound : chain.Sound) (h : chain.OnChain event)
    (h' : chain.OnChain event') (hle : event.rpcEventId ≤ event'.rpcEventId) :
    event.ledger ≤ event'.ledger := by
  obtain ⟨raw, hi, -, hledger⟩ := h.entry hsound
  obtain ⟨raw', hi', -, hledger'⟩ := h'.entry hsound
  rw [← hledger, ← hledger']
  exact hsound.ordered hle hi hi'

theorem Chain.OnChain.owns (hsound : chain.Sound) (h : chain.OnChain event) :
    Owns chain.ledger.storage event.mandateId event.merchant := by
  obtain ⟨raw, hmem, hevent⟩ := h
  have hok : raw.inSuccessfulContractCall = true := by
    unfold EventResponse.lifecycleEvent? at hevent
    split at hevent
    · assumption
    · cases hevent
  exact hsound.owned raw hmem hok (lifecycleEvent?_fields hevent).2.2

theorem Chain.Extends.onChain (h : chain.Extends chain') (hon : chain.OnChain event) :
    chain'.OnChain event := by
  obtain ⟨raw, hmem, hevent⟩ := hon
  exact ⟨raw, h.stream.subset hmem, hevent⟩

/-- An event that is on the chain now was there before, or it is in a newer ledger. -/
theorem Chain.Extends.onChain_cases (h : chain.Extends chain') (hsound : chain'.Sound)
    (hon : chain'.OnChain event) :
    chain.OnChain event ∨
      (chain.stream.length ≤ event.rpcEventId ∧ chain.sequence < event.ledger) := by
  obtain ⟨raw, hi, hevent, hledger⟩ := hon.entry hsound
  by_cases hlt : event.rpcEventId < chain.stream.length
  · have hbefore := Feed.getElem?_of_grow h.stream hlt hi
    exact .inl ⟨raw, List.mem_of_getElem? hbefore, hevent⟩
  · have hle : chain.stream.length ≤ event.rpcEventId := by omega
    exact .inr ⟨hle, hledger ▸ h.fresh hle hi⟩

end

end Paymap.Indexer
