import Paymap.Relayer.Prompt
import Paymap.Token.Mock

set_option autoImplicit false

/-! # The chain and the database

Does the database say of a charge what the chain says? One way it always does: what is paid was
charged. The other way it need not. A transaction that is executed after `submit()` has given up on
it charges the payer, while the attempt counts as a transient failure; the next attempt finds an
expired authorization, or a charge id that is used, and fails the request for good. Where every step
is `Prompt` the two agree in every state of every run.
-/

namespace Paymap.Relayer

open Registry (Host)

/-! ## Agreement -/

section

variable {T : Type}

/-- A request that was charged has not failed for good, and no failure of it is announced. -/
def ChargedNotFailed (s : Shared T) : Prop :=
  ∀ id row, s.db.chargeRequests.lookup id = some row →
    (∃ receipt, HoldsReceipt s.network.ledger row.mandateId row.chargeId receipt) →
    row.status ≠ .permanentlyFailed ∧
      ∀ delivery ∈ s.db.webhookDeliveries, delivery.event.failedRequest? ≠ some id

/-- A request that succeeded has its payment, and every payment of it is a charge. -/
def PaidIsCharged (s : Shared T) : Prop :=
  ∀ id row, s.db.chargeRequests.lookup id = some row →
    (row.status = .succeeded → ∃ payment ∈ s.db.payments, payment.chargeRequestId = id) ∧
    ∀ payment ∈ s.db.payments, payment.chargeRequestId = id →
      ∃ receipt, payment.paymentId = receipt.paymentId ∧
        HoldsReceipt s.network.ledger row.mandateId row.chargeId receipt

variable {host : Host T} {s : Shared T}

/-! ## Runs -/

/-- Everything the relayer keeps under `Prompt`. -/
def Agrees (host : Host T) (s : Shared T) (phases : List Phase) : Prop :=
  Booked host s phases ∧ Reported s phases

theorem agrees_exec (hinj : Function.Injective host.sha256) (deps : PipelineDeps) (s : System T)
    (action : Action T) (hprompt : Prompt host s action)
    (h : Workers.Tracked Move (Agrees host) s) :
    Workers.Tracked Move (Agrees host) (exec host deps s action) := by
  refine tracked_exec h ?_ ?_ ?_
  · intro phases i reply p e k s' p' haction hinv hp hk hw
    obtain ⟨⟨hknown, hpaid⟩, hreported⟩ := hinv
    refine ⟨⟨hknown.worked hp hw, hpaid.worked hknown hp hw⟩, hreported.worked hp hw ?_⟩
    rintro hash receipt rfl hcharged
    subst haction
    obtain ⟨ledger, hresult⟩ := Network.result?_of_charged hcharged
    refine hprompt hash (by rw [hk]; rfl) ?_
    rw [Network.hasCharged, hresult]
  · intro phases id hinv
    exact ⟨⟨hinv.1.1.start id, hinv.1.2⟩, hinv.2.start id⟩
  · intro phases s' hin hinv hh
    obtain ⟨⟨hknown, hpaid⟩, hreported⟩ := hinv
    exact ⟨⟨hknown.happens hinj hh, hpaid.happens hknown.sound hh⟩,
      hreported.happens hin hknown hh hprompt⟩

theorem agrees_initial (host : Host T) (t₀ : U64) (tok₀ : T) :
    Workers.Tracked Move (Agrees host) (initial t₀ tok₀) := by
  obtain ⟨phases, hin, hbooked⟩ := booked_initial host t₀ tok₀
  obtain rfl : phases = [] := List.eq_nil_of_length_eq_zero hin.length_eq
  exact ⟨[], hin, hbooked, reported_initial t₀ tok₀⟩

theorem paidIsCharged_of_booked {phases : List Phase} (h : Booked host s phases) :
    PaidIsCharged s := by
  obtain ⟨-, hpaid⟩ := h
  intro id row hrow
  have hcreated : s.db.created id = some row.asCreated := by rw [Db.created, hrow]; rfl
  constructor
  · intro hst
    exact hpaid.succeeded (by rw [Db.statusOf, hrow, Option.map_some, hst])
  · rintro payment hmem rfl
    obtain ⟨row', receipt, hrow', hid, hholds⟩ := hpaid.payment payment hmem
    obtain rfl := Option.some.inj (hcreated.symm.trans hrow')
    exact ⟨receipt, hid, hholds⟩

theorem chargedNotFailed_of_agrees {phases : List Phase} (h : Agrees host s phases) :
    ChargedNotFailed s := by
  obtain ⟨⟨hknown, -⟩, hreported⟩ := h
  rintro id row hrow ⟨receipt, hstored, hmandate, hcharge⟩
  have hcreated : s.db.created id = some row.asCreated := by rw [Db.created, hrow]; rfl
  have hbooks := hknown.sound.books
  -- a receipt is the trace of a used charge id
  have hused : s.network.ledger.storage.hasUsedCharge row.mandateId row.chargeId := by
    have hpid := (hbooks.payment_id hstored).2
    rw [hmandate, hcharge] at hpid
    rw [hpid] at hstored
    exact (hbooks.used_iff _ _).mpr ⟨receipt, hstored⟩
  have hnot : s.db.statusOf id ≠ some .permanentlyFailed := by
    rcases hreported.charged hcreated hused with hst | ⟨hst, -⟩ <;> rw [hst] <;> simp
  refine ⟨fun hst => hnot ?_, fun delivery hmem hid => hnot ?_⟩
  · rw [Db.statusOf, hrow, Option.map_some, hst]
  · exact hreported.failed delivery hmem id hid

/-- **Chain and database agree.** In every run a request that succeeded, and every payment, has its
receipt on the chain; and if every step of the run is prompt, no request that was charged has failed
for good, and no failure of one is announced. -/
theorem chain_database_agreement (hinj : Function.Injective host.sha256) (deps : PipelineDeps)
    (t₀ : U64) (tok₀ : T) (actions : List (Action T)) :
    PaidIsCharged (run host deps (initial t₀ tok₀) actions).shared ∧
      ((∀ q ∈ Runs.trace (exec host deps) (initial t₀ tok₀) actions, Prompt host q.1 q.2) →
        ChargedNotFailed (run host deps (initial t₀ tok₀) actions).shared) := by
  constructor
  · obtain ⟨phases, -, hbooked⟩ := booked_run hinj deps t₀ tok₀ actions
    exact paidIsCharged_of_booked hbooked
  · intro hprompt
    obtain ⟨phases, -, hagrees⟩ :=
      Runs.run_invariant_along (C := Prompt host)
        (fun s action hp h => agrees_exec hinj deps s action hp h) (agrees_initial host t₀ tok₀)
        hprompt
    exact chargedNotFailed_of_agrees hagrees

end

/-! ## A run that agrees, and one that does not

A request for charge `1` of the mandate of `mockInput`, with a signed authorization entry. In both
runs a first job takes the request up to the submission of transaction `0`. -/

section

open Registry (MockToken mockCreation mockFunds mockHost mockId)

def mockDeps : PipelineDeps := ⟨true, some 0, fun ciphertext _ => some ciphertext⟩

def mockSystem : System MockToken := initial 0 mockFunds

/-- Every request of this worker to the network is answered. -/
def mockWork (worker steps : ℕ) : List (Action MockToken) :=
  List.replicate steps (.work worker (.served [⟨2⟩]))

def mockRequest : List (Action MockToken) :=
  [.chain mockCreation, .setMerchant 1 ⟨2⟩, .setCheckoutSession 1 mockId ⟨3⟩,
    .createAuthorization ⟨1, 1, mockId, ⟨1⟩, 5, ⟨0⟩, 0, none, 720, .pending, none⟩,
    .completeAuthorization 1 1 42, .start 1]

/-- The transaction is executed while it is polled for. -/
def promptInclusion : List (Action MockToken) :=
  mockRequest ++ mockWork 0 11 ++ [.execute 0 [⟨2⟩]] ++ mockWork 0 3

/-- The transaction is executed after the polling has given up, and the request is tried again six
hours later. -/
def lateInclusion : List (Action MockToken) :=
  mockRequest ++ mockWork 0 14 ++
    [.execute 0 [⟨2⟩], .tick 21600000, .closeLedgers 4320, .start 1] ++ mockWork 1 10

set_option maxRecDepth 4000 in
/-- **The two need not agree.** The payer was charged, and the request has failed for good. -/
theorem late_inclusion_disagrees :
    ¬ ChargedNotFailed (run mockHost mockDeps mockSystem lateInclusion).shared := by
  intro h
  have hstatus : ((run mockHost mockDeps mockSystem lateInclusion).shared.db.chargeRequests.lookup
      1).map (fun row => (row.status, row.mandateId, row.chargeId))
      = some (.permanentlyFailed, mockId, ⟨1⟩) := by decide
  have hreceipt : ((run mockHost mockDeps mockSystem lateInclusion).shared.network.ledger.storage
      |>.getPayment (mockHost.derivePaymentId mockId ⟨1⟩)).map
      (fun receipt => (receipt.paymentId, receipt.mandateId, receipt.chargeId))
      = some (mockHost.derivePaymentId mockId ⟨1⟩, mockId, ⟨1⟩) := by decide
  obtain ⟨row, hrow, hcolumns⟩ := Option.map_eq_some_iff.mp hstatus
  obtain ⟨receipt, hstored, hfields⟩ := Option.map_eq_some_iff.mp hreceipt
  simp only [Prod.mk.injEq] at hcolumns hfields
  obtain ⟨hfailed, hmandate, hcharge⟩ := hcolumns
  obtain ⟨hpid, hmandate', hcharge'⟩ := hfields
  refine (h 1 row hrow ⟨receipt, ?_, ?_, ?_⟩).1 hfailed
  · rw [hpid, hstored]
  · rw [hmandate', hmandate]
  · rw [hcharge', hcharge]

set_option maxRecDepth 4000 in
theorem chain_database_agreement_mock :
    PaidIsCharged (run mockHost mockDeps mockSystem promptInclusion).shared ∧
      ChargedNotFailed (run mockHost mockDeps mockSystem promptInclusion).shared ∧
      ((run mockHost mockDeps mockSystem promptInclusion).shared.db.statusOf 1
        = some .succeeded) := by
  have hinj : Function.Injective mockHost.sha256 := Registry.encodeDigest_injective
  have hagree := chain_database_agreement hinj mockDeps 0 mockFunds promptInclusion
  have hprompt : ∀ q ∈ Runs.trace (exec mockHost mockDeps) mockSystem promptInclusion,
      Prompt mockHost q.1 q.2 := by decide
  exact ⟨hagree.1, hagree.2 hprompt, by decide⟩

end

end Paymap.Relayer
