import Paymap.Relayer.Records

set_option autoImplicit false

/-! # Payments are charges

What the relayer says was paid was paid: a `Payment` row is only written from a receipt that the
contract holds, and a request is `succeeded` only with such a row. This needs nothing of the network
but that it does not report a charge that was not made.
-/

namespace Paymap.Relayer

open Registry (BytesN Host Ledger Mandate PaymentReceipt)

section

variable {T : Type} {host : Host T} {reply : Reply} {s s' : Shared T} {p p' : Phase} {e : Effect}

/-- The contract holds `receipt`, for this mandate and this charge. -/
structure HoldsReceipt (l : Ledger T) (mandateId chargeId : BytesN) (receipt : PaymentReceipt) :
    Prop where
  stored : l.storage.getPayment receipt.paymentId = some receipt
  mandateId_eq : receipt.mandateId = mandateId
  chargeId_eq : receipt.chargeId = chargeId

structure Paid (s : Shared T) : Prop where
  payment : ∀ payment ∈ s.db.payments, ∃ row receipt,
    s.db.created payment.chargeRequestId = some row ∧ payment.paymentId = receipt.paymentId ∧
      HoldsReceipt s.network.ledger row.mandateId row.chargeId receipt
  succeeded : ∀ {id : Uuid}, s.db.statusOf id = some .succeeded →
    ∃ payment ∈ s.db.payments, payment.chargeRequestId = id

/-- Adding payments and rows, and going on with the ledger, leaves what was paid paid. -/
theorem Paid.frame (h : Paid s) (hpayments : s'.db.payments = s.db.payments)
    (hcreated : ∀ {id row}, s.db.created id = some row → s'.db.created id = some row)
    (hreceipts : ∀ {pid r}, s.network.ledger.storage.getPayment pid = some r →
      s'.network.ledger.storage.getPayment pid = some r)
    (hsucceeded : ∀ {id}, s'.db.statusOf id = some .succeeded →
      s.db.statusOf id = some .succeeded) : Paid s' where
  payment payment hmem := by
    rw [hpayments] at hmem
    obtain ⟨row, receipt, hrow, hid, hholds⟩ := h.payment payment hmem
    exact ⟨row, receipt, hcreated hrow, hid, { hholds with stored := hreceipts hholds.stored }⟩
  succeeded hst := by
    rw [hpayments]
    exact h.succeeded (hsucceeded hst)

/-! ## Steps of workers -/

/-- A step of a worker writes no payment and makes no request succeed, or it records a success. -/
theorem Worked.payments (h : Worked reply s p e s' p') :
    (s'.db.payments = s.db.payments ∧
      ∀ id, s'.db.statusOf id = some .succeeded → s.db.statusOf id = some .succeeded) ∨
    ∃ id row mandate receipt txHash ledger,
      p = .answered id row mandate (.success receipt txHash ledger) ∧
      s.db.Moves s'.db id .submitted .succeeded ∧
      s'.db.payments = s.db.payments ++ [newPayment row receipt txHash ledger] := by
  rcases h.records with hquiet | ⟨id, row, mandate, receipt, txHash, ledger, _, htold, hmoves,
    hpayments, -, -⟩ | ⟨id, row, source, reason, hmoves, hpayments, -⟩
  · exact .inl ⟨hquiet.payments, fun id => (hquiet.terminal id .succeeded rfl).mp⟩
  · exact .inr ⟨id, row, mandate, receipt, txHash, ledger, htold, hmoves, hpayments⟩
  · exact .inl ⟨hpayments, fun id' hst => hmoves.of_becomes hst (by simp)⟩

theorem Worked.ledger_eq (h : Worked reply s p e s' p') :
    s'.network.ledger = s.network.ledger := by
  cases h <;> rfl

theorem Paid.worked {phases : List Phase} {i : ℕ} (h : Paid s) (hk : Known host s phases)
    (hp : phases[i]? = some p) (hw : Worked reply s p e s' p') : Paid s' := by
  have hcreated : ∀ {id row}, s.db.created id = some row → s'.db.created id = some row := by
    intro id row hrow
    rw [hw.passes.created, hrow]
  rcases hw.payments with ⟨hpayments, hsucceeded⟩ | ⟨id, row, mandate, receipt, txHash, ledger,
    rfl, hmoves, hpayments⟩
  · refine h.frame hpayments hcreated (fun hr => ?_) fun hst => hsucceeded _ hst
    rw [hw.ledger_eq, hr]
  · -- the receipt the worker was told of is on the ledger, for the row in its hands
    have hknows := hk.knows _ (List.mem_of_getElem? hp)
    obtain ⟨entry, executedIn, htx⟩ := hknows.charged rfl
    obtain ⟨hstored, hmandate, hcharge⟩ := hk.sound.receipt htx
    have hrow : s.db.created id = some row.asCreated := hknows.row rfl
    have hid : row.asCreated.id = id := hk.keyed.id_eq hrow
    constructor
    · intro payment hmem
      rw [hpayments] at hmem
      rcases List.mem_append.mp hmem with hmem | hmem
      · obtain ⟨row', receipt', hrow', hpid, hholds⟩ := h.payment payment hmem
        refine ⟨row', receipt', hcreated hrow', hpid, { hholds with stored := ?_ }⟩
        rw [hw.ledger_eq]
        exact hholds.stored
      · obtain rfl := List.mem_singleton.mp hmem
        refine ⟨row.asCreated, receipt, hcreated ?_, rfl, ⟨?_, hmandate, hcharge⟩⟩
        · show s.db.created row.asCreated.id = some row.asCreated
          rw [hid, hrow]
        · rw [hw.ledger_eq, hstored]
    · intro id' hst
      rw [hpayments]
      by_cases hid' : id' = id
      · exact ⟨_, List.mem_append_right _ List.mem_cons_self, hid.trans hid'.symm⟩
      · rw [hmoves.others id' hid'] at hst
        obtain ⟨payment, hmem, hreq⟩ := h.succeeded hst
        exact ⟨payment, List.mem_append_left _ hmem, hreq⟩

/-! ## Everything else -/

theorem Happens.getPayment (hsound : s.network.Sound host) {action : Action T}
    (h : Happens host s action s') {pid : BytesN} {r : PaymentReceipt}
    (hr : s.network.ledger.storage.getPayment pid = some r) :
    s'.network.ledger.storage.getPayment pid = some r := by
  cases h with
  | apart _ _ _ _ _ hledger _ => rw [hledger, hr]
  | execute hash authorized =>
      rcases s.network.execute_cases host hash authorized with heq | ⟨args, c, -, -, heq⟩
      · show (s.network.execute host hash authorized).ledger.storage.getPayment pid = some r
        rw [heq, hr]
      · show (s.network.execute host hash authorized).ledger.storage.getPayment pid = some r
        rw [heq]
        exact Registry.getPayment_exec hsound.books hr _
  | chain step => exact Registry.getPayment_exec hsound.books hr step
  | _ => exact hr

theorem Paid.happens (h : Paid s) (hsound : s.network.Sound host) {action : Action T}
    (hh : Happens host s action s') : Paid s' :=
  h.frame hh.quiet.payments hh.created (hh.getPayment hsound)
    (hh.quiet.terminal _ .succeeded rfl).mp

/-! ## Every reachable state -/

/-- Who owns and knows what, and what was paid. -/
def Booked (host : Host T) (s : Shared T) (phases : List Phase) : Prop :=
  Known host s phases ∧ Paid s

theorem booked_exec (hinj : Function.Injective host.sha256) (deps : PipelineDeps) (s : System T)
    (action : Action T) (h : Workers.Tracked Move (Booked host) s) :
    Workers.Tracked Move (Booked host) (exec host deps s action) := by
  refine tracked_exec h ?_ ?_ ?_
  · intro phases i reply p e k s' p' _ hinv hp _ hw
    exact ⟨hinv.1.worked hp hw, hinv.2.worked hinv.1 hp hw⟩
  · intro phases id hinv
    exact ⟨hinv.1.start id, hinv.2⟩
  · intro phases s' _ hinv hh
    exact ⟨hinv.1.happens hinj hh, hinv.2.happens hinv.1.sound hh⟩

theorem booked_initial (host : Host T) (t₀ : U64) (tok₀ : T) :
    Workers.Tracked Move (Booked host) (initial t₀ tok₀) := by
  refine ⟨[], ⟨rfl, fun hi => by cases hi⟩, known_initial host t₀ tok₀, ⟨?_, ?_⟩⟩
  · intro payment hmem
    cases hmem
  · intro id hst
    cases hst

/-- **In every run, what was paid was charged.** -/
theorem booked_run (hinj : Function.Injective host.sha256) (deps : PipelineDeps) (t₀ : U64)
    (tok₀ : T) (actions : List (Action T)) :
    Workers.Tracked Move (Booked host) (run host deps (initial t₀ tok₀) actions) :=
  Runs.run_invariant (booked_exec hinj deps) (booked_initial host t₀ tok₀) actions

end

end Paymap.Relayer
