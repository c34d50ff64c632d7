import Paymap.Relayer.Knowledge

set_option autoImplicit false

/-! # What becomes of an authorization

The relayer marks an authorization as consumed or as expired. It writes no other column of one and never
makes one pending again, and it neither creates a request nor changes what one was created with.
-/

namespace Paymap.Relayer

open Registry (Host)

/-- The authorization later on: its status has changed perhaps, and not back to pending. -/
structure ChargeAuthorization.Later (before after : ChargeAuthorization) : Prop where
  eq : after = { before with status := after.status, consumedAt := after.consumedAt }
  pending : after.status = .pending → before.status = .pending

namespace ChargeAuthorization.Later

variable {a b c : ChargeAuthorization}

theorem refl (a : ChargeAuthorization) : a.Later a := ⟨rfl, fun h => h⟩

theorem trans (hab : a.Later b) (hbc : b.Later c) : a.Later c where
  eq := by
    calc c = { b with status := c.status, consumedAt := c.consumedAt } := hbc.eq
      _ = { a with status := c.status, consumedAt := c.consumedAt } := by rw [hab.eq]
  pending h := hab.pending (hbc.pending h)

end ChargeAuthorization.Later

namespace Db

variable {db db₁ db' : Db}

/-- The authorizations are the same, but for what they are marked as. -/
structure Marks (db db' : Db) : Prop where
  merchants : db'.merchants = db.merchants
  absent : ∀ {id}, db.chargeAuthorizations.lookup id = none →
    db'.chargeAuthorizations.lookup id = none
  present : ∀ {id a}, db.chargeAuthorizations.lookup id = some a →
    ∃ a', db'.chargeAuthorizations.lookup id = some a' ∧ a.Later a'

/-- The tables later on, as far as no route of the API has written them. -/
structure Later (db db' : Db) : Prop extends db.Marks db' where
  created : ∀ id, db'.created id = db.created id

theorem Marks.of_same (hmerchants : db'.merchants = db.merchants)
    (hsame : db'.chargeAuthorizations = db.chargeAuthorizations) : db.Marks db' where
  merchants := hmerchants
  absent h := by rw [hsame, h]
  present {_ a} h := ⟨a, by rw [hsame, h], .refl a⟩

theorem Marks.refl (db : Db) : db.Marks db := .of_same rfl rfl

theorem Marks.trans (h : db.Marks db₁) (h' : db₁.Marks db') : db.Marks db' where
  merchants := h'.merchants.trans h.merchants
  absent hid := h'.absent (h.absent hid)
  present ha := by
    obtain ⟨a₁, ha₁, hlater⟩ := h.present ha
    obtain ⟨a', ha', hlater'⟩ := h'.present ha₁
    exact ⟨a', ha', hlater.trans hlater'⟩

theorem Later.refl (db : Db) : db.Later db := ⟨.refl db, fun _ => rfl⟩

/-- An authorization that is there was there before. -/
theorem Marks.before (h : db.Marks db') {id : Uuid} {a' : ChargeAuthorization}
    (ha' : db'.chargeAuthorizations.lookup id = some a') :
    ∃ a, db.chargeAuthorizations.lookup id = some a ∧ a.Later a' := by
  cases ha : db.chargeAuthorizations.lookup id with
  | none =>
      have hnone := h.absent ha
      rw [hnone] at ha'
      cases ha'
  | some a =>
      obtain ⟨a₁, ha₁, hlater⟩ := h.present ha
      obtain rfl := Option.some.inj (ha₁.symm.trans ha')
      exact ⟨a, rfl, hlater⟩

end Db

/-! ## Transactions of the relayer -/

/-- The statement makes an authorization pending. -/
def Statement.reopens : Statement → Bool
  | .updateAuthorization _ status _ => status = .pending
  | _ => false

section

variable {db db' : Db} {now : Time}

theorem exec_marks {statement : Statement} (hno : statement.reopens = false)
    (hok : statement.exec now db = .ok db') : db.Marks db' := by
  cases statement with
  | transition id source target data =>
      obtain ⟨-, row, -, -, rfl⟩ := transitionChargeRequest_ok.mp hok
      exact .of_same rfl rfl
  | setTransactionHash id hash =>
      simp only [Statement.exec, setTransactionHash] at hok
      split at hok
      · cases hok
        exact .of_same rfl rfl
      · cases hok
  | createPayment payment =>
      simp only [Statement.exec, createPayment] at hok
      split at hok
      · cases hok
      · cases hok
        exact .of_same rfl rfl
  | createDelivery delivery =>
      cases hok
      exact .of_same rfl rfl
  | updateAuthorization id status consumedAt =>
      simp only [Statement.exec, updateAuthorization] at hok
      split at hok
      · rename_i stored hstored
        cases hok
        have hstatus : status ≠ .pending := by simpa [Statement.reopens] using hno
        refine ⟨rfl, fun {id'} hid' => ?_, fun {id' a} ha => ?_⟩
        · have hne : id' ≠ id := by
            rintro rfl
            rw [hstored] at hid'
            cases hid'
          rw [FinMap.lookup_insert, if_neg hne, hid']
        · rw [FinMap.lookup_insert]
          by_cases hid : id' = id
          · subst hid
            obtain rfl := Option.some.inj (hstored.symm.trans ha)
            exact ⟨_, if_pos rfl, rfl, fun h => absurd h hstatus⟩
          · exact ⟨a, by rw [if_neg hid, ha], .refl a⟩
      · cases hok

theorem transact_marks {statements : List Statement}
    (hno : ∀ statement ∈ statements, statement.reopens = false)
    (hok : transact now statements db = .ok db') : db.Marks db' := by
  induction statements generalizing db with
  | nil =>
      obtain rfl := transact_nil_ok.mp hok
      exact .refl db
  | cons statement rest ih =>
      obtain ⟨db₁, hfirst, hrest⟩ := transact_cons_ok.mp hok
      have hmarks := exec_marks (hno statement List.mem_cons_self) hfirst
      exact hmarks.trans (ih (fun st hst => hno st (List.mem_cons_of_mem _ hst)) hrest)

end

/-! ## Steps -/

section

variable {T : Type} {reply : Reply} {s s' : Shared T} {p p' : Phase} {e : Effect}

/-- A worker commits nothing, or a transaction that makes no authorization pending. -/
theorem Worked.transacts (h : Worked reply s p e s' p') :
    s'.db = s.db ∨ ∃ statements, transact s.clock statements s.db = .ok s'.db ∧
      ∀ statement ∈ statements, statement.reopens = false := by
  cases h with
  | claim id row db hdb => exact .inr ⟨_, hdb, by simp [Relayer.claim, Statement.reopens]⟩
  | expire id row mandate authorizationId db hdb =>
      exact .inr ⟨_, hdb, by simp [Statement.reopens]⟩
  | simulate id row mandate db hdb => exact .inr ⟨_, hdb, by simp [Statement.reopens]⟩
  | submit id row mandate db hdb => exact .inr ⟨_, hdb, by simp [Statement.reopens]⟩
  | setHash id row mandate error hash db hdb => exact .inr ⟨_, hdb, by simp [Statement.reopens]⟩
  | retry p id row source classified now nextAttemptAt db hfails hdue hdb =>
      exact .inr ⟨_, hdb, by simp [scheduleRetry, Statement.reopens]⟩
  | giveUp p id row source classified now db hfails hexhausted hdb =>
      exact .inr ⟨_, hdb, by simp [failPermanently, Statement.reopens]⟩
  | succeed id row mandate receipt txHash ledger now db hdb =>
      refine .inr ⟨_, hdb, ?_⟩
      unfold recordSuccess
      cases row.authorizationId with
      | none => split <;> simp [Statement.reopens]
      | some authorizationId => split <;> simp [Statement.reopens]
  | _ => exact .inl rfl

theorem Worked.later (h : Worked reply s p e s' p') : s.db.Later s'.db := by
  have hcreated := h.passes.created
  rcases h.transacts with hsame | ⟨statements, hok, hno⟩
  · exact ⟨.of_same (by rw [hsame]) (by rw [hsame]), hcreated⟩
  · exact ⟨transact_marks hno hok, hcreated⟩

/-- A route of the API that registers a merchant, or issues or completes an authorization. -/
def Action.isRoute : Action T → Bool
  | .createAuthorization _ => true
  | .completeAuthorization _ _ _ => true
  | .setMerchant _ _ => true
  | _ => false

theorem outsideEffect_later (host : Host T) {action : Action T} (hroute : action.isRoute = false)
    (s : Shared T) : s.db.Later (outsideEffect host action s).db := by
  cases action with
  | createAuthorization => cases hroute
  | completeAuthorization => cases hroute
  | setMerchant => cases hroute
  | recoverStale => exact ⟨.of_same rfl rfl, created_recover s.clock s.db⟩
  | _ => exact ⟨.of_same rfl rfl, fun _ => rfl⟩

/-- **Whatever happens that is no route's doing** leaves requests and authorizations what they are. -/
theorem later_exec (host : Host T) (deps : PipelineDeps) {s : System T} {action : Action T}
    (htracked : Workers.Tracked Move (fun _ _ => True) s) (hroute : action.isRoute = false) :
    Workers.Tracked Move (fun _ _ => True) (exec host deps s action) ∧
      s.shared.db.Later (exec host deps s action).shared.db := by
  obtain ⟨phases, hin, -⟩ := htracked
  have hbefore : Workers.Tracked Move (fun shared _ => s.shared = shared) s := ⟨phases, hin, rfl⟩
  suffices hafter : Workers.Tracked Move (fun shared _ => s.shared.db.Later shared.db)
      (exec host deps s action) by
    obtain ⟨phases', hin', hlater⟩ := hafter
    exact ⟨⟨phases', hin', trivial⟩, hlater⟩
  cases action with
  | start id =>
      refine hbefore.start_to (processChargeRequest_obeys deps id) fun phases hsame => ?_
      rw [← hsame]
      exact .refl _
  | work worker reply =>
      refine hbefore.work_to (fun phases p e k p' hsame hp hk hmove => ?_) fun _ _ hsame => ?_
      · rw [← hsame]
        exact (worked_of_move hmove).later
      · rw [← hsame]
        exact .refl _
  | _ => exact ⟨phases, hin, outsideEffect_later host hroute s.shared⟩

end

end Paymap.Relayer
