import Paymap.Webhook.Recovery

set_option autoImplicit false

/-! # How often a delivery is attempted

A worker claims a row by a guarded update, and from then on until the update that ends the attempt the row
is `delivering` and the worker's. So two requests for one delivery are never under way together, and none
is made for a row that is delivered or given up, whatever workers and jobs there are.

The number of the attempt is another matter. It comes from a row that was read before the claim, and the
guard compares the status, which is `retry_scheduled` again after every failed attempt. A worker that stalls
between its read and its claim turns the count back, and the schedule starts over. The count is right, and
the schedule bounds the attempts, in the runs in which every claim counts from the stored row (`fresh`).
-/

namespace Paymap.Webhook

open Relayer (Uuid Time)

/-! ## Claims and requests -/

inductive Deed where
  | claimed (id : Uuid)
  /-- A request was made for a delivery. -/
  | posted (id : Uuid)
deriving DecidableEq

/-- An effect of a worker with this job. -/
def effectDeeds (job : Option Uuid) (reply : Reply) (s : Shared) : Effect → List Deed
  | .transition id source .delivering data =>
      match reply, transitionWebhookDelivery s.db id source .delivering data with
      | .lost, _ => []
      | _, .ok _ => [.claimed id]
      | _, .error _ => []
  | .send _ => (job.map Deed.posted).toList
  | _ => []

def deeds (s : System) : Action → List Deed
  | .work worker reply =>
      match s.running[worker]? with
      | some (.call e _) => effectDeeds s.shared.jobs[worker]?.join reply s.shared e
      | _ => []
  | _ => []

def claims (h : List Deed) (id : Uuid) : ℕ := h.countP (· = .claimed id)

def posts (h : List Deed) (id : Uuid) : ℕ := h.countP (· = .posted id)

/-- What was done in a run. -/
def history (deps : WebhookDeliveryDeps) (actions : List Action) : List Deed :=
  Runs.notes (exec deps) deeds initial actions

/-- The claim counts from the stored row. -/
def Effect.fresh (db : Db) : Effect → Bool
  | .transition id source .delivering data =>
      (db.webhookDeliveries.lookup id).all fun row =>
        row.status ≠ source || data.attemptCount = some (row.attemptCount + 1)
  | _ => true

/-- A claim that is carried out finds the count that the worker has read. -/
def fresh (s : System) : Action → Bool
  | .work worker reply =>
      match s.running[worker]? with
      | some (.call e _) => reply = .lost || e.fresh s.shared.db
      | _ => true
  | _ => true

/-! ## A worker, move by move -/

inductive Phase where
  | opening (id : Uuid)
  | read (id : Uuid) (delivery : WebhookDelivery)
  /-- The row is claimed, for the attempt of this number. -/
  | claimed (id : Uuid) (attempt : ℕ)
  | sent (id : Uuid) (attempt : ℕ)
  | over

def Phase.id? : Phase → Option Uuid
  | .opening id => some id
  | .read id _ => some id
  | .claimed id _ => some id
  | .sent id _ => some id
  | .over => none

/-- The row that is the worker's, and the number of its attempt. -/
def Phase.holds? : Phase → Option (Uuid × ℕ)
  | .claimed id attempt => some (id, attempt)
  | .sent id attempt => some (id, attempt)
  | _ => none

inductive Move : Phase → (e : Effect) → Answer e → Phase → Prop where
  | find (id : Uuid) (answer : Except Thrown (Option WebhookDelivery)) :
      Move (.opening id) (.findWebhookDelivery id) answer .over
  | found (id : Uuid) (delivery : WebhookDelivery) :
      Move (.opening id) (.findWebhookDelivery id) (.ok (some delivery)) (.read id delivery)
  | claim (id : Uuid) (delivery : WebhookDelivery) :
      Move (.read id delivery) (.transition id (claimFrom delivery) .delivering
        { attemptCount := some (delivery.attemptCount + 1) }) (.ok ())
        (.claimed id (delivery.attemptCount + 1))
  | claimFailed (id : Uuid) (delivery : WebhookDelivery) (e : Thrown) :
      Move (.read id delivery) (.transition id (claimFrom delivery) .delivering
        { attemptCount := some (delivery.attemptCount + 1) }) (.error e) .over
  | now (p : Phase) (time : Time) : Move p .now time p
  | findMerchant (p : Phase) (merchantId : Uuid) (answer : Except Thrown (Option Merchant)) :
      Move p (.findMerchant merchantId) answer p
  | send (id : Uuid) (attempt : ℕ) (input : SendWebhookInput) (answer : Option SendOutcome) :
      Move (.claimed id attempt) (.send input) answer (.sent id attempt)
  | settle (p : Phase) (id : Uuid) (attempt : ℕ) (target : WebhookDeliveryStatus) (data : RowData)
      (answer : Except Thrown Unit) (holds : p.holds? = some (id, attempt))
      (target_ne : target ≠ .pending ∧ target ≠ .delivering) (count : data.attemptCount = none)
      (retry : target = .retryScheduled → attempt < maxWebhookAttempts) :
      Move p (.transition id .delivering target data) answer .over

section

variable {deps : WebhookDeliveryDeps} {id : Uuid} {delivery : WebhookDelivery}

theorem follows_transition {p : Phase} {attempt : ℕ} {target : WebhookDeliveryStatus} {data : RowData}
    {outcome : WebhookDeliveryOutcome} (hholds : p.holds? = some (id, attempt))
    (htarget : target ≠ .pending ∧ target ≠ .delivering) (hcount : data.attemptCount = none)
    (hretry : target = .retryScheduled → attempt < maxWebhookAttempts) :
    (transition id .delivering target data >>= fun _ => pure outcome).Follows Move (fun _ _ => True)
      p := by
  have hmove : ∀ answer, Move p (.transition id .delivering target data) answer .over :=
    fun answer => .settle p id attempt target data answer hholds htarget hcount hretry
  rintro (e | u)
  · exact ⟨.over, hmove _, trivial⟩
  · exact ⟨.over, hmove _, trivial⟩

theorem follows_deadLetter {p : Phase} {attempt : ℕ} (hholds : p.holds? = some (id, attempt))
    (reason : String) : (deadLetter id reason).Follows Move (fun _ _ => True) p :=
  follows_transition hholds (by simp) rfl (by simp)

theorem follows_retryOrDeadLetter (reason : String) (now : Time) :
    (retryOrDeadLetter id delivery reason now).Follows Move (fun _ _ => True)
      (.sent id (delivery.attemptCount + 1)) := by
  unfold retryOrDeadLetter
  split
  · exact follows_deadLetter rfl _
  · rename_i retryAt hretry
    have hsome : (nextWebhookRetryAt (delivery.attemptCount + 1) now).isSome := by rw [hretry]; rfl
    exact follows_transition rfl (by simp) rfl fun _ =>
      ((nextWebhookRetryAt_isSome_iff _ _).mp hsome).2

theorem follows_settle (outcome : SendOutcome) :
    (settle id delivery outcome).Follows Move (fun _ _ => True)
      (.sent id (delivery.attemptCount + 1)) := by
  unfold settle
  cases classifyWebhookDeliveryOutcome outcome with
  | success => exact follows_transition rfl (by simp) rfl (by simp)
  | permanent => exact follows_deadLetter rfl _
  | retryable => exact fun now => ⟨_, .now _ now, follows_retryOrDeadLetter _ now⟩

theorem follows_deliver (merchant : Option Merchant) :
    (deliver deps id delivery merchant).Follows Move (fun _ _ => True)
      (.claimed id (delivery.attemptCount + 1)) := by
  unfold deliver
  split
  · exact follows_deadLetter rfl _
  · split
    · exact follows_deadLetter rfl _
    · trivial
    · intro now
      refine ⟨_, .now _ now, ?_⟩
      rintro (_ | outcome)
      · exact ⟨_, .send id _ _ _, trivial⟩
      · exact ⟨_, .send id _ _ _, follows_settle outcome⟩

theorem follows_processWebhookDelivery (deps : WebhookDeliveryDeps) (id : Uuid) :
    (processWebhookDelivery deps id).Follows Move (fun _ _ => True) (.opening id) := by
  rintro (e | _ | delivery)
  · exact ⟨_, .find id _, trivial⟩
  · exact ⟨_, .find id _, trivial⟩
  · refine ⟨_, .found id delivery, ?_⟩
    rintro (e | u)
    · refine ⟨_, .claimFailed id delivery e, ?_⟩
      cases e <;> trivial
    · refine ⟨_, .claim id delivery, ?_⟩
      rintro (e | merchant)
      · exact ⟨_, .findMerchant _ _ _, trivial⟩
      · exact ⟨_, .findMerchant _ _ _, follows_deliver merchant⟩

end

/-! ## What an effect does to a row -/

/-- A transition is carried out, or nothing happens and the worker is not told that it was. -/
theorem perform_transition (reply : Reply) (id : Uuid) (source target : WebhookDeliveryStatus)
    (data : RowData) (s : Shared) :
    ((perform reply (.transition id source target data) s).2 = s ∧
      (perform reply (.transition id source target data) s).1 ≠ .ok () ∧
      ∀ job, effectDeeds job reply s (.transition id source target data) = []) ∨
    ∃ row, s.db.webhookDeliveries.lookup id = some row ∧ row.status = source ∧ reply ≠ .lost ∧
      (perform reply (.transition id source target data) s).2
        = { s with db := s.db.setDelivery id (row.transitioned target data) } ∧
      ∀ job, effectDeeds job reply s (.transition id source target data)
        = if target = .delivering then [.claimed id] else [] := by
  cases hcommits : transitionWebhookDelivery s.db id source target data with
  | error e =>
      refine .inl ⟨?_, ?_, fun job => ?_⟩
      · cases reply <;> simp only [perform, hcommits]
      · cases reply <;> simp [perform, hcommits]
      · cases target with
        | delivering => cases reply <;> simp only [effectDeeds, hcommits]
        | _ => rfl
  | ok db =>
      by_cases hlost : reply = .lost
      · subst hlost
        refine .inl ⟨rfl, by simp [perform], fun job => ?_⟩
        cases target <;> rfl
      · obtain ⟨-, row, hrow, hstatus, rfl⟩ := transitionWebhookDelivery_ok.mp hcommits
        refine .inr ⟨row, hrow, hstatus, hlost, ?_, fun job => ?_⟩
        · cases reply with
          | lost => exact absurd rfl hlost
          | _ => simp only [perform, hcommits]
        · cases target with
          | delivering =>
              cases reply with
              | lost => exact absurd rfl hlost
              | _ => simp only [effectDeeds, hcommits, if_true]
          | _ => rfl

/-- Any other effect leaves everything as it is. -/
theorem perform_other (reply : Reply) {e : Effect} (s : Shared)
    (hne : ∀ id source target data, e ≠ .transition id source target data) :
    (perform reply e s).2 = s := by
  cases e with
  | transition id source target data => exact absurd rfl (hne id source target data)
  | now => rfl
  | _ => cases reply <;> rfl

/-! ## Whose a row is -/

/-- A row that a worker holds is `delivering`, and no other worker's. -/
structure Held (s : Shared) (phases : List Phase) : Prop where
  length_eq : phases.length = s.jobs.length
  job : ∀ {i : ℕ} {p id job}, phases[i]? = some p → p.id? = some id →
    s.jobs[i]? = some (some job) → job = id
  holding : ∀ {i : ℕ} {p id attempt}, phases[i]? = some p → p.holds? = some (id, attempt) →
    ∃ row, s.db.webhookDeliveries.lookup id = some row ∧ row.status = .delivering
  unique : ∀ {i j : ℕ} {p q id m n}, phases[i]? = some p → phases[j]? = some q →
    p.holds? = some (id, m) → q.holds? = some (id, n) → i = j

variable {s s' : Shared} {phases : List Phase}

/-- A worker goes on to a phase in which it holds no more than it held. -/
theorem Held.set (h : Held s phases) {i : ℕ} {p p' : Phase} (hp : phases[i]? = some p)
    (hjobs : s'.jobs = s.jobs) (hid : ∀ id, p'.id? = some id → p.id? = some id)
    (hholds : ∀ id n, p'.holds? = some (id, n) → ∃ m, p.holds? = some (id, m))
    (hrows : ∀ {j : ℕ} {q : Phase} {id n row}, (phases.set i p')[j]? = some q →
      q.holds? = some (id, n) → s.db.webhookDeliveries.lookup id = some row →
      row.status = .delivering →
      ∃ row', s'.db.webhookDeliveries.lookup id = some row' ∧ row'.status = .delivering) :
    Held s' (phases.set i p') := by
  -- whoever holds a row now held it before
  have hbefore : ∀ {j : ℕ} {q : Phase} {id n}, (phases.set i p')[j]? = some q →
      q.holds? = some (id, n) → ∃ q₀ m, phases[j]? = some q₀ ∧ q₀.holds? = some (id, m) := by
    intro j q id n hq hn
    rcases Workers.getElem?_set_cases hq with ⟨rfl, rfl⟩ | ⟨-, hold⟩
    · obtain ⟨m, hm⟩ := hholds id n hn
      exact ⟨p, m, hp, hm⟩
    · exact ⟨q, n, hold, hn⟩
  refine ⟨by rw [List.length_set, hjobs, h.length_eq], ?_, ?_, ?_⟩
  · intro j q id job hq hqid hjob
    rw [hjobs] at hjob
    rcases Workers.getElem?_set_cases hq with ⟨rfl, rfl⟩ | ⟨-, hold⟩
    · exact h.job hp (hid id hqid) hjob
    · exact h.job hold hqid hjob
  · intro j q id n hq hn
    obtain ⟨q₀, m, hq₀, hm⟩ := hbefore hq hn
    obtain ⟨row, hrow, hstatus⟩ := h.holding hq₀ hm
    exact hrows hq hn hrow hstatus
  · intro j k q r id m n hq hr hm hn
    obtain ⟨q₀, m', hq₀, hm'⟩ := hbefore hq hm
    obtain ⟨r₀, n', hr₀, hn'⟩ := hbefore hr hn
    exact h.unique hq₀ hr₀ hm' hn'

/-- A worker claims a row that nobody holds. -/
theorem Held.claim (h : Held s phases) {i : ℕ} {p p' : Phase} {id : Uuid} {row row' : WebhookDelivery}
    (hp : phases[i]? = some p) (hrow : s.db.webhookDeliveries.lookup id = some row)
    (hstatus : row.status ≠ .delivering) (hstatus' : row'.status = .delivering)
    (hid : ∀ id', p'.id? = some id' → p.id? = some id')
    (hholds : ∀ id' n, p'.holds? = some (id', n) → id' = id) :
    Held { s with db := s.db.setDelivery id row' } (phases.set i p') := by
  -- nobody has held it, as it was not being delivered
  have hnobody : ∀ {j : ℕ} {q : Phase} {n}, phases[j]? = some q → q.holds? ≠ some (id, n) := by
    intro j q n hq hn
    obtain ⟨stored, hstored, hdelivering⟩ := h.holding hq hn
    obtain rfl := Option.some.inj (hrow.symm.trans hstored)
    exact hstatus hdelivering
  have hstored : ∀ id', (s.db.setDelivery id row').webhookDeliveries.lookup id'
      = if id' = id then some row' else s.db.webhookDeliveries.lookup id' :=
    fun id' => lookup_setDelivery s.db id id' row'
  refine ⟨by rw [List.length_set]; exact h.length_eq, ?_, ?_, ?_⟩
  · intro j q id' job hq hqid hjob
    rcases Workers.getElem?_set_cases hq with ⟨rfl, rfl⟩ | ⟨-, hold⟩
    · exact h.job hp (hid id' hqid) hjob
    · exact h.job hold hqid hjob
  · intro j q id' n hq hn
    show ∃ stored, (s.db.setDelivery id row').webhookDeliveries.lookup id' = some stored ∧ _
    rw [hstored]
    split_ifs with hsame
    · exact ⟨row', rfl, hstatus'⟩
    · rcases Workers.getElem?_set_cases hq with ⟨rfl, rfl⟩ | ⟨-, hold⟩
      · exact absurd (hholds id' n hn) hsame
      · exact h.holding hold hn
  · intro j k q r id' m n hq hr hm hn
    rcases Workers.getElem?_set_cases hq with ⟨rfl, rfl⟩ | ⟨-, hold⟩
    · obtain rfl := hholds id' m hm
      rcases Workers.getElem?_set_cases hr with ⟨rfl, rfl⟩ | ⟨-, hold'⟩
      · rfl
      · exact absurd hn (hnobody hold')
    · rcases Workers.getElem?_set_cases hr with ⟨rfl, rfl⟩ | ⟨-, hold'⟩
      · obtain rfl := hholds id' n hn
        exact absurd hm (hnobody hold)
      · exact h.unique hold hold' hm hn

theorem claimFrom_ne (delivery : WebhookDelivery) : claimFrom delivery ≠ .delivering := by
  unfold claimFrom
  split <;> simp

/-- **A worker's step** keeps what is held apart. -/
theorem Held.worked (h : Held s phases) {i : ℕ} {reply : Reply} {p p' : Phase} {e : Effect}
    (hp : phases[i]? = some p) (hmove : Move p e (perform reply e s).1 p') :
    Held (perform reply e s).2 (phases.set i p') := by
  -- a step that leaves the tables as they are
  have hidle : ∀ {q : Phase}, (perform reply e s).2 = s → (∀ id, q.id? = some id → p.id? = some id) →
      (∀ id n, q.holds? = some (id, n) → ∃ m, p.holds? = some (id, m)) →
      Held (perform reply e s).2 (phases.set i q) := by
    intro q hsame hid hholds
    rw [hsame]
    exact h.set hp rfl hid hholds fun _ _ hrow hstatus => ⟨_, hrow, hstatus⟩
  have hother := perform_other reply (e := e) s
  generalize hanswer : (perform reply e s).1 = answer at hmove
  cases hmove with
  | find id => exact hidle (hother (by simp)) (by simp [Phase.id?]) (by simp [Phase.holds?])
  | found id delivery =>
      exact hidle (hother (by simp)) (by simp [Phase.id?]) (by simp [Phase.holds?])
  | now => exact hidle (hother (by simp)) (fun _ h => h) fun _ n h => ⟨n, h⟩
  | findMerchant => exact hidle (hother (by simp)) (fun _ h => h) fun _ n h => ⟨n, h⟩
  | send id attempt input =>
      exact hidle (hother (by simp)) (fun _ h => h) fun _ n h => ⟨n, h⟩
  | claim id delivery =>
      rcases perform_transition reply id (claimFrom delivery) .delivering
        { attemptCount := some (delivery.attemptCount + 1) } s with ⟨-, hnot, -⟩ |
          ⟨row, hrow, hstatus, -, hafter, -⟩
      · exact absurd hanswer hnot
      · rw [hafter]
        refine h.claim hp hrow ?_ rfl (fun _ h => h) ?_
        · rw [hstatus]
          exact claimFrom_ne delivery
        · rintro id' n ⟨⟩
          rfl
  | claimFailed id delivery e =>
      rcases perform_transition reply id (claimFrom delivery) .delivering
        { attemptCount := some (delivery.attemptCount + 1) } s with ⟨hsame, -, -⟩ |
          ⟨row, hrow, hstatus, -, hafter, -⟩
      · exact hidle hsame (by simp [Phase.id?]) (by simp [Phase.holds?])
      · -- it was carried out, and the worker is not told
        rw [hafter]
        refine h.claim hp hrow ?_ rfl (by simp [Phase.id?]) (by simp [Phase.holds?])
        rw [hstatus]
        exact claimFrom_ne delivery
  | settle p id attempt target data answer hholds htarget hcount hretry =>
      rcases perform_transition reply id .delivering target data s with ⟨hsame, -, -⟩ |
        ⟨row, hrow, hstatus, -, hafter, -⟩
      · exact hidle hsame (by simp [Phase.id?]) (by simp [Phase.holds?])
      · rw [hafter]
        refine h.set hp rfl (by simp [Phase.id?]) (by simp [Phase.holds?]) ?_
        intro j q id' n row' hq hn hrow' hstatus'
        -- whoever else holds a row holds another one
        have hne : id' ≠ id := by
          rintro rfl
          rcases Workers.getElem?_set_cases hq with ⟨-, rfl⟩ | ⟨hji, hold⟩
          · cases hn
          · exact hji (h.unique hold hp hn hholds)
        refine ⟨row', ?_, hstatus'⟩
        show (s.db.setDelivery id _).webhookDeliveries.lookup id' = some row'
        rw [lookup_setDelivery, if_neg hne, hrow']

/-! ## The count -/

theorem claims_append_claimed (h : List Deed) (id id' : Uuid) :
    claims (h ++ [.claimed id]) id' = claims h id' + if id' = id then 1 else 0 := by
  simp [claims, List.countP_cons, eq_comm]

theorem claims_append_posted (h : List Deed) (id id' : Uuid) :
    claims (h ++ [.posted id]) id' = claims h id' := by
  simp [claims]

theorem posts_append_posted (h : List Deed) (id id' : Uuid) :
    posts (h ++ [.posted id]) id' = posts h id' + if id' = id then 1 else 0 := by
  simp [posts, List.countP_cons, eq_comm]

theorem posts_append_claimed (h : List Deed) (id id' : Uuid) :
    posts (h ++ [.claimed id]) id' = posts h id' := by
  simp [posts]

/-- The row counts its claims, and when it may be claimed it may be claimed once more. -/
structure Counts (row : WebhookDelivery) (count : ℕ) : Prop where
  counted : row.attemptCount = count
  bounded : count ≤ maxWebhookAttempts
  pending : row.status = .pending → count = 0
  retry : row.status = .retryScheduled → count < maxWebhookAttempts

/-- What the deeds so far say of the rows and of the workers. -/
structure Tally (s : Shared) (phases : List Phase) (h : List Deed) : Prop where
  rows : ∀ {id row}, s.db.webhookDeliveries.lookup id = some row → Counts row (claims h id)
  absent : ∀ {id}, s.db.webhookDeliveries.lookup id = none → claims h id = 0
  holder : ∀ {i : ℕ} {p id n}, phases[i]? = some p → p.holds? = some (id, n) → claims h id = n
  posted : ∀ id, posts h id ≤ claims h id
  unsent : ∀ {i : ℕ} {id n}, phases[i]? = some (.claimed id n) → posts h id < claims h id

variable {h : List Deed}

/-- A row that may be claimed has an attempt left. -/
theorem Counts.lt {row : WebhookDelivery} {count : ℕ} (hrow : Counts row count)
    {delivery : WebhookDelivery} (hstatus : row.status = claimFrom delivery) :
    count < maxWebhookAttempts := by
  unfold claimFrom at hstatus
  split at hstatus
  · exact hrow.retry hstatus
  · rw [hrow.pending hstatus]
    decide

/-- A worker goes on, and has done nothing that counts. -/
theorem Tally.idle (ht : Tally s phases h) {i : ℕ} {p p' : Phase} (hp : phases[i]? = some p)
    (hp' : p' = p ∨ p'.holds? = none) : Tally s (phases.set i p') (h ++ []) := by
  rw [List.append_nil]
  refine ⟨ht.rows, ht.absent, fun {j q id n} hq hn => ?_, ht.posted, fun {j id n} hq => ?_⟩
  · rcases Workers.getElem?_set_cases hq with ⟨rfl, rfl⟩ | ⟨-, hold⟩
    · rcases hp' with rfl | hnone
      · exact ht.holder hp hn
      · rw [hnone] at hn
        cases hn
    · exact ht.holder hold hn
  · rcases Workers.getElem?_set_cases hq with ⟨rfl, heq⟩ | ⟨-, hold⟩
    · rcases hp' with hsame | hnone
      · exact ht.unsent (by rw [hp, ← hsame, ← heq])
      · rw [← heq] at hnone
        cases hnone
    · exact ht.unsent hold

/-- A claim that counts from the stored row. -/
theorem Tally.claim (ht : Tally s phases h) (hheld : Held s phases) {i : ℕ} {p' : Phase} {id : Uuid}
    {row delivery : WebhookDelivery} (hrow : s.db.webhookDeliveries.lookup id = some row)
    (hstatus : row.status = claimFrom delivery) (hfresh : delivery.attemptCount = row.attemptCount)
    (hp' : p' = .claimed id (delivery.attemptCount + 1) ∨ p' = .over) :
    Tally { s with db := s.db.setDelivery id (row.transitioned .delivering
        { attemptCount := some (delivery.attemptCount + 1) }) }
      (phases.set i p') (h ++ [.claimed id]) := by
  have hcounts := ht.rows hrow
  have hlt := hcounts.lt hstatus
  have hcounted : delivery.attemptCount = claims h id := hfresh.trans hcounts.counted
  -- nobody else holds the row, as it was not being delivered
  have hnobody : ∀ {j : ℕ} {q : Phase} {n}, phases[j]? = some q → q.holds? ≠ some (id, n) := by
    intro j q n hq hn
    obtain ⟨stored, hstored, hdelivering⟩ := hheld.holding hq hn
    obtain rfl := Option.some.inj (hrow.symm.trans hstored)
    exact claimFrom_ne delivery (hstatus.symm.trans hdelivering)
  have hclaims : ∀ id', claims (h ++ [.claimed id]) id' = claims h id' + if id' = id then 1 else 0 :=
    claims_append_claimed h id
  have hposts : ∀ id', posts (h ++ [.claimed id]) id' = posts h id' := posts_append_claimed h id
  refine ⟨fun {id' row'} hrow' => ?_, fun {id'} hnone => ?_, fun {j q id' n} hq hn => ?_,
    fun id' => ?_, fun {j id' n} hq => ?_⟩
  · change (s.db.setDelivery id _).webhookDeliveries.lookup id' = some row' at hrow'
    rw [lookup_setDelivery] at hrow'
    rw [hclaims]
    split_ifs at hrow' ⊢ with hid
    · obtain rfl := Option.some.inj hrow'
      subst hid
      refine ⟨?_, hlt, fun hpending => (by cases hpending), fun hretry => (by cases hretry)⟩
      show delivery.attemptCount + 1 = claims h id' + 1
      rw [hcounted]
    · exact ht.rows hrow'
  · change (s.db.setDelivery id _).webhookDeliveries.lookup id' = none at hnone
    rw [lookup_setDelivery] at hnone
    rw [hclaims]
    split_ifs at hnone ⊢
    exact ht.absent hnone
  · rw [hclaims]
    rcases Workers.getElem?_set_cases hq with ⟨-, rfl⟩ | ⟨-, hold⟩
    · rcases hp' with rfl | rfl
      · obtain ⟨rfl, rfl⟩ := Prod.mk.inj (Option.some.inj hn)
        rw [if_pos rfl, hcounted]
      · cases hn
    · have hne : id' ≠ id := by
        rintro rfl
        exact hnobody hold hn
      rw [if_neg hne]
      exact ht.holder hold hn
  · rw [hclaims, hposts]
    have := ht.posted id'
    omega
  · rw [hclaims, hposts]
    have hle := ht.posted id'
    rcases Workers.getElem?_set_cases hq with ⟨-, heq⟩ | ⟨-, hold⟩
    · rcases hp' with hclaimed | hover
      · rw [hclaimed] at heq
        cases heq
        rw [if_pos rfl]
        omega
      · rw [hover] at heq
        cases heq
    · have := ht.unsent hold
      omega

/-- A request is made. -/
theorem Tally.send (ht : Tally s phases h) (hheld : Held s phases) {i : ℕ} {id : Uuid} {n : ℕ}
    (hp : phases[i]? = some (.claimed id n)) :
    Tally s (phases.set i (.sent id n)) (h ++ [.posted id]) := by
  have hclaims : ∀ id', claims (h ++ [.posted id]) id' = claims h id' := claims_append_posted h id
  have hposts : ∀ id', posts (h ++ [.posted id]) id' = posts h id' + if id' = id then 1 else 0 :=
    posts_append_posted h id
  refine ⟨fun hrow => by rw [hclaims]; exact ht.rows hrow,
    fun hnone => by rw [hclaims]; exact ht.absent hnone, fun {j q id' m} hq hm => ?_, fun id' => ?_,
    fun {j id' m} hq => ?_⟩
  · rw [hclaims]
    rcases Workers.getElem?_set_cases hq with ⟨-, rfl⟩ | ⟨-, hold⟩
    · exact ht.holder hp hm
    · exact ht.holder hold hm
  · rw [hclaims, hposts]
    split_ifs with hid
    · subst hid
      exact ht.unsent hp
    · exact ht.posted id'
  · rw [hclaims, hposts]
    rcases Workers.getElem?_set_cases hq with ⟨-, heq⟩ | ⟨hji, hold⟩
    · cases heq
    · have hne : id' ≠ id := by
        rintro rfl
        exact hji (hheld.unique hold hp rfl rfl)
      rw [if_neg hne]
      exact ht.unsent hold

/-- An attempt ends. -/
theorem Tally.settle (ht : Tally s phases h) {i : ℕ} {p : Phase} {id : Uuid} {n : ℕ}
    {row : WebhookDelivery} {target : WebhookDeliveryStatus} {data : RowData}
    (hp : phases[i]? = some p) (hholds : p.holds? = some (id, n))
    (hrow : s.db.webhookDeliveries.lookup id = some row) (htarget : target ≠ .pending)
    (hcount : data.attemptCount = none)
    (hretry : target = .retryScheduled → n < maxWebhookAttempts) :
    Tally { s with db := s.db.setDelivery id (row.transitioned target data) } (phases.set i .over)
      (h ++ []) := by
  rw [List.append_nil]
  have hclaims := ht.holder hp hholds
  have hcounts := ht.rows hrow
  refine ⟨fun {id' row'} hrow' => ?_, fun {id'} hnone => ?_, fun {j q id' m} hq hm => ?_, ht.posted,
    fun {j id' m} hq => ?_⟩
  · change (s.db.setDelivery id _).webhookDeliveries.lookup id' = some row' at hrow'
    rw [lookup_setDelivery] at hrow'
    split_ifs at hrow' with hid
    · obtain rfl := Option.some.inj hrow'
      subst hid
      refine ⟨?_, hcounts.bounded, fun hpending => absurd hpending htarget, fun hagain => ?_⟩
      · show data.attemptCount.getD row.attemptCount = claims h id'
        rw [hcount]
        exact hcounts.counted
      · rw [hclaims]
        exact hretry hagain
    · exact ht.rows hrow'
  · change (s.db.setDelivery id _).webhookDeliveries.lookup id' = none at hnone
    rw [lookup_setDelivery] at hnone
    split_ifs at hnone
    exact ht.absent hnone
  · rcases Workers.getElem?_set_cases hq with ⟨-, rfl⟩ | ⟨-, hold⟩
    · cases hm
    · exact ht.holder hold hm
  · rcases Workers.getElem?_set_cases hq with ⟨-, heq⟩ | ⟨-, hold⟩
    · cases heq
    · exact ht.unsent hold

/-- **A worker's step**, if its claim counts from the stored row. -/
theorem Tally.worked (ht : Tally s phases h) (hheld : Held s phases) {i : ℕ} {reply : Reply}
    {p p' : Phase} {e : Effect} (hp : phases[i]? = some p)
    (hfresh : reply ≠ .lost → e.fresh s.db = true)
    (hmove : Move p e (perform reply e s).1 p') :
    Tally (perform reply e s).2 (phases.set i p') (h ++ effectDeeds s.jobs[i]?.join reply s e) := by
  have hidle : ∀ {q : Phase}, (perform reply e s).2 = s →
      effectDeeds s.jobs[i]?.join reply s e = [] → (q = p ∨ q.holds? = none) →
      Tally (perform reply e s).2 (phases.set i q) (h ++ effectDeeds s.jobs[i]?.join reply s e) := by
    intro q hsame hdeeds hq
    rw [hsame, hdeeds]
    exact ht.idle hp hq
  have hother := perform_other reply (e := e) s
  generalize hanswer : (perform reply e s).1 = answer at hmove
  cases hmove with
  | find id => exact hidle (hother (by simp)) rfl (.inr rfl)
  | found id delivery => exact hidle (hother (by simp)) rfl (.inr rfl)
  | now => exact hidle (hother (by simp)) rfl (.inl rfl)
  | findMerchant => exact hidle (hother (by simp)) rfl (.inl rfl)
  | send id attempt input =>
      rw [hother (by simp)]
      cases hjob : s.jobs[i]?.join with
      | none =>
          -- nobody has made the request
          show Tally s _ (h ++ [])
          rw [List.append_nil]
          have hsent := ht.send hheld hp
          refine ⟨ht.rows, ht.absent, fun hq hm => ?_, ht.posted, fun hq => ?_⟩
          · have := hsent.holder hq hm
            rwa [claims_append_posted] at this
          · rcases Workers.getElem?_set_cases hq with ⟨-, heq⟩ | ⟨-, hold⟩
            · cases heq
            · exact ht.unsent hold
      | some job =>
          have hjobs : s.jobs[i]? = some (some job) := Option.join_eq_some_iff.mp hjob
          obtain rfl := hheld.job hp rfl hjobs
          exact ht.send hheld hp
  | claim id delivery =>
      rcases perform_transition reply id (claimFrom delivery) .delivering
        { attemptCount := some (delivery.attemptCount + 1) } s with ⟨-, hnot, -⟩ |
          ⟨row, hrow, hstatus, harrives, hafter, hdeeds⟩
      · exact absurd hanswer hnot
      · rw [hafter, hdeeds]
        have hcount : delivery.attemptCount = row.attemptCount := by
          simpa [Effect.fresh, hrow, hstatus] using hfresh harrives
        exact ht.claim hheld hrow hstatus hcount (.inl rfl)
  | claimFailed id delivery e =>
      rcases perform_transition reply id (claimFrom delivery) .delivering
        { attemptCount := some (delivery.attemptCount + 1) } s with ⟨hsame, -, hdeeds⟩ |
          ⟨row, hrow, hstatus, harrives, hafter, hdeeds⟩
      · exact hidle hsame (hdeeds _) (.inr rfl)
      · rw [hafter, hdeeds]
        have hcount : delivery.attemptCount = row.attemptCount := by
          simpa [Effect.fresh, hrow, hstatus] using hfresh harrives
        exact ht.claim hheld hrow hstatus hcount (.inr rfl)
  | settle p id attempt target data answer hholds htarget hcount hretry =>
      rcases perform_transition reply id .delivering target data s with ⟨hsame, -, hdeeds⟩ |
        ⟨row, hrow, hstatus, harrives, hafter, hdeeds⟩
      · exact hidle hsame (hdeeds _) (.inr rfl)
      · rw [hafter, hdeeds, if_neg htarget.2]
        exact ht.settle hp hholds hrow htarget.1 hcount hretry

/-! ## What is not a worker's step -/

/-- The rows are as they were, but for rows that wait for their first attempt. -/
def RowsKept (s s' : Shared) : Prop :=
  ∀ id, s'.db.webhookDeliveries.lookup id = s.db.webhookDeliveries.lookup id ∨
    (s.db.webhookDeliveries.lookup id = none ∧
      ∃ row, s'.db.webhookDeliveries.lookup id = some row ∧ row.status = .pending ∧
        row.attemptCount = 0)

theorem RowsKept.of_eq (h : s'.db.webhookDeliveries = s.db.webhookDeliveries) : RowsKept s s' :=
  fun id => .inl (by rw [h])

theorem RowsKept.lookup (h : RowsKept s s') {id : Uuid} {row : WebhookDelivery}
    (hrow : s.db.webhookDeliveries.lookup id = some row) :
    s'.db.webhookDeliveries.lookup id = some row := by
  rcases h id with hsame | ⟨hnone, -⟩
  · rw [hsame, hrow]
  · cases hnone.symm.trans hrow

theorem rowsKept_outsideEffect (s : System) (action : Action) :
    RowsKept s.shared (outsideEffect s action) := by
  cases action with
  | create id merchantId eventId eventType payload =>
      intro id'
      simp only [outsideEffect, createDelivery]
      split_ifs with htaken
      · exact .inl rfl
      · rw [lookup_setDelivery]
        split_ifs with hid
        · subst hid
          have hnone : s.shared.db.webhookDeliveries.lookup id' = none := by
            have := not_or.mp htaken
            simpa using this.1
          exact .inr ⟨hnone, _, rfl, rfl, rfl⟩
        · exact .inl rfl
  | report worker =>
      apply RowsKept.of_eq
      simp only [outsideEffect]
      split <;> rfl
  | _ => exact .of_eq rfl

/-- Jobs are only taken back. -/
def JobsKept (s s' : Shared) : Prop :=
  s'.jobs.length = s.jobs.length ∧
    ∀ {i : ℕ} {job}, s'.jobs[i]? = some (some job) → s.jobs[i]? = some (some job)

theorem jobsKept_outsideEffect (s : System) {action : Action} (htake : ∀ id, action ≠ .take id) :
    JobsKept s.shared (outsideEffect s action) := by
  cases action with
  | take id => exact absurd rfl (htake id)
  | report worker =>
      simp only [outsideEffect]
      split
      · refine ⟨List.length_set, fun {i job} hjob => ?_⟩
        rcases Workers.getElem?_set_cases hjob with ⟨-, hnone⟩ | ⟨-, hold⟩
        · cases hnone
        · exact hold
      · exact ⟨rfl, fun hjob => hjob⟩
  | _ => exact ⟨rfl, fun hjob => hjob⟩

theorem Held.frame (hheld : Held s phases) (hrows : RowsKept s s') (hjobs : JobsKept s s') :
    Held s' phases where
  length_eq := by rw [hjobs.1, hheld.length_eq]
  job hp hid hjob := hheld.job hp hid (hjobs.2 hjob)
  holding hp hholds := by
    obtain ⟨row, hrow, hstatus⟩ := hheld.holding hp hholds
    exact ⟨row, hrows.lookup hrow, hstatus⟩
  unique := hheld.unique

theorem Tally.frame (ht : Tally s phases h) (hrows : RowsKept s s') : Tally s' phases h := by
  refine ⟨fun {id row} hrow => ?_, fun {id} hnone => ?_, ht.holder, ht.posted, ht.unsent⟩
  · rcases hrows id with hsame | ⟨hnone, row', hrow', hpending, hzero⟩
    · exact ht.rows (hsame.symm.trans hrow)
    · -- nothing was done for a row that was not there
      obtain rfl := Option.some.inj (hrow'.symm.trans hrow)
      have hcount : claims h id = 0 := ht.absent hnone
      rw [hcount]
      refine ⟨hzero, Nat.zero_le _, fun _ => rfl, fun hretry => ?_⟩
      cases hpending.symm.trans hretry
  · rcases hrows id with hsame | ⟨-, row', hrow', -⟩
    · exact ht.absent (hsame.symm.trans hnone)
    · cases hrow'.symm.trans hnone

/-- The place after the last one. -/
theorem getElem?_append_cases {α : Type} {l : List α} {i : ℕ} {a b : α}
    (h : (l ++ [a])[i]? = some b) : (i = l.length ∧ b = a) ∨ l[i]? = some b := by
  rcases Nat.lt_or_ge i l.length with hlt | hge
  · rw [List.getElem?_append_left hlt] at h
    exact .inr h
  · have hi : i < (l ++ [a]).length := (List.getElem?_eq_some_iff.mp h).1
    obtain rfl : i = l.length := by
      rw [List.length_append, List.length_singleton] at hi
      omega
    rw [List.getElem?_concat_length] at h
    exact .inl ⟨rfl, (Option.some.inj h).symm⟩

/-- A worker starts with its job. -/
theorem Held.take (hheld : Held s phases) (id : Uuid) (hdb : s'.db = s.db)
    (hjobs : s'.jobs = s.jobs ++ [some id]) : Held s' (phases ++ [.opening id]) := by
  have hlength := hheld.length_eq
  -- the new worker holds nothing
  have hbefore : ∀ {i : ℕ} {p : Phase} {id' n}, (phases ++ [.opening id])[i]? = some p →
      p.holds? = some (id', n) → phases[i]? = some p := by
    intro i p id' n hp hn
    rcases getElem?_append_cases hp with ⟨-, rfl⟩ | hold
    · cases hn
    · exact hold
  refine ⟨by simp [hjobs, hlength], fun {i p id' job} hp hid hjob => ?_, fun {i p id' n} hp hn => ?_,
    fun {i j p q id' m n} hp hq hm hn => hheld.unique (hbefore hp hm) (hbefore hq hn) hm hn⟩
  · rw [hjobs] at hjob
    rcases getElem?_append_cases hp with ⟨hi, rfl⟩ | hold
    · rcases getElem?_append_cases hjob with ⟨-, hsome⟩ | hjob
      · exact (Option.some.inj hsome).trans (Option.some.inj hid)
      · have := (List.getElem?_eq_some_iff.mp hjob).1
        omega
    · have := (List.getElem?_eq_some_iff.mp hold).1
      rcases getElem?_append_cases hjob with ⟨hi, -⟩ | hjob
      · omega
      · exact hheld.job hold hid hjob
  · rw [hdb]
    exact hheld.holding (hbefore hp hn) hn

theorem Tally.take (ht : Tally s phases h) (id : Uuid) (hdb : s'.db = s.db) :
    Tally s' (phases ++ [.opening id]) (h ++ []) := by
  rw [List.append_nil]
  refine ⟨fun hrow => ht.rows (hdb ▸ hrow), fun hnone => ht.absent (hdb ▸ hnone),
    fun {i p id' n} hp hn => ?_, ht.posted, fun {i id' n} hp => ?_⟩
  · rcases getElem?_append_cases hp with ⟨-, rfl⟩ | hold
    · cases hn
    · exact ht.holder hold hn
  · rcases getElem?_append_cases hp with ⟨-, heq⟩ | hold
    · cases heq
    · exact ht.unsent hold

/-! ## Every step -/

variable {deps : WebhookDeliveryDeps}

theorem held_exec (s : System) (action : Action) (hheld : Workers.Tracked Move Held s) :
    Workers.Tracked Move Held (exec deps s action) := by
  cases action with
  | work worker reply =>
      exact hheld.work fun phases p e k p' hold hp hk hmove => hold.worked hp hmove
  | crash worker => exact hheld.stop .crashed worker
  | take id =>
      simp only [exec]
      split
      · have hbefore : Workers.Tracked Move (fun s' phases => s' = outsideEffect s (.take id) ∧
            Held s.shared phases) { s with shared := outsideEffect s (.take id) } :=
          hheld.of_running_eq rfl fun phases hold => ⟨rfl, hold⟩
        refine hbefore.start_to (follows_processWebhookDelivery deps id) fun phases hold => ?_
        exact hold.2.take id (by rw [hold.1]; rfl) (by rw [hold.1]; rfl)
      · exact hheld
  | _ =>
      refine hheld.of_running_eq rfl fun phases hold => hold.frame ?_ ?_
      · exact rowsKept_outsideEffect s _
      · exact jobsKept_outsideEffect s (by simp)

/-- **One action**, if its claim counts from the stored row, keeps count. -/
theorem tally_exec (q : System × List Deed) (action : Action) (hfresh : fresh q.1 action = true)
    (ht : Workers.Tracked Move (fun s phases => Held s phases ∧ Tally s phases q.2) q.1) :
    Workers.Tracked Move
      (fun s phases => Held s phases ∧ Tally s phases (q.2 ++ deeds q.1 action))
      (exec deps q.1 action) := by
  cases action with
  | work worker reply =>
      refine ht.work_to (fun phases p e k p' hold hp hk hmove => ?_) fun hnone phases hold => ?_
      · have hdeeds : deeds q.1 (.work worker reply)
            = effectDeeds q.1.shared.jobs[worker]?.join reply q.1.shared e := by
          rw [deeds, hk]
        rw [hdeeds]
        refine ⟨hold.1.worked hp hmove, hold.2.worked hold.1 hp (fun harrives => ?_) hmove⟩
        simpa [fresh, hk, harrives] using hfresh
      · have hdeeds : deeds q.1 (.work worker reply) = [] := by
          rw [deeds]
          split
          · rename_i e k hk
            exact absurd hk (hnone e k)
          · rfl
        rw [hdeeds, List.append_nil]
        exact hold
  | crash worker =>
      simp only [deeds, List.append_nil]
      exact ht.stop .crashed worker
  | take id =>
      simp only [exec]
      split
      · have hbefore : Workers.Tracked Move (fun s' phases =>
            s' = outsideEffect q.1 (.take id) ∧ Held q.1.shared phases ∧
              Tally q.1.shared phases q.2) { q.1 with shared := outsideEffect q.1 (.take id) } :=
          ht.of_running_eq rfl fun phases hold => ⟨rfl, hold⟩
        refine hbefore.start_to (follows_processWebhookDelivery deps id) fun phases hold => ?_
        have hdb : ∀ {s'}, s' = outsideEffect q.1 (.take id) → s'.db = q.1.shared.db := by
          rintro s' rfl
          rfl
        exact ⟨hold.2.1.take id (hdb hold.1) (by rw [hold.1]; rfl), hold.2.2.take id (hdb hold.1)⟩
      · simp only [deeds, List.append_nil]
        exact ht
  | _ =>
      simp only [deeds, List.append_nil]
      refine ht.of_running_eq rfl fun phases hold => ⟨hold.1.frame ?_ ?_, hold.2.frame ?_⟩
      · exact rowsKept_outsideEffect q.1 _
      · exact jobsKept_outsideEffect q.1 (by simp)
      · exact rowsKept_outsideEffect q.1 _

theorem tracked_initial : Workers.Tracked Move
    (fun s phases => Held s phases ∧ Tally s phases []) initial := by
  refine ⟨[], ⟨rfl, fun hp => by cases hp⟩, ⟨rfl, ?_, ?_, ?_⟩, ⟨?_, ?_, ?_, ?_, ?_⟩⟩
  · exact fun hp => by cases hp
  · exact fun hp => by cases hp
  · exact fun hp => by cases hp
  · exact fun hrow => by cases hrow
  · exact fun _ => rfl
  · exact fun hp => by cases hp
  · exact fun _ => le_rfl
  · exact fun hp => by cases hp

/-! ## Requests -/

/-- The worker is about to make a request, or waits for its answer. -/
def Requesting (s : System) (worker : ℕ) : Prop :=
  ∃ input k, s.running[worker]? = some (.call (.send input) k)

/-- A worker that is running has a job. -/
structure Employed (s : System) : Prop where
  length_eq : s.running.length = s.shared.jobs.length
  employed : ∀ {i : ℕ} {e k}, s.running[i]? = some (.call e k) →
    ∃ id, s.shared.jobs[i]? = some (some id)

theorem perform_jobs (reply : Reply) (e : Effect) (s : Shared) :
    (perform reply e s).2.jobs = s.jobs := by
  by_cases hne : ∀ id source target data, e ≠ .transition id source target data
  · rw [perform_other reply s hne]
  · push Not at hne
    obtain ⟨id, source, target, data, rfl⟩ := hne
    rcases perform_transition reply id source target data s with ⟨hsame, -⟩ | ⟨row, -, -, -, hafter, -⟩
    · rw [hsame]
    · rw [hafter]

theorem employed_exec (s : System) (action : Action) (h : Employed s) :
    Employed (exec deps s action) := by
  cases action with
  | work worker reply =>
      simp only [exec]
      rcases Workers.work_cases (perform reply) worker s with hidle | ⟨e, k, hw, hstep⟩
      · rw [hidle]
        exact h
      · rw [hstep]
        refine ⟨?_, fun {i e' k'} hi => ?_⟩
        · rw [List.length_set, perform_jobs]
          exact h.length_eq
        · rw [perform_jobs]
          rcases Workers.getElem?_set_cases hi with ⟨rfl, -⟩ | ⟨-, hold⟩
          · exact h.employed hw
          · exact h.employed hold
  | crash worker =>
      refine ⟨List.length_set.trans h.length_eq, fun {i e k} hi => ?_⟩
      rcases Workers.getElem?_set_cases hi with ⟨-, hgone⟩ | ⟨-, hold⟩
      · cases hgone
      · exact h.employed hold
  | take id =>
      simp only [exec]
      split
      · have hlength := h.length_eq
        refine ⟨?_, fun {i e k} hi => ?_⟩
        · show (s.running ++ _).length = (s.shared.jobs ++ [some id]).length
          simp [hlength]
        · show ∃ id', (s.shared.jobs ++ [some id])[i]? = some (some id')
          rcases getElem?_append_cases hi with ⟨rfl, -⟩ | hold
          · rw [hlength]
            exact ⟨id, List.getElem?_concat_length⟩
          · obtain ⟨id', hid'⟩ := h.employed hold
            have hlt := (List.getElem?_eq_some_iff.mp hid').1
            exact ⟨id', by rw [List.getElem?_append_left hlt, hid']⟩
      · exact h
  | report worker =>
      simp only [exec, outsideEffect]
      split
      · rename_i id ending hreported
        refine ⟨h.length_eq.trans List.length_set.symm, fun {i e k} hi => ?_⟩
        -- who reports has come to the end
        have hne : worker ≠ i := by
          rintro rfl
          change s.running[worker]? = _ at hi
          simp [reported?, hi, ending?] at hreported
        obtain ⟨id', hid'⟩ := h.employed hi
        exact ⟨id', (List.getElem?_set_ne hne).trans hid'⟩
      · exact h
  | _ => exact ⟨h.length_eq, h.employed⟩

/-- A worker that makes a request has its row. -/
theorem requesting_row {s : System} (hemployed : Employed s) (hheld : Workers.Tracked Move Held s)
    {i : ℕ} (hi : Requesting s i) :
    ∃ id row, s.shared.jobs[i]? = some (some id) ∧ s.shared.db.webhookDeliveries.lookup id = some row ∧
      row.status = .delivering := by
  obtain ⟨input, k, hw⟩ := hi
  obtain ⟨phases, hin, hold⟩ := hheld
  obtain ⟨p, hp, hmoves⟩ := hin.allows hw
  obtain ⟨id, hjob⟩ := hemployed.employed hw
  obtain ⟨p', hmove, -⟩ := hmoves none
  cases hmove with
  | send id' attempt =>
      obtain rfl := hold.job hp rfl hjob
      obtain ⟨row, hrow, hstatus⟩ := hold.holding hp rfl
      exact ⟨id, row, hjob, hrow, hstatus⟩

/-- No two workers make a request for the same row. -/
theorem requesting_alone {s : System} (hheld : Workers.Tracked Move Held s) {i j : ℕ} {id : Uuid}
    (hi : Requesting s i) (hj : Requesting s j) (hjobi : s.shared.jobs[i]? = some (some id))
    (hjobj : s.shared.jobs[j]? = some (some id)) : i = j := by
  obtain ⟨phases, hin, hold⟩ := hheld
  have hholds : ∀ {l : ℕ}, Requesting s l → s.shared.jobs[l]? = some (some id) →
      ∃ p n, phases[l]? = some p ∧ p.holds? = some (id, n) := by
    rintro l ⟨input, k, hw⟩ hjob
    obtain ⟨p, hp, hmoves⟩ := hin.allows hw
    obtain ⟨p', hmove, -⟩ := hmoves none
    cases hmove with
    | send id' attempt =>
        obtain rfl := hold.job hp rfl hjob
        exact ⟨_, attempt, hp, rfl⟩
  obtain ⟨p, m, hp, hm⟩ := hholds hi hjobi
  obtain ⟨q, n, hq, hn⟩ := hholds hj hjobj
  exact hold.unique hp hq hm hn

/-! ## After the end -/

/-- A row that has come to its end. -/
def Ended (s : System) (id : Uuid) : Prop :=
  ∃ row, s.shared.db.webhookDeliveries.lookup id = some row ∧
    (row.status = .delivered ∨ row.status = .deadLetter)

theorem ended_exec {s : System} {id : Uuid} (h : Ended s id) (action : Action) :
    Ended (exec deps s action) id := by
  obtain ⟨row, hrow, hend⟩ := h
  have hkept : RowsKept s.shared (outsideEffect s action) := rowsKept_outsideEffect s action
  cases action with
  | work worker reply =>
      simp only [exec]
      rcases Workers.work_cases (perform reply) worker s with hidle | ⟨e, k, -, hstep⟩
      · rw [hidle]
        exact ⟨row, hrow, hend⟩
      · rw [hstep]
        refine ⟨row, ?_, hend⟩
        rcases perform_rows reply e s.shared with hsame | ⟨id', source, target, data, db, -, -, hok, hdb⟩
        · exact (congrArg (fun db : Db => db.webhookDeliveries.lookup id) hsame).trans hrow
        · obtain ⟨hlegal, stored, hstored, hstatus, rfl⟩ := transitionWebhookDelivery_ok.mp hok
          -- there is no way on from the end
          have hne : id ≠ id' := by
            rintro rfl
            obtain rfl := Option.some.inj (hrow.symm.trans hstored)
            rw [← hstatus] at hlegal
            rcases hend with hend | hend <;> simp [hend, legalTransitions] at hlegal
          show (perform reply e s.shared).2.db.webhookDeliveries.lookup id = some row
          rw [hdb, lookup_setDelivery, if_neg hne, hrow]
  | crash worker => exact ⟨row, hrow, hend⟩
  | take id' =>
      simp only [exec]
      split <;> exact ⟨row, hrow, hend⟩
  | _ => exact ⟨row, hkept.lookup hrow, hend⟩

/-- No request is made for a row that has come to its end. -/
theorem posted_not_mem {s : System} (hemployed : Employed s) (hheld : Workers.Tracked Move Held s)
    {id : Uuid} (hended : Ended s id) (action : Action) : .posted id ∉ deeds s action := by
  intro hmem
  cases action with
  | work worker reply =>
      simp only [deeds] at hmem
      split at hmem
      · rename_i e k hw
        cases e with
        | send input =>
            obtain ⟨id', row, hjob, hrow, hstatus⟩ := requesting_row hemployed hheld ⟨input, k, hw⟩
            obtain ⟨row', hrow', hend⟩ := hended
            have hid : id = id' := by simpa [effectDeeds, hjob] using hmem
            subst hid
            obtain rfl := Option.some.inj (hrow.symm.trans hrow')
            rw [hstatus] at hend
            rcases hend with hend | hend <;> cases hend
        | transition id' source target data =>
            cases target with
            | delivering =>
                simp only [effectDeeds] at hmem
                split at hmem <;> simp at hmem
            | _ => cases hmem
        | _ => cases hmem
      · cases hmem
  | _ => cases hmem

/-! ## Runs -/

theorem employed_run (deps : WebhookDeliveryDeps) (actions : List Action) :
    Employed (run deps initial actions) :=
  Runs.run_invariant (fun s action h => employed_exec s action h)
    ⟨rfl, fun hi => by cases hi⟩ actions

theorem held_run (deps : WebhookDeliveryDeps) (actions : List Action) :
    Workers.Tracked Move Held (run deps initial actions) :=
  Runs.run_invariant (fun s action h => held_exec s action h)
    (tracked_initial.of_running_eq rfl fun _ h => h.1) actions

/-- Once a row has come to its end it stays there, and no request is made for it. -/
theorem posts_eq_of_ended (deps : WebhookDeliveryDeps) (actions later : List Action) {id : Uuid}
    (hended : Ended (run deps initial actions) id) :
    posts (history deps (actions ++ later)) id = posts (history deps actions) id := by
  have hstep : ∀ (q : System × List Deed) action,
      (Employed q.1 ∧ Workers.Tracked Move Held q.1 ∧ Ended q.1 id ∧ posts q.2 id = 0) →
      Employed (exec deps q.1 action) ∧ Workers.Tracked Move Held (exec deps q.1 action) ∧
        Ended (exec deps q.1 action) id ∧ posts (q.2 ++ deeds q.1 action) id = 0 := by
    rintro q action ⟨hemployed, hheld, hend, hnone⟩
    refine ⟨employed_exec q.1 action hemployed, held_exec q.1 action hheld, ended_exec hend action, ?_⟩
    have hno := posted_not_mem hemployed hheld hend action
    rw [posts, List.countP_append, ← posts, hnone, Nat.zero_add, List.countP_eq_zero]
    intro deed hdeed heq
    exact hno (of_decide_eq_true heq ▸ hdeed)
  have hrun := @Runs.run_invariant _ _ (Runs.noting (exec deps) deeds)
    (fun q : System × List Deed => Employed q.1 ∧ Workers.Tracked Move Held q.1 ∧ Ended q.1 id ∧
      posts q.2 id = 0) hstep (run deps initial actions, [])
    ⟨employed_run deps actions, held_run deps actions, hended, rfl⟩ later
  rw [Runs.run_noting] at hrun
  have hlater : posts (Runs.notes (exec deps) deeds (Runs.run (exec deps) initial actions) later) id
      = 0 := hrun.2.2.2
  rw [history, Runs.notes_append, posts, List.countP_append, ← posts, ← posts, history]
  omega

/-- What the attempts at deliveries should be like in a state, after what was done so far. -/
structure WellAttempted (s : System) (h : List Deed) : Prop where
  bounded : ∀ id, posts h id ≤ maxWebhookAttempts
  /-- No two requests for one delivery are under way. -/
  alone : ∀ (i j : ℕ) id, Requesting s i → Requesting s j → s.shared.jobs[i]? = some (some id) →
    s.shared.jobs[j]? = some (some id) → i = j
  /-- A request is made only while its row is being delivered. -/
  delivering : ∀ (i : ℕ), Requesting s i → ∃ id row, s.shared.jobs[i]? = some (some id) ∧
    s.shared.db.webhookDeliveries.lookup id = some row ∧ row.status = .delivering
  counted : ∀ id row, s.shared.db.webhookDeliveries.lookup id = some row →
    row.attemptCount = claims h id

/-- **The attempts at a delivery are bounded and do not overlap.** In every run whose claims count from
the stored row there are at most `maxWebhookAttempts` requests for a delivery, no two at a time, none
once the row has come to its end, and its `attemptCount` is the number of its claims. -/
theorem webhook_attempts (deps : WebhookDeliveryDeps) (actions : List Action)
    (hfresh : ∀ q ∈ Runs.trace (exec deps) initial actions, fresh q.1 q.2 = true) :
    WellAttempted (run deps initial actions) (history deps actions) ∧
      ∀ before later, actions = before ++ later → ∀ id, Ended (run deps initial before) id →
        posts (history deps actions) id = posts (history deps before) id := by
  have htally : Workers.Tracked Move
      (fun s phases => Held s phases ∧ Tally s phases (history deps actions))
      (run deps initial actions) := by
    have hrun := @Runs.run_invariant_along _ _ (Runs.noting (exec deps) deeds)
      (fun q : System × List Deed =>
        Workers.Tracked Move (fun s phases => Held s phases ∧ Tally s phases q.2) q.1)
      (fun q action => fresh q.1 action = true) (fun q action => tally_exec q action) (initial, [])
      tracked_initial actions fun q hq => hfresh _ (Runs.mem_trace_noting hq)
    rw [Runs.run_noting] at hrun
    exact hrun
  obtain ⟨phases, -, -, ht⟩ := htally
  have hclaims : ∀ id, claims (history deps actions) id ≤ maxWebhookAttempts := by
    intro id
    cases hrow : (run deps initial actions).shared.db.webhookDeliveries.lookup id with
    | none =>
        rw [ht.absent hrow]
        exact Nat.zero_le _
    | some row => exact (ht.rows hrow).bounded
  refine ⟨⟨fun id => (ht.posted id).trans (hclaims id), ?_, ?_, ?_⟩, ?_⟩
  · exact fun i j id hi hj => requesting_alone (held_run deps actions) hi hj
  · exact fun i => requesting_row (employed_run deps actions) (held_run deps actions)
  · exact fun id row hrow => (ht.rows hrow).counted
  · rintro before later rfl id
    exact posts_eq_of_ended deps before later

/-! ## A run that keeps count, and one that does not -/

section

/-- Two workers have the job and read the row, and one of them claims it. The endpoint fails, and when a
minute has passed a third worker takes the job. -/
def mockTwice : List Action :=
  mockStart ++ [.stall 1, .take 1] ++
    (List.range 2).flatMap (fun _ => [.work 0 (.served (.http 500)), .work 1 (.served (.http 500))]) ++
    List.replicate 5 (.work 0 (.served (.http 500))) ++ [.tick 60000, .stall 1, .take 1] ++
    List.replicate 6 (.work 2 (.served (.http 200)))

set_option maxRecDepth 8000 in
theorem webhook_attempts_mock :
    WellAttempted (run mockDeps initial mockTwice) (history mockDeps mockTwice) ∧
      (run mockDeps initial mockTwice).running.length = 3 ∧
      posts (history mockDeps mockTwice) 1 = 2 ∧ claims (history mockDeps mockTwice) 1 = 2 :=
  ⟨(webhook_attempts mockDeps mockTwice (by decide)).1, by decide, by decide, by decide⟩

/-- After a first attempt has failed its job is found to have stalled, again and again, and each time
another worker takes it and reads the row. All have read the same count when the first of them claims. -/
def mockStale : List Action :=
  mockStart ++ List.replicate 7 (.work 0 (.served (.http 500))) ++
    (List.range 6).flatMap (fun n => [.stall 1, .take 1, .work (n + 1) (.served (.http 500))]) ++
    (List.range 6).flatMap (fun n => List.replicate 6 (.work (n + 1) (.served (.http 500))))

set_option maxRecDepth 20000 in
/-- **Seven requests are made**, and the row counts two claims. -/
theorem stale_claims_unbounded :
    posts (history mockDeps mockStale) 1 = 7 ∧
      (run mockDeps initial mockStale).shared.db.webhookDeliveries.lookup 1
        = some ⟨1, "event", "webhook.test", "null", 2, some 300000, .retryScheduled, 0⟩ ∧
      ¬ WellAttempted (run mockDeps initial mockStale) (history mockDeps mockStale) := by
  have hposts : posts (history mockDeps mockStale) 1 = 7 := by decide
  refine ⟨hposts, by decide, fun h => ?_⟩
  have hle := h.bounded 1
  rw [hposts] at hle
  exact absurd hle (by decide)

end

end Paymap.Webhook
