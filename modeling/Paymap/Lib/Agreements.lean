import Mathlib.Logic.Function.Basic
import Mathlib.Order.Bounds.Basic
import Paymap.Lib.History

set_option autoImplicit false

/-! # Standing agreements to pay

A payer lets a payee collect: amounts of a rule, at most so much in a period, so far apart, in a window
of time, so often. This file says what that means and nothing of how it is kept track of. The state is
what was signed and what has happened since, the newest payment first: no counter, no stored period, no
machine number, no status for what can be read off the payments. An agreement is *exhausted* when its
payments have reached the limit, and *lapsed* when its time is over.

`Allows` says which operations are right at a moment, and `after` what they do. `Orderly` is what every
account that is reached by allowed operations is like (`reaches_orderly`), and for an orderly account
the caps hold of every window of time, wherever it begins.
-/

namespace Agreements

open History (bucketsMet gridFloor inWindow)

/-! ## Terms and accounts -/

structure Terms (Party Asset : Type) where
  payer : Party
  payee : Party
  asset : Asset
  /-- The amounts a payment may have. -/
  rule : Set ℤ
  /-- What the payments of a period may add up to. -/
  cap : ℤ
  period : ℤ
  /-- What has to pass between two payments. -/
  interval : ℤ
  start : ℤ
  stop : ℤ
  /-- How many payments there may be, if that is limited. -/
  limit : Option ℕ

/-- One payment, with what was paid back of it. -/
structure Payment (Key Pay Ref : Type) where
  key : Key
  id : Pay
  amount : ℤ
  time : ℤ
  refunds : List (Ref × ℤ)

inductive Standing where
  | running
  | suspended
  | withdrawn
deriving DecidableEq

structure Account (Party Asset Key Pay Ref : Type) where
  terms : Terms Party Asset
  standing : Standing
  payments : List (Payment Key Pay Ref)

section

variable {Id Party Asset Key Pay Ref : Type}

/-- There is an amount that can be paid, the largest of them fits under the cap, and the time of the
agreement is not over before it has begun. -/
structure Terms.Sound (t : Terms Party Asset) : Prop where
  most : ∃ most, IsGreatest t.rule most ∧ 0 < most ∧ most ≤ t.cap
  period_pos : 0 < t.period
  interval_nonneg : 0 ≤ t.interval
  start_lt : t.start < t.stop
  parties : t.payer ≠ t.payee
  limit_pos : t.limit ≠ some 0

theorem Terms.Sound.cap_pos {t : Terms Party Asset} (h : t.Sound) : 0 < t.cap := by
  obtain ⟨most, -, hpos, hle⟩ := h.most
  omega

/-- The start of the period of a moment. -/
def Terms.periodAt (t : Terms Party Asset) (time : ℤ) : ℤ := gridFloor t.start t.period time

/-- What is paid back of a payment. -/
def Payment.refunded (p : Payment Key Pay Ref) : ℤ := (p.refunds.map Prod.snd).sum

namespace Account

def Exhausted (a : Account Party Asset Key Pay Ref) : Prop := a.terms.limit = some a.payments.length

def Lapsed (now : ℤ) (a : Account Party Asset Key Pay Ref) : Prop := a.terms.stop ≤ now

/-- It is neither suspended, withdrawn, exhausted nor lapsed. -/
structure Live (now : ℤ) (a : Account Party Asset Key Pay Ref) : Prop where
  running : a.standing = .running
  open' : ¬ a.Exhausted
  unlapsed : ¬ a.Lapsed now

/-- What the payments in the period of a moment add up to. -/
def collectedAround (a : Account Party Asset Key Pay Ref) (now : ℤ) : ℤ :=
  History.bucketSum (fun p : Payment Key Pay Ref => a.terms.periodAt p.time) Payment.amount a.payments
    (a.terms.periodAt now)

/-- `amount` may be collected under `key`, and the payment be known as `pay`. -/
structure Collectible (now : ℤ) (a : Account Party Asset Key Pay Ref) (key : Key) (pay : Pay)
    (amount : ℤ) : Prop where
  live : a.Live now
  started : a.terms.start ≤ now
  unused : ∀ p ∈ a.payments, p.key ≠ key
  unnamed : ∀ p ∈ a.payments, p.id ≠ pay
  positive : 0 < amount
  admitted : amount ∈ a.terms.rule
  spaced : ∀ p ∈ a.payments, p.time + a.terms.interval ≤ now
  within : a.collectedAround now + amount ≤ a.terms.cap

end Account

/-! ## Operations -/

inductive Op (Id Party Asset Key Pay Ref : Type) where
  | sign (id : Id) (terms : Terms Party Asset)
  | suspend (id : Id)
  | resume (id : Id)
  | withdraw (id : Id)
  | collect (id : Id) (key : Key) (pay : Pay) (amount : ℤ)
  | refund (id : Id) (pay : Pay) (ref : Ref) (amount : ℤ)

abbrev State (Id Party Asset Key Pay Ref : Type) := Id → Option (Account Party Asset Key Pay Ref)

/-- No refund has this reference. -/
def State.Unreferenced (s : State Id Party Asset Key Pay Ref) (ref : Ref) : Prop :=
  ∀ id a, s id = some a → ∀ p ∈ a.payments, ∀ r ∈ p.refunds, r.1 ≠ ref

/-- What is right to do at `now`, when these parties have signed it. -/
inductive Allows (now : ℤ) (signed : Party → Prop) (s : State Id Party Asset Key Pay Ref) :
    Op Id Party Asset Key Pay Ref → Prop where
  | sign (id : Id) (terms : Terms Party Asset) (fresh : s id = none) (payer : signed terms.payer)
      (sound : terms.Sound) (unlapsed : now < terms.stop) : Allows now signed s (.sign id terms)
  | suspend (id : Id) (a : Account Party Asset Key Pay Ref) (stored : s id = some a)
      (payer : signed a.terms.payer) (live : a.Live now) : Allows now signed s (.suspend id)
  | resume (id : Id) (a : Account Party Asset Key Pay Ref) (stored : s id = some a)
      (payer : signed a.terms.payer) (suspended : a.standing = .suspended)
      (unlapsed : ¬ a.Lapsed now) : Allows now signed s (.resume id)
  | withdraw (id : Id) (a : Account Party Asset Key Pay Ref) (stored : s id = some a)
      (payer : signed a.terms.payer) (standing : a.standing ≠ .withdrawn)
      (open' : ¬ a.Exhausted) : Allows now signed s (.withdraw id)
  | collect (id : Id) (key : Key) (pay : Pay) (amount : ℤ) (a : Account Party Asset Key Pay Ref)
      (stored : s id = some a) (payee : signed a.terms.payee)
      (collectible : a.Collectible now key pay amount) :
      Allows now signed s (.collect id key pay amount)
  | refund (id : Id) (pay : Pay) (ref : Ref) (amount : ℤ) (a : Account Party Asset Key Pay Ref)
      (p : Payment Key Pay Ref) (stored : s id = some a) (payee : signed a.terms.payee)
      (paid : p ∈ a.payments) (named : p.id = pay) (fresh : s.Unreferenced ref)
      (positive : 0 < amount) (covered : p.refunded + amount ≤ p.amount) :
      Allows now signed s (.refund id pay ref amount)

/-- The payment with a refund, if it is the one that is paid back. -/
def Payment.refund [DecidableEq Pay] (pay : Pay) (ref : Ref) (amount : ℤ)
    (p : Payment Key Pay Ref) : Payment Key Pay Ref :=
  if p.id = pay then { p with refunds := (ref, amount) :: p.refunds } else p

variable [DecidableEq Id] [DecidableEq Pay]

def State.modify (s : State Id Party Asset Key Pay Ref) (id : Id)
    (f : Account Party Asset Key Pay Ref → Account Party Asset Key Pay Ref) :
    State Id Party Asset Key Pay Ref :=
  Function.update s id ((s id).map f)

/-- The state after an operation at `now`. -/
def after (now : ℤ) (s : State Id Party Asset Key Pay Ref) :
    Op Id Party Asset Key Pay Ref → State Id Party Asset Key Pay Ref
  | .sign id terms => Function.update s id (some ⟨terms, .running, []⟩)
  | .suspend id => s.modify id fun a => { a with standing := .suspended }
  | .resume id => s.modify id fun a => { a with standing := .running }
  | .withdraw id => s.modify id fun a => { a with standing := .withdrawn }
  | .collect id key pay amount =>
      s.modify id fun a => { a with payments := ⟨key, pay, amount, now, []⟩ :: a.payments }
  | .refund id pay ref amount =>
      s.modify id fun a => { a with payments := a.payments.map (Payment.refund pay ref amount) }

/-- What is reached by allowed operations, while time goes on. -/
inductive Reaches : ℤ → State Id Party Asset Key Pay Ref → Prop where
  | start (now : ℤ) : Reaches now fun _ => none
  | wait {now : ℤ} {s : State Id Party Asset Key Pay Ref} (later : ℤ) (reached : Reaches now s)
      (le : now ≤ later) : Reaches later s
  | act {now : ℤ} {s : State Id Party Asset Key Pay Ref} (signed : Party → Prop)
      (op : Op Id Party Asset Key Pay Ref) (reached : Reaches now s)
      (allowed : Allows now signed s op) : Reaches now (after now s op)

omit [DecidableEq Pay] in
theorem State.modify_cases {s : State Id Party Asset Key Pay Ref} {id id' : Id}
    {f : Account Party Asset Key Pay Ref → Account Party Asset Key Pay Ref}
    {a : Account Party Asset Key Pay Ref} (h : s.modify id f id' = some a) :
    (id' = id ∧ ∃ b, s id = some b ∧ a = f b) ∨ (id' ≠ id ∧ s id' = some a) := by
  unfold State.modify at h
  by_cases hid : id' = id
  · subst hid
    rw [Function.update_self, Option.map_eq_some_iff] at h
    obtain ⟨b, hb, rfl⟩ := h
    exact .inl ⟨rfl, b, hb, rfl⟩
  · rw [Function.update_of_ne hid] at h
    exact .inr ⟨hid, h⟩

/-! ## What an account is like -/

/-- The payments keep the terms. -/
structure Account.Orderly (now : ℤ) (a : Account Party Asset Key Pay Ref) : Prop where
  sound : a.terms.Sound
  past : ∀ p ∈ a.payments, p.time ≤ now
  inside : ∀ p ∈ a.payments, a.terms.start ≤ p.time ∧ p.time < a.terms.stop
  positive : ∀ p ∈ a.payments, 0 < p.amount
  admitted : ∀ p ∈ a.payments, p.amount ∈ a.terms.rule
  keys : (a.payments.map Payment.key).Nodup
  ids : (a.payments.map Payment.id).Nodup
  spaced : History.Spaced Payment.time a.terms.interval a.payments
  capped : History.Capped (fun p : Payment Key Pay Ref => a.terms.periodAt p.time) Payment.amount
    a.terms.cap a.payments
  limited : ∀ n, a.terms.limit = some n → a.payments.length ≤ n
  refunded : ∀ p ∈ a.payments, 0 ≤ p.refunded ∧ p.refunded ≤ p.amount

section

variable {now : ℤ} {a : Account Party Asset Key Pay Ref}

omit [DecidableEq Pay] in
theorem orderly_new {terms : Terms Party Asset} (h : terms.Sound) :
    (⟨terms, .running, []⟩ : Account Party Asset Key Pay Ref).Orderly now where
  sound := h
  past := by simp
  inside := by simp
  positive := by simp
  admitted := by simp
  keys := by simp
  ids := by simp
  spaced := List.Pairwise.nil
  capped _ := by simpa using h.cap_pos.le
  limited := by simp
  refunded := by simp

omit [DecidableEq Pay] in
theorem Account.Orderly.later {later : ℤ} (h : a.Orderly now) (hle : now ≤ later) :
    a.Orderly later :=
  { h with past := fun p hp => (h.past p hp).trans hle }

omit [DecidableEq Pay] in
/-- The standing is nothing to the payments. -/
theorem Account.Orderly.withStanding (h : a.Orderly now) (standing : Standing) :
    { a with standing := standing }.Orderly now :=
  ⟨h.sound, h.past, h.inside, h.positive, h.admitted, h.keys, h.ids, h.spaced, h.capped, h.limited,
    h.refunded⟩

omit [DecidableEq Pay] in
theorem Account.Orderly.collect (h : a.Orderly now) {key : Key} {pay : Pay} {amount : ℤ}
    (hc : a.Collectible now key pay amount) :
    { a with payments := ⟨key, pay, amount, now, []⟩ :: a.payments }.Orderly now where
  sound := h.sound
  past := List.forall_mem_cons.mpr ⟨le_rfl, h.past⟩
  inside := List.forall_mem_cons.mpr
    ⟨⟨hc.started, not_le.mp hc.live.unlapsed⟩, h.inside⟩
  positive := List.forall_mem_cons.mpr ⟨hc.positive, h.positive⟩
  admitted := List.forall_mem_cons.mpr ⟨hc.admitted, h.admitted⟩
  keys := by
    rw [List.map_cons, List.nodup_cons]
    refine ⟨?_, h.keys⟩
    intro hmem
    obtain ⟨p, hp, hkey⟩ := List.mem_map.mp hmem
    exact hc.unused p hp hkey
  ids := by
    rw [List.map_cons, List.nodup_cons]
    refine ⟨?_, h.ids⟩
    intro hmem
    obtain ⟨p, hp, hid⟩ := List.mem_map.mp hmem
    exact hc.unnamed p hp hid
  spaced := List.pairwise_cons.mpr ⟨hc.spaced, h.spaced⟩
  capped := h.capped.cons hc.within
  limited n hn := by
    have hle := h.limited n hn
    have hopen : n ≠ a.payments.length := by
      rintro rfl
      exact hc.live.open' hn
    show a.payments.length + 1 ≤ n
    omega
  refunded := List.forall_mem_cons.mpr ⟨by
    have hpos := hc.positive
    simp only [Payment.refunded, List.map_nil, List.sum_nil]
    omega, h.refunded⟩

/-- A refund leaves everything of a payment as it is but its refunds. -/
theorem Payment.refund_fields (pay : Pay) (ref : Ref) (amount : ℤ) (p : Payment Key Pay Ref) :
    (p.refund pay ref amount).key = p.key ∧ (p.refund pay ref amount).id = p.id ∧
      (p.refund pay ref amount).amount = p.amount ∧ (p.refund pay ref amount).time = p.time := by
  unfold Payment.refund
  split_ifs <;> exact ⟨rfl, rfl, rfl, rfl⟩

theorem Payment.refunded_refund (pay : Pay) (ref : Ref) (amount : ℤ) (p : Payment Key Pay Ref) :
    (p.refund pay ref amount).refunded = p.refunded + if p.id = pay then amount else 0 := by
  unfold Payment.refund Payment.refunded
  split_ifs
  · rw [List.map_cons, List.sum_cons, add_comm]
  · rw [add_zero]

theorem Account.Orderly.refund (h : a.Orderly now) {p : Payment Key Pay Ref} (hp : p ∈ a.payments)
    {ref : Ref} {amount : ℤ} (hpos : 0 < amount) (hcovered : p.refunded + amount ≤ p.amount) :
    { a with payments := a.payments.map (Payment.refund p.id ref amount) }.Orderly now := by
  set pay := p.id
  have hkey : Payment.key ∘ Payment.refund pay ref amount = (Payment.key : Payment Key Pay Ref → Key) :=
    funext fun p => (p.refund_fields pay ref amount).1
  have hid : Payment.id ∘ Payment.refund pay ref amount = (Payment.id : Payment Key Pay Ref → Pay) :=
    funext fun p => (p.refund_fields pay ref amount).2.1
  have hamount : ∀ p : Payment Key Pay Ref, (p.refund pay ref amount).amount = p.amount :=
    fun p => (p.refund_fields pay ref amount).2.2.1
  have htime : ∀ p : Payment Key Pay Ref, (p.refund pay ref amount).time = p.time :=
    fun p => (p.refund_fields pay ref amount).2.2.2
  refine
    { sound := h.sound
      past := ?_
      inside := ?_
      positive := ?_
      admitted := ?_
      keys := ?_
      ids := ?_
      spaced := ?_
      capped := ?_
      limited := ?_
      refunded := ?_ }
  · simpa [htime] using h.past
  · simpa [htime] using h.inside
  · simpa [hamount] using h.positive
  · simpa [hamount] using h.admitted
  · rw [List.map_map, hkey]
    exact h.keys
  · rw [List.map_map, hid]
    exact h.ids
  · apply List.pairwise_map.mpr
    simp only [htime]
    exact h.spaced
  · intro k
    have hk := h.capped k
    unfold History.bucketSum at hk ⊢
    rw [List.filter_map, List.map_map]
    simpa [Function.comp_def, htime, hamount] using hk
  · simpa using h.limited
  · intro q' hq'
    obtain ⟨q, hq, rfl⟩ := List.mem_map.mp hq'
    obtain ⟨hlo, hhi⟩ := h.refunded q hq
    rw [q.refunded_refund, hamount]
    split_ifs with hqid
    · -- no other payment has this id
      obtain rfl := List.inj_on_of_nodup_map h.ids hq hp hqid
      omega
    · omega

end

/-! ## What is reached -/

section

variable {now : ℤ} {s : State Id Party Asset Key Pay Ref}

theorem orderly_after {signed : Party → Prop} {op : Op Id Party Asset Key Pay Ref}
    (h : ∀ id a, s id = some a → a.Orderly now) (hop : Allows now signed s op) :
    ∀ id a, after now s op id = some a → a.Orderly now := by
  intro id a ha
  cases hop with
  | sign id' terms hfresh hpayer hsound hunlapsed =>
      by_cases hid : id = id'
      · subst hid
        rw [after, Function.update_self] at ha
        obtain rfl := Option.some.inj ha
        exact orderly_new hsound
      · rw [after, Function.update_of_ne hid] at ha
        exact h id a ha
  | suspend id' b hb hpayer hlive =>
      rcases State.modify_cases ha with ⟨-, c, hc, rfl⟩ | ⟨-, hold⟩
      · exact (h id' c hc).withStanding _
      · exact h id a hold
  | resume id' b hb hpayer hsuspended hunlapsed =>
      rcases State.modify_cases ha with ⟨-, c, hc, rfl⟩ | ⟨-, hold⟩
      · exact (h id' c hc).withStanding _
      · exact h id a hold
  | withdraw id' b hb hpayer hstanding hopen =>
      rcases State.modify_cases ha with ⟨-, c, hc, rfl⟩ | ⟨-, hold⟩
      · exact (h id' c hc).withStanding _
      · exact h id a hold
  | collect id' key pay amount b hb hpayee hcollect =>
      rcases State.modify_cases ha with ⟨-, c, hc, rfl⟩ | ⟨-, hold⟩
      · obtain rfl := Option.some.inj (hb.symm.trans hc)
        exact (h id' b hb).collect hcollect
      · exact h id a hold
  | refund id' pay ref amount b p hb hpayee hpaid hname hfresh hpos hcovered =>
      rcases State.modify_cases ha with ⟨-, c, hc, rfl⟩ | ⟨-, hold⟩
      · obtain rfl := Option.some.inj (hb.symm.trans hc)
        subst hname
        exact (h id' b hb).refund hpaid hpos hcovered
      · exact h id a hold

/-- **Every account that is reached keeps its terms.** -/
theorem reaches_orderly (h : Reaches now s) {id : Id} {a : Account Party Asset Key Pay Ref}
    (ha : s id = some a) : a.Orderly now := by
  induction h generalizing id a with
  | start now => cases ha
  | wait later reached hle ih => exact (ih ha).later hle
  | act signed op reached hallowed ih => exact orderly_after (fun id a => ih) hallowed id a ha

end

/-! ## Windows of time -/

section

variable {now : ℤ} {a : Account Party Asset Key Pay Ref}

omit [DecidableEq Pay] in
/-- **The caps hold of every window**, wherever it begins: its payments are worth at most the cap for
each period of the agreement it meets, and the most of the rule for each payment the interval leaves room
for; and they lie the interval apart. -/
theorem Account.Orderly.window (h : a.Orderly now) (from' : ℤ) {length : ℤ} (hlen : 0 < length) :
    ((inWindow Payment.time from' length a.payments).map Payment.amount).sum
        ≤ (bucketsMet a.terms.start a.terms.period (max from' a.terms.start)
            (min (from' + length) a.terms.stop)).card * a.terms.cap ∧
      (∀ most, IsGreatest a.terms.rule most → 0 < a.terms.interval →
        ((inWindow Payment.time from' length a.payments).map Payment.amount).sum
          ≤ ((length - 1) / a.terms.interval + 1) * most) ∧
      (inWindow Payment.time from' length a.payments ≠ [] →
        ((inWindow Payment.time from' length a.payments).length - 1 : ℤ) * a.terms.interval
          ≤ length - 1) := by
  refine ⟨?_, fun most hgreatest hinterval => ?_, fun hne => ?_⟩
  · exact History.Capped.window_le h.capped (fun p hp => (h.positive p hp).le) h.inside from' length
  · obtain ⟨most', hgreatest', hpos, -⟩ := h.sound.most
    obtain rfl := hgreatest.unique hgreatest'
    exact h.spaced.window_sum_le hinterval hpos.le (fun p hp => hgreatest.2 (h.admitted p hp)) from' hlen
  · exact h.spaced.window_length_le hne

end

end

end Agreements
