import Paymap.Registry.Host

set_option autoImplicit false

/-! # Faithful tokens

What the registry's users rely on when an asset is an honest SEP-41 token: a transfer moves exactly
the amount it is asked to move, or traps, and spending an allowance reduces it by exactly what was
spent. `Holdings` reads the balances and allowances off the tokens' state; `Faithful` is the
behaviour. Nothing is required of a transfer from an account to itself, nor of what the two queries
answer: the results about money need neither. `Lasting` is what a payer relies on who approves an
allowance: it is what was approved last, less what was spent of it, and it lasts up to a ledger.
-/

namespace Paymap.Registry

/-- The balances and allowances in a state of the tokens. -/
structure Holdings (T : Type) where
  balanceOf : T → (asset account : Address) → Int
  allowanceOf : T → (asset owner spender : Address) → Int

section

variable {T : Type} (view : Holdings T)

/-- Balances and allowances are the same in both states. -/
def SameHoldings (t t' : T) : Prop :=
  (∀ asset x, view.balanceOf t' asset x = view.balanceOf t asset x) ∧
  ∀ asset owner spender, view.allowanceOf t' asset owner spender
    = view.allowanceOf t asset owner spender

/-- Exactly `amount` of `asset` moves from `source` to `dest`, and no other balance changes. -/
def Moves (t t' : T) (asset source dest : Address) (amount : Int) : Prop :=
  ∀ a x, view.balanceOf t' a x
    = view.balanceOf t a x + (if a = asset ∧ x = dest then amount else 0)
      - (if a = asset ∧ x = source then amount else 0)

/-- Exactly `amount` of what `owner` allows `spender` in `asset` is spent, and no other allowance
changes. -/
def Spends (t t' : T) (asset owner spender : Address) (amount : Int) : Prop :=
  ∀ a o s, view.allowanceOf t' a o s
    = view.allowanceOf t a o s - if a = asset ∧ o = owner ∧ s = spender then amount else 0

structure Faithful (token : Token T) : Prop where
  allowance_ok : ∀ {t t' : T} {asset owner spender : Address} {x : I128},
    token.allowance t asset owner spender = some (x, t') → SameHoldings view t t'
  balance_ok : ∀ {t t' : T} {asset id : Address} {x : I128},
    token.balance t asset id = some (x, t') → SameHoldings view t t'
  transferFrom_ok : ∀ {t t' : T} {auth : Address → Bool} {asset spender source dest : Address}
    {amount : I128}, token.transferFrom t auth asset spender source dest amount = some t' →
    source ≠ dest → Moves view t t' asset source dest amount.val ∧
      Spends view t t' asset source spender amount.val
  transfer_ok : ∀ {t t' : T} {auth : Address → Bool} {asset source dest : Address}
    {amount : I128}, token.transfer t auth asset source dest amount = some t' →
    source ≠ dest → Moves view t t' asset source dest amount.val ∧
      ∀ a o s, view.allowanceOf t' a o s = view.allowanceOf t a o s

variable {view}

theorem SameHoldings.trans {t₁ t₂ t₃ : T} (h₁ : SameHoldings view t₁ t₂)
    (h₂ : SameHoldings view t₂ t₃) : SameHoldings view t₁ t₃ :=
  ⟨fun a x => (h₂.1 a x).trans (h₁.1 a x), fun a o s => (h₂.2 a o s).trans (h₁.2 a o s)⟩

theorem Moves.of_same {t₁ t₂ t₃ : T} {asset source dest : Address} {amount : Int}
    (h₁ : SameHoldings view t₁ t₂) (h₂ : Moves view t₂ t₃ asset source dest amount) :
    Moves view t₁ t₃ asset source dest amount := by
  intro a x
  rw [h₂ a x, h₁.1 a x]

theorem Spends.of_same {t₁ t₂ t₃ : T} {asset owner spender : Address} {amount : Int}
    (h₁ : SameHoldings view t₁ t₂) (h₂ : Spends view t₂ t₃ asset owner spender amount) :
    Spends view t₁ t₃ asset owner spender amount := by
  intro a o s
  rw [h₂ a o s, h₁.2 a o s]

/-! ## Approvals -/

/-- `approve` of the asset contracts. -/
abbrev Approve (T : Type) :=
  T → (asset owner spender : Address) → (amount : I128) → (liveUntilLedger : U32) → Option T

/-- The number of the current ledger, and the last one that an allowance is for. -/
structure Approvals (T : Type) extends Holdings T where
  sequence : T → Int
  liveUntil : T → (asset owner spender : Address) → Int

/-- The allowance has not expired. -/
def Approvals.Lasts (view : Approvals T) (t : T) (asset owner spender : Address) : Prop :=
  view.sequence t ≤ view.liveUntil t asset owner spender

instance (view : Approvals T) (t : T) (asset owner spender : Address) :
    Decidable (view.Lasts t asset owner spender) := inferInstanceAs (Decidable (_ ≤ _))

/-- An expired allowance is read as zero, and an approval takes the place of the one before. -/
structure Lasting (view : Approvals T) (token : Token T) (approve : Approve T) : Prop where
  faithful : Faithful view.toHoldings token
  allowance_eq : ∀ {t t' : T} {asset owner spender : Address} {x : I128},
    token.allowance t asset owner spender = some (x, t') →
    x.val = if view.Lasts t asset owner spender then view.allowanceOf t asset owner spender else 0
  approve_ok : ∀ {t t' : T} {asset owner spender : Address} {amount : I128} {liveUntilLedger : U32},
    approve t asset owner spender amount liveUntilLedger = some t' →
    (∀ a o s, view.allowanceOf t' a o s = if a = asset ∧ o = owner ∧ s = spender then amount.val
      else view.allowanceOf t a o s) ∧
    view.liveUntil t' asset owner spender = liveUntilLedger.val ∧ view.sequence t' = view.sequence t

/-! ## What the answers of a token depend on -/

/-- The same answer, in states that look the same. -/
def SameAnswer {V : Type} (look : T → V) (p p' : I128 × T) : Prop :=
  p.1 = p'.1 ∧ look p.2 = look p'.2

/-- What `sees` sees of an asset, a payer and a merchant decides what the asset answers the registry
about the two: their balances, what the payer allows the registry, and whatever else this token looks
at before it moves money between them. -/
structure Token.DependsOn {V : Type} (token : Token T) (registry : Address)
    (sees : T → (asset payer merchant : Address) → V) : Prop where
  allowance : ∀ {t t' : T} {asset payer merchant : Address},
    sees t asset payer merchant = sees t' asset payer merchant →
    Option.Rel (SameAnswer fun t => sees t asset payer merchant)
      (token.allowance t asset payer registry) (token.allowance t' asset payer registry)
  balance : ∀ {t t' : T} {asset payer merchant id : Address}, id = payer ∨ id = merchant →
    sees t asset payer merchant = sees t' asset payer merchant →
    Option.Rel (SameAnswer fun t => sees t asset payer merchant)
      (token.balance t asset id) (token.balance t' asset id)
  transferFrom : ∀ {t t' : T} {asset payer merchant : Address} (auth : Address → Bool)
    (amount : I128), sees t asset payer merchant = sees t' asset payer merchant →
    ((token.transferFrom t auth asset registry payer merchant amount).isSome ↔
      (token.transferFrom t' auth asset registry payer merchant amount).isSome)
  transfer : ∀ {t t' : T} {asset payer merchant : Address} (auth : Address → Bool)
    (amount : I128), sees t asset payer merchant = sees t' asset payer merchant →
    ((token.transfer t auth asset merchant payer amount).isSome ↔
      (token.transfer t' auth asset merchant payer amount).isSome)

end

end Paymap.Registry
