import Paymap.Token.Mock

set_option autoImplicit false

/-! # Mock tokens with approvals that expire

`approve` of the mock token takes the ledger up to which an allowance lasts and does not look at it. Here it
is kept, as an asset contract keeps it: an allowance that has expired is read as zero and cannot be spent.
-/

namespace Paymap.Registry

structure ExpiringToken where
  tokens : MockToken
  sequence : U32
  /-- By asset, owner and spender. -/
  liveUntil : FinMap (Address × Address × Address) U32

namespace ExpiringToken

def liveUntilLedger (t : ExpiringToken) (asset owner spender : Address) : U32 :=
  (t.liveUntil.lookup (asset, owner, spender)).getD 0

def lasts (t : ExpiringToken) (asset owner spender : Address) : Bool :=
  t.sequence ≤ t.liveUntilLedger asset owner spender

def transferFrom (t : ExpiringToken) (auth : Address → Bool) (asset spender source dest : Address)
    (amount : I128) : Option ExpiringToken :=
  if t.lasts asset source spender then
    (t.tokens.transferFrom auth asset spender source dest amount).map fun tokens =>
      { t with tokens := tokens }
  else none

def transfer (t : ExpiringToken) (auth : Address → Bool) (asset source dest : Address)
    (amount : I128) : Option ExpiringToken :=
  (t.tokens.transfer auth asset source dest amount).map fun tokens => { t with tokens := tokens }

/-- A negative amount, and an allowance that has expired already, are rejected. -/
def approve (t : ExpiringToken) (asset owner spender : Address) (amount : I128)
    (liveUntilLedger : U32) : Option ExpiringToken :=
  if amount.val < 0 ∨ 0 < amount.val ∧ liveUntilLedger < t.sequence then none
  else some { t with
    tokens := { t.tokens with
      allowances := t.tokens.allowances.insert (asset, owner, spender) amount }
    liveUntil := t.liveUntil.insert (asset, owner, spender) liveUntilLedger }

end ExpiringToken

def expiringToken : Token ExpiringToken where
  allowance t asset owner spender :=
    some (if t.lasts asset owner spender then t.tokens.allowance asset owner spender else 0, t)
  balance t asset id := some (t.tokens.balance asset id, t)
  transferFrom := ExpiringToken.transferFrom
  transfer := ExpiringToken.transfer

def expiringApprovals : Approvals ExpiringToken where
  balanceOf t asset x := (t.tokens.balance asset x).val
  allowanceOf t asset owner spender := (t.tokens.allowance asset owner spender).val
  sequence t := t.sequence.val
  liveUntil t asset owner spender := (t.liveUntilLedger asset owner spender).val

/-- What it moves are mock tokens. -/
theorem expiringToken_faithful : Faithful expiringApprovals.toHoldings expiringToken where
  allowance_ok h := by
    cases h
    exact ⟨fun _ _ => rfl, fun _ _ _ => rfl⟩
  balance_ok h := by
    cases h
    exact ⟨fun _ _ => rfl, fun _ _ _ => rfl⟩
  transferFrom_ok {t t' auth asset spender source dest amount} h hne := by
    change ExpiringToken.transferFrom t auth asset spender source dest amount = some t' at h
    unfold ExpiringToken.transferFrom at h
    split at h
    · obtain ⟨tokens, htokens, rfl⟩ := Option.map_eq_some_iff.mp h
      exact mockToken_faithful.transferFrom_ok htokens hne
    · cases h
  transfer_ok {t t' auth asset source dest amount} h hne := by
    obtain ⟨tokens, htokens, rfl⟩ := Option.map_eq_some_iff.mp h
    exact mockToken_faithful.transfer_ok htokens hne

theorem expiringToken_lasting :
    Lasting expiringApprovals expiringToken ExpiringToken.approve where
  faithful := expiringToken_faithful
  allowance_eq {t t' asset owner spender x} h := by
    cases h
    have hiff : t.lasts asset owner spender = true ↔ expiringApprovals.Lasts t asset owner spender :=
      decide_eq_true_iff
    by_cases hlasts : expiringApprovals.Lasts t asset owner spender
    · rw [if_pos hlasts, if_pos (hiff.mpr hlasts)]
      rfl
    · rw [if_neg hlasts, if_neg fun h => hlasts (hiff.mp h)]
      rfl
  approve_ok {t t' asset owner spender amount liveUntilLedger} h := by
    unfold ExpiringToken.approve at h
    split at h
    · cases h
    · cases h
      refine ⟨fun a o s => ?_, ?_, rfl⟩
      · simp only [expiringApprovals, MockToken.allowance]
        rw [FinMap.lookup_insert]
        by_cases heq : (a, o, s) = (asset, owner, spender)
        · cases heq
          simp
        · rw [if_neg heq, if_neg (by simpa using heq)]
      · simp only [expiringApprovals, ExpiringToken.liveUntilLedger]
        rw [FinMap.lookup_insert, if_pos rfl]
        rfl

end Paymap.Registry
