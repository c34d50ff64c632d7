import Mathlib.Algebra.Order.Group.Int

set_option autoImplicit false

/-! # How long an approval lasts

`packages/stellar/src/token.ts`: the ledger up to which the allowance of a checkout is asked for. It is
derived from the end of the mandate, at five seconds a ledger and with some ledgers to spare, and bounded
by the longest time an entry may live.
-/

namespace Paymap.Stellar

/-- `LEDGER_CLOSE_TIME_SECONDS`. -/
def ledgerCloseTimeSeconds : ℤ := 5

/-- `APPROVAL_SAFETY_BUFFER_LEDGERS`. -/
def approvalSafetyBufferLedgers : ℤ := 360

/-- `MAX_ENTRY_TTL_LEDGERS`. -/
def maxEntryTtlLedgers : ℤ := 6312000

def computeApprovalLiveUntilLedger (currentLedger nowUnixSeconds mandateExpiresAtUnixSeconds : ℤ) : ℤ :=
  let secondsUntilExpiry :=
    if mandateExpiresAtUnixSeconds > nowUnixSeconds then mandateExpiresAtUnixSeconds - nowUnixSeconds
    else 0
  let ledgersUntilExpiry := secondsUntilExpiry.tdiv ledgerCloseTimeSeconds + approvalSafetyBufferLedgers
  currentLedger + min ledgersUntilExpiry maxEntryTtlLedgers

end Paymap.Stellar
