import Paymap.Registry.Policy

set_option autoImplicit false

/-! # A failed call leaves no trace

An invocation that returns an error or traps is rolled back by the host. So it can be deleted from
any run: the state and every later answer stay the same. What the contract itself adds is that,
even before the rollback, a failing call has written nothing to the books and published nothing,
also one that fails after the transfer (`body_failKeeps`); only the tokens need putting back.
-/

namespace Paymap.Registry

section

variable {T : Type}

/-- **A failed call leaves no trace**, at any place of any run: the books, the events and the tokens
are as before it, and every later call answers what it would have answered without it. -/
theorem failed_call_leaves_no_trace (host : Host T) (start : Ledger T)
    (before after : List (Step T)) (c : Call) (f : Failure)
    (hfail : (invoke host c (run host start before)).1 = .error f) :
    (∀ l', (c.op.body (host.env c.authorized)).run (run host start before) = .error f l' →
      SameBooks (run host start before) l') ∧
    (invoke host c (run host start before)).2 = run host start before ∧
    run host start (before ++ .call c :: after) = run host start (before ++ after) ∧
    outcomes host start (before ++ .call c :: after)
      = outcomes host start before ++ .error f :: outcomes host (run host start before) after ∧
    outcomes host start (before ++ after)
      = outcomes host start before ++ outcomes host (run host start before) after := by
  have hsame : (invoke host c (run host start before)).2 = run host start before :=
    invoke_error hfail
  have hexec : exec host (run host start before) (.call c) = run host start before := hsame
  refine ⟨fun l' h => body_failKeeps _ _ _ _ _ h, hsame, ?_, ?_, ?_⟩
  · rw [run, run, Runs.run_append, Runs.run_append, Runs.run_cons, hexec]
  · unfold outcomes
    rw [log_append, log, hsame, hfail, List.map_append, List.map_cons]
  · unfold outcomes
    rw [log_append, List.map_append]

end

/-- Two charges of `unboundedInput` in different periods, with fresh funds for the second. The
period sum of the second is small, the lifetime total of both does not fit. -/
def unboundedRun : List (Step MockToken) :=
  [.call ⟨.createMandate unboundedInput, [⟨1⟩]⟩,
    .call (mockCharge ⟨1⟩ (.lit 170141183460469231731687303715884105722 (by decide))),
    .close mockInput.periodSeconds, .token unboundedFunds]

/-- The last charge fails at the accounting, after the transfer: the run it leaves behind has moved
the money, and the rollback moves it back. -/
theorem failed_call_leaves_no_trace_mock :
    let l := run mockHost (genesis (.lit 0 (by decide)) unboundedFunds) unboundedRun
    let c := mockCharge ⟨2⟩ (.lit 10 (by decide))
    (match (c.op.body (mockHost.env c.authorized)).run l with
      | .ok _ _ => none
      | .error f l' => some (f, (l'.token.balance ⟨3⟩ ⟨2⟩).val))
      = some (.err .arithmeticOverflow, 10) ∧
    ((invoke mockHost c l).2.token.balance ⟨3⟩ ⟨2⟩).val = 0 ∧ (invoke mockHost c l).2 = l :=
  ⟨by decide, by decide,
    (failed_call_leaves_no_trace mockHost (genesis (.lit 0 (by decide)) unboundedFunds)
      unboundedRun [] (mockCharge ⟨2⟩ (.lit 10 (by decide))) (.err .arithmeticOverflow)
      (by decide)).2.1⟩

end Paymap.Registry
