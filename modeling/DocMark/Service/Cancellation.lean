-- SUMMARY: Tokens that stop a submission: a flag and a deadline against a clock.

/-!
# Cancellation

A token is cancelled once its flag is set or its deadline has come. The clock counts
milliseconds from the token's creation.
-/
namespace DocMark.Service

structure Cancellation where
  cancelled : Bool := false
  deadline : Option Nat := none
  now : Nat := 0
deriving DecidableEq, Inhabited, Repr

namespace Cancellation

def withTimeout (ms : Nat) : Cancellation := { deadline := some ms }

def cancel (c : Cancellation) : Cancellation := { c with cancelled := true }

def isCancelled (c : Cancellation) : Bool := c.cancelled || c.deadline.any (· ≤ c.now)

/-- The token after a pause, which ends early once the token is cancelled. -/
def wait (c : Cancellation) (ms : Nat) : Cancellation :=
  if c.isCancelled then c
  else match c.deadline with
    | some deadline => { c with now := min (c.now + ms) deadline }
    | none => { c with now := c.now + ms }

end Cancellation

end DocMark.Service
