-- SUMMARY: The ways of handing operations to a document service.

/-!
# Submission policies

Operations go to a service all in one batch, or one by one with a delay between them.
-/
namespace DocMark.Service

inductive Policy where
  | atomic
  | sequential (delayMs : Nat)
deriving DecidableEq, Inhabited, Repr

namespace Policy

def name : Policy → String
  | .atomic => "atomic"
  | .sequential _ => "sequential"

def display : Policy → String
  | .atomic => "atomic"
  | .sequential delay => "sequential (" ++ toString delay ++ "ms between operations)"

end Policy

end DocMark.Service
