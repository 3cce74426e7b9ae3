-- SUMMARY: A service that keeps the calls it receives and can be told to refuse one or to cancel during one.
import DocMark.Service.Cancellation
import DocMark.Service.Submit

/-!
# Recording sessions

A recording service carries nothing out. It keeps every call, also one that it refuses, and so
shows what a submission sends and when it stops.
-/
namespace DocMark.Service

open Edit

structure Call where
  documentId : String
  requests : List Request
deriving DecidableEq, Inhabited, Repr

structure Recording where
  calls : Array Call := #[]
  token : Cancellation := {}
  log : Array Log.Event := #[]
deriving Inhabited, Repr

/-- What a recording service does besides recording; calls are counted from `1`. -/
structure Script where
  /-- The call that is refused, with the message for it. -/
  refused : Option (Nat × String) := none
  /-- The call during which the token is cancelled. -/
  cancelledDuring : Option Nat := none
deriving DecidableEq, Inhabited, Repr

def recordingSession (script : Script) : Session Recording where
  update s documentId requests :=
    let number := s.calls.size + 1
    let token := if script.cancelledDuring = some number then s.token.cancel else s.token
    let s := { s with calls := s.calls.push ⟨documentId, requests⟩, token }
    match script.refused with
    | some (refused, message) => (if refused = number then .error message else .ok (), s)
    | none => (.ok (), s)
  poll s := (s.token.isCancelled, s)
  wait s ms := { s with token := s.token.wait ms }
  record s event := { s with log := s.log.push event }

end DocMark.Service
