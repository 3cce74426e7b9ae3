-- SUMMARY: Submission to a local document.
import DocMark.Service.Cancellation
import DocMark.Service.LocalDocument
import DocMark.Service.Submit

/-!
# Submitting to a local document

The session of a local document: requests change the document, the token answers by its own
clock, and events are kept in order.
-/
namespace DocMark.Service

open Edit

structure LocalState where
  document : LocalDocument
  token : Cancellation := {}
  log : Array Log.Event := #[]
deriving Inhabited, Repr

def localSession : Session LocalState where
  update s documentId requests :=
    match s.document.update documentId requests with
    | .ok d => (.ok (), { s with
        document := d, log := s.log.push (d.updateEvent documentId requests) })
    | .error rejection => (.error rejection.message, s)
  poll s := (s.token.isCancelled, s)
  wait s ms := { s with token := s.token.wait ms }
  record s event := { s with log := s.log.push event }

namespace LocalDocument

/-- Submits operations to the document; the token decides when to stop. -/
def submit (d : LocalDocument) (documentId : String) (operations : List Operation)
    (policy : Policy) (token : Cancellation) : Except SubmitError Report × LocalState :=
  localSession.submit documentId operations policy ⟨d, token, #[]⟩

end LocalDocument

end DocMark.Service
