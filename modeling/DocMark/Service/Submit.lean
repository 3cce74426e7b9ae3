-- SUMMARY: Submitting operations to a document service under a policy, with cancellation.
import DocMark.Edit.Request
import DocMark.Log
import DocMark.Service.Policy

/-!
# Submission

A `Session` is what a submission talks to, as a machine over a state: the service that takes
batches of requests, the token that may stop it, the clock and the log. An atomic submission
makes one call with everything. A sequential one makes a call per operation and stops at the
first refusal; the token is asked before every call, and nothing is tried twice.
-/
namespace DocMark.Service

open Edit

structure Session (σ : Type) where
  /-- Hands a batch to the document with the given id; the error is the service's message. -/
  update : σ → String → List Request → Except String Unit × σ
  /-- Asks whether the token is cancelled. -/
  poll : σ → Bool × σ
  /-- Lets the given number of milliseconds pass, or fewer once the token is cancelled. -/
  wait : σ → Nat → σ
  record : σ → Log.Event → σ

structure Report where
  policy : Policy
  /-- How many operations the service accepted. -/
  applied : Nat
  /-- How many calls were made. -/
  calls : Nat
deriving DecidableEq, Inhabited, Repr

inductive SubmitError where
  /-- The service refused; `operation` is the refused one, counted from `1`, or none for a
      whole batch. -/
  | rejected (operation : Option Nat) (applied : Nat) (message : String)
  | cancelled (applied : Nat)
deriving DecidableEq, Inhabited, Repr

def SubmitError.message : SubmitError → String
  | .rejected (some operation) applied message =>
    "Operation " ++ toString operation ++ " rejected by the document service ("
      ++ toString applied ++ " applied before it): " ++ message
  | .rejected none _ message => "Batch rejected by the document service: " ++ message
  | .cancelled applied =>
    "Submission cancelled after " ++ toString applied ++ " applied operation(s)"

namespace Session

variable {σ : Type}

def submitAtomic (session : Session σ) (documentId : String) (operations : List Operation)
    (s : σ) : Except SubmitError Report × σ :=
  if operations.isEmpty then (.ok ⟨.atomic, 0, 0⟩, s)
  else
    match session.poll s with
    | (true, s) => (.error (.cancelled 0), s)
    | (false, s) =>
      match session.update s documentId (operations.map Request.ofOperation) with
      | (.ok _, s) => (.ok ⟨.atomic, operations.length, 1⟩, s)
      | (.error message, s) =>
        let s := session.record s ⟨.error, "batch rejected", [("error", .text message)]⟩
        (.error (.rejected none 0 message), s)

/-- One call per operation, `applied` operations having been accepted before. -/
def submitEach (session : Session σ) (documentId : String) (delayMs : Nat) :
    Nat → List Operation → σ → Except SubmitError Report × σ
  | applied, [], s => (.ok ⟨.sequential delayMs, applied, applied⟩, s)
  | applied, op :: rest, s =>
    let s := if 0 < applied ∧ 0 < delayMs then session.wait s delayMs else s
    match session.poll s with
    | (true, s) =>
      let s := session.record s
        ⟨.warn, "submission cancelled", [("applied", .number applied)]⟩
      (.error (.cancelled applied), s)
    | (false, s) =>
      let request := Request.ofOperation op
      let s := session.record s ⟨.debug, "sending operation",
        [("index", .number (applied + 1)), ("kind", .text request.kind)]⟩
      match session.update s documentId [request] with
      | (.ok _, s) => submitEach session documentId delayMs (applied + 1) rest s
      | (.error message, s) =>
        let s := session.record s ⟨.error, "operation rejected",
          [("index", .number (applied + 1)), ("error", .text message)]⟩
        (.error (.rejected (some (applied + 1)) applied message), s)

def submit (session : Session σ) (documentId : String) (operations : List Operation)
    (policy : Policy) (s : σ) : Except SubmitError Report × σ :=
  let s := session.record s ⟨.info, "submitting edit operations",
    [("document_id", .text documentId), ("operations", .number operations.length),
     ("policy", .text policy.display)]⟩
  let result := match policy with
    | .atomic => session.submitAtomic documentId operations s
    | .sequential delayMs => session.submitEach documentId delayMs 0 operations s
  match result with
  | (.ok report, s) =>
    (.ok report, session.record s ⟨.info, "submission finished",
      [("applied", .number report.applied), ("calls", .number report.calls)]⟩)
  | (.error e, s) => (.error e, s)

end Session

end DocMark.Service
