-- SUMMARY: Submitting to a local document with a token that is never cancelled: what the document becomes.
import Mathlib
import DocMark.Proofs.Service.Requests
import DocMark.Service.LocalSession

/-!
# Submissions to a local document

`carryOut` applies operations one after the other. With a token that is never cancelled, a
submission succeeds under either policy if and only if `carryOut` does, and then both policies leave
the document that `carryOut` gives, up to its revision. Otherwise there is a first operation that is
refused: an atomic submission leaves the document alone, a sequential one keeps what came before it.
-/
namespace DocMark.Service

open Edit

namespace Cancellation

/-- Whether a token is not cancelled, however long one waits. -/
def NeverCancelled (c : Cancellation) : Prop := ∀ ms, (c.wait ms).isCancelled = false

theorem neverCancelled_iff {c : Cancellation} :
    c.NeverCancelled ↔ c.cancelled = false ∧ c.deadline = none := by
  obtain ⟨cancelled, deadline, now⟩ := c
  constructor
  · intro h
    cases deadline with
    | none => simpa [NeverCancelled, wait, isCancelled] using h 0
    | some deadline =>
      -- Waiting up to the deadline cancels the token.
      have hlate := h deadline
      unfold wait at hlate
      split at hlate
      · simp_all
      · simp [isCancelled] at hlate
  · rintro ⟨rfl, rfl⟩ ms
    simp [wait, isCancelled]

theorem NeverCancelled.isCancelled_eq_false {c : Cancellation} (h : c.NeverCancelled) :
    c.isCancelled = false := by
  obtain ⟨hflag, hdeadline⟩ := neverCancelled_iff.mp h
  simp [isCancelled, hflag, hdeadline]

theorem NeverCancelled.wait {c : Cancellation} (h : c.NeverCancelled) (ms : Nat) :
    (c.wait ms).NeverCancelled := by
  obtain ⟨hflag, hdeadline⟩ := neverCancelled_iff.mp h
  rw [neverCancelled_iff, Cancellation.wait, if_neg (by simp [h.isCancelled_eq_false])]
  simp [hdeadline, hflag]

theorem neverCancelled_default : NeverCancelled {} := neverCancelled_iff.mpr ⟨rfl, rfl⟩

end Cancellation

/-- How many calls a successful submission makes, each of which makes a revision. -/
def Policy.revisions : Policy → Nat → Nat
  | .atomic, count => min count 1
  | .sequential _, count => count

namespace LocalDocument

variable {d d' : LocalDocument}

/-! ## Operations in order -/

/-- Applies operations in order, up to the first one that is refused. -/
def carryOut (d : LocalDocument) (operations : List Operation) : Except Refusal LocalDocument :=
  operations.foldlM (fun d op => d.apply (.ofOperation op)) d

@[simp] theorem carryOut_nil (d : LocalDocument) : d.carryOut [] = .ok d := rfl

theorem carryOut_cons (d : LocalDocument) (op : Operation) (rest : List Operation) :
    d.carryOut (op :: rest) = d.apply (.ofOperation op) >>= fun d' => d'.carryOut rest :=
  List.foldlM_cons

theorem carryOut_append (d : LocalDocument) (xs ys : List Operation) :
    d.carryOut (xs ++ ys) = d.carryOut xs >>= fun d' => d'.carryOut ys :=
  List.foldlM_append

theorem carryOut_singleton (d : LocalDocument) (op : Operation) :
    d.carryOut [op] = d.apply (.ofOperation op) := by
  rw [carryOut_cons]
  cases d.apply (.ofOperation op) <;> rfl

theorem carryOut_withRevision (d : LocalDocument) (operations : List Operation) (n : Nat) :
    ({ d with revision := n } : LocalDocument).carryOut operations =
      (d.carryOut operations).map fun d' => { d' with revision := n } := by
  induction operations generalizing d with
  | nil => rfl
  | cons op rest ih =>
    rw [carryOut_cons, carryOut_cons, apply_withRevision]
    cases d.apply (.ofOperation op) with
    | error refusal => rfl
    | ok next => exact ih next

theorem carryOut_eq_ok {operations : List Operation} (h : d.carryOut operations = .ok d') :
    d'.documentId = d.documentId ∧ d'.title = d.title ∧ d'.revision = d.revision := by
  induction operations generalizing d with
  | nil =>
    cases h
    exact ⟨rfl, rfl, rfl⟩
  | cons op rest ih =>
    rw [carryOut_cons] at h
    cases hop : d.apply (.ofOperation op) with
    | error refusal => simp [hop, bind, Except.bind] at h
    | ok next =>
      rw [hop] at h
      obtain ⟨hid, htitle, hrevision⟩ := apply_eq_ok hop
      rw [← hid, ← htitle, ← hrevision]
      exact ih h

/-- An operation that is carried out is followed by the rest. -/
theorem carryOut_rest {op : Operation} (rest : List Operation)
    (hop : d.apply (.ofOperation op) = .ok d') : d.carryOut (op :: rest) = d'.carryOut rest := by
  rw [carryOut_cons, hop]
  rfl

/-- If operations are not carried out, there is a first one that is refused. -/
theorem exists_refused {operations : List Operation} {refusal : Refusal}
    (h : d.carryOut operations = .error refusal) :
    ∃ accepted op rest next, operations = accepted ++ op :: rest ∧ d.carryOut accepted = .ok next
      ∧ next.apply (.ofOperation op) = .error refusal := by
  induction operations generalizing d with
  | nil => cases h
  | cons op rest ih =>
    cases hop : d.apply (.ofOperation op) with
    | error reason =>
      rw [carryOut_cons, hop] at h
      cases h
      exact ⟨[], op, rest, d, rfl, rfl, hop⟩
    | ok next =>
      rw [carryOut_rest rest hop] at h
      obtain ⟨accepted, refused, later, final, rfl, haccepted, hrefused⟩ := ih h
      exact ⟨op :: accepted, refused, later, final, rfl,
        (carryOut_rest accepted hop).trans haccepted, hrefused⟩

/-! ## Batches -/

/-- A batch goes through the operations that are carried out, and then through the others. -/
theorem applyFrom_append {position : Nat} {accepted : List Operation} (rest : List Request)
    (h : d.carryOut accepted = .ok d') :
    applyFrom position (accepted.map .ofOperation ++ rest) d =
      applyFrom (position + accepted.length) rest d' := by
  induction accepted generalizing position d with
  | nil =>
    cases h
    rfl
  | cons op accepted ih =>
    cases hop : d.apply (.ofOperation op) with
    | error refusal => simp [carryOut_cons, hop, bind, Except.bind] at h
    | ok next =>
      rw [carryOut_rest accepted hop] at h
      simp only [List.map_cons, List.cons_append, applyFrom, hop, List.length_cons]
      rw [ih h, Nat.add_right_comm, Nat.add_assoc]

theorem update_of_ok {operations : List Operation} (h : d.carryOut operations = .ok d') :
    d.update d.documentId (operations.map .ofOperation) =
      .ok { d' with revision := d.revision + 1 } := by
  have happlied : applyFrom 0 (operations.map .ofOperation) d = .ok d' := by
    have hrest : applyFrom 0 (operations.map .ofOperation ++ []) d = _ := applyFrom_append [] h
    rw [List.append_nil] at hrest
    exact hrest
  simp [update, happlied, bind, Except.bind, (carryOut_eq_ok h).2.2]

/-- The first operation that is refused is named by the number of those before it. -/
theorem update_of_refused {accepted : List Operation} {op : Operation} {refusal : Refusal}
    (rest : List Operation) (haccepted : d.carryOut accepted = .ok d')
    (hrefused : d'.apply (.ofOperation op) = .error refusal) :
    d.update d.documentId ((accepted ++ op :: rest).map .ofOperation) =
      .error (.request accepted.length (Request.ofOperation op).kind refusal) := by
  have happlied : applyFrom 0 ((accepted ++ op :: rest).map .ofOperation) d =
      .error (.request accepted.length (Request.ofOperation op).kind refusal) := by
    rw [List.map_append, applyFrom_append _ haccepted]
    simp [applyFrom, hrefused]
  rw [update, if_neg (not_not_intro rfl), happlied]
  rfl

theorem update_of_foreign {documentId : String} (h : documentId ≠ d.documentId)
    (requests : List Request) :
    d.update documentId requests = .error (.unknownDocument documentId) := if_pos h

end LocalDocument

/-! ## Submissions -/

/-- What a submission does under a policy, between its first and its last log event. -/
def Session.runUnder {σ : Type} (session : Session σ) (documentId : String)
    (operations : List Operation) : Policy → σ → Except SubmitError Report × σ
  | .atomic => session.submitAtomic documentId operations
  | .sequential delayMs => session.submitEach documentId delayMs 0 operations

section Submission

variable {s : LocalState} {d' : LocalDocument} {documentId : String}
  {operations accepted rest : List Operation} {op : Operation}

theorem localSession_update_ok {requests : List Request}
    (h : s.document.update documentId requests = .ok d') :
    localSession.update s documentId requests =
      (.ok (), { s with document := d', log := s.log.push (d'.updateEvent documentId requests) }) := by
  simp [localSession, h]

theorem localSession_update_error {requests : List Request} {rejection : Rejection}
    (h : s.document.update documentId requests = .error rejection) :
    localSession.update s documentId requests = (.error rejection.message, s) := by
  simp [localSession, h]

theorem localSession_poll (ht : s.token.NeverCancelled) : localSession.poll s = (false, s) := by
  simp [localSession, ht.isCancelled_eq_false]

/-! ### All at once -/

theorem submitAtomic_of_ok (ht : s.token.NeverCancelled)
    (hid : documentId = s.document.documentId) (h : s.document.carryOut operations = .ok d') :
    ∃ s', localSession.submitAtomic documentId operations s =
        (.ok ⟨.atomic, operations.length, Policy.atomic.revisions operations.length⟩, s')
      ∧ s'.document = { d' with
          revision := s.document.revision + Policy.atomic.revisions operations.length } := by
  subst hid
  cases operations with
  | nil =>
    cases h
    exact ⟨s, rfl, rfl⟩
  | cons op rest =>
    rw [Session.submitAtomic, if_neg (by simp), localSession_poll ht]
    dsimp only
    rw [localSession_update_ok (LocalDocument.update_of_ok h)]
    have hone : Policy.atomic.revisions (op :: rest).length = 1 := by simp [Policy.revisions]
    rw [hone]
    exact ⟨_, rfl, rfl⟩

/-- A refused batch leaves the document as it is. -/
theorem submitAtomic_of_refused {rejection : Rejection} (ht : s.token.NeverCancelled)
    (hsome : operations ≠ [])
    (h : s.document.update documentId (operations.map .ofOperation) = .error rejection) :
    ∃ s', localSession.submitAtomic documentId operations s =
        (.error (.rejected none 0 rejection.message), s')
      ∧ s'.document = s.document := by
  rw [Session.submitAtomic, if_neg (by simpa using hsome), localSession_poll ht]
  dsimp only
  rw [localSession_update_error h]
  exact ⟨_, rfl, rfl⟩

/-! ### One by one -/

/-- The state in which a sequential submission sends its next operation. -/
theorem exists_sent (ht : s.token.NeverCancelled) (documentId : String) (delayMs applied : Nat)
    (op : Operation) (rest : List Operation) :
    ∃ sent : LocalState, sent.document = s.document ∧ sent.token.NeverCancelled
      ∧ localSession.submitEach documentId delayMs applied (op :: rest) s =
        match localSession.update sent documentId [.ofOperation op] with
        | (.ok _, s') => localSession.submitEach documentId delayMs (applied + 1) rest s'
        | (.error message, s') =>
          (.error (.rejected (some (applied + 1)) applied message),
            localSession.record s' ⟨.error, "operation rejected",
              [("index", .number (applied + 1)), ("error", .text message)]⟩) := by
  rw [Session.submitEach]
  generalize hwaited : (if 0 < applied ∧ 0 < delayMs then localSession.wait s delayMs else s) = waited
  have hdocument : waited.document = s.document := by
    rw [← hwaited]
    split <;> rfl
  have htoken : waited.token.NeverCancelled := by
    rw [← hwaited]
    split
    · exact ht.wait delayMs
    · exact ht
  refine ⟨localSession.record waited ⟨.debug, "sending operation",
    [("index", .number (applied + 1)), ("kind", .text (Request.ofOperation op).kind)]⟩,
    hdocument, htoken, ?_⟩
  dsimp only
  rw [localSession_poll htoken]
  dsimp only
  generalize localSession.update _ documentId [.ofOperation op] = updated
  obtain ⟨result, s'⟩ := updated
  cases result <;> rfl

/-- An accepted operation makes a revision, and the submission goes on from there. -/
theorem submitEach_cons_of_ok (delayMs applied : Nat) (rest : List Operation)
    (ht : s.token.NeverCancelled) (hid : documentId = s.document.documentId)
    (hop : s.document.apply (.ofOperation op) = .ok d') :
    ∃ s' : LocalState, s'.token.NeverCancelled
      ∧ s'.document = { d' with revision := s.document.revision + 1 }
      ∧ localSession.submitEach documentId delayMs applied (op :: rest) s =
        localSession.submitEach documentId delayMs (applied + 1) rest s' := by
  obtain ⟨sent, hdocument, htoken, hstep⟩ := exists_sent ht documentId delayMs applied op rest
  have hupdate : sent.document.update documentId [.ofOperation op] =
      .ok { d' with revision := s.document.revision + 1 } := by
    subst hid
    rw [hdocument]
    exact LocalDocument.update_of_ok ((LocalDocument.carryOut_singleton _ _).trans hop)
  rw [hstep, localSession_update_ok hupdate]
  refine ⟨_, ?_, ?_, rfl⟩
  · exact htoken
  · rfl

theorem submitEach_cons_of_refused {rejection : Rejection} (delayMs applied : Nat)
    (rest : List Operation) (ht : s.token.NeverCancelled)
    (h : s.document.update documentId [.ofOperation op] = .error rejection) :
    ∃ s', localSession.submitEach documentId delayMs applied (op :: rest) s =
        (.error (.rejected (some (applied + 1)) applied rejection.message), s')
      ∧ s'.document = s.document := by
  obtain ⟨sent, hdocument, -, hstep⟩ := exists_sent ht documentId delayMs applied op rest
  rw [hstep, localSession_update_error (hdocument ▸ h)]
  exact ⟨_, rfl, hdocument⟩

/-- Accepted operations make a revision each, and the submission goes on after them. -/
theorem submitEach_append (delayMs applied : Nat) (rest : List Operation)
    (ht : s.token.NeverCancelled) (hid : documentId = s.document.documentId)
    (h : s.document.carryOut accepted = .ok d') :
    ∃ s' : LocalState, s'.token.NeverCancelled
      ∧ s'.document = { d' with revision := s.document.revision + accepted.length }
      ∧ localSession.submitEach documentId delayMs applied (accepted ++ rest) s =
        localSession.submitEach documentId delayMs (applied + accepted.length) rest s' := by
  induction accepted generalizing s d' applied with
  | nil =>
    cases h
    exact ⟨s, ht, rfl, rfl⟩
  | cons op accepted ih =>
    cases hop : s.document.apply (.ofOperation op) with
    | error refusal => simp [LocalDocument.carryOut_cons, hop, bind, Except.bind] at h
    | ok next =>
      obtain ⟨s₁, htoken, hdocument, hstep⟩ :=
        submitEach_cons_of_ok delayMs applied (accepted ++ rest) ht hid hop
      have hid₁ : documentId = s₁.document.documentId := by
        rw [hdocument, hid]
        exact (LocalDocument.apply_eq_ok hop).1.symm
      -- What is left differs from what `carryOut` has there by the revision only.
      have hrest : s₁.document.carryOut accepted =
          .ok { d' with revision := s.document.revision + 1 } := by
        rw [hdocument, LocalDocument.carryOut_withRevision,
          ← LocalDocument.carryOut_rest accepted hop, h]
        rfl
      obtain ⟨s', htoken', hfinal, hlater⟩ := ih (applied + 1) htoken hid₁ hrest
      have hcount (n : Nat) : n + (op :: accepted).length = n + 1 + accepted.length := by
        simp [Nat.add_right_comm, Nat.add_assoc]
      refine ⟨s', htoken', ?_, ?_⟩
      · rw [hfinal, hdocument, hcount]
      · rw [hcount]
        exact hstep.trans hlater

theorem submitEach_of_ok (delayMs : Nat) (ht : s.token.NeverCancelled)
    (hid : documentId = s.document.documentId) (h : s.document.carryOut operations = .ok d') :
    ∃ s', localSession.submitEach documentId delayMs 0 operations s =
        (.ok ⟨.sequential delayMs, operations.length, operations.length⟩, s')
      ∧ s'.document = { d' with revision := s.document.revision + operations.length } := by
  obtain ⟨s', -, hdocument, hrun⟩ := submitEach_append delayMs 0 [] ht hid h
  rw [List.append_nil, Nat.zero_add] at hrun
  exact ⟨s', hrun, hdocument⟩

/-- The operations before the first one that is refused stay applied. -/
theorem submitEach_of_refused {refusal : Refusal} (delayMs : Nat) (rest : List Operation)
    (ht : s.token.NeverCancelled) (hid : documentId = s.document.documentId)
    (haccepted : s.document.carryOut accepted = .ok d')
    (hrefused : d'.apply (.ofOperation op) = .error refusal) :
    ∃ s', localSession.submitEach documentId delayMs 0 (accepted ++ op :: rest) s =
        (.error (.rejected (some (accepted.length + 1)) accepted.length
          (Rejection.request 0 (Request.ofOperation op).kind refusal).message), s')
      ∧ s'.document = { d' with revision := s.document.revision + accepted.length } := by
  obtain ⟨s₁, htoken, hdocument, hrun⟩ := submitEach_append delayMs 0 (op :: rest) ht hid haccepted
  have hid₁ : documentId = s₁.document.documentId := by
    rw [hdocument, hid]
    exact (LocalDocument.carryOut_eq_ok haccepted).1.symm
  have hrefused₁ : s₁.document.apply (.ofOperation op) = .error refusal := by
    rw [hdocument, LocalDocument.apply_withRevision, hrefused]
    rfl
  have hupdate : s₁.document.update documentId [.ofOperation op] =
      .error (.request 0 (Request.ofOperation op).kind refusal) := by
    subst hid₁
    exact LocalDocument.update_of_refused [] (LocalDocument.carryOut_nil _) hrefused₁
  obtain ⟨s', hlater, hsame⟩ := submitEach_cons_of_refused delayMs accepted.length rest htoken hupdate
  rw [Nat.zero_add] at hrun
  exact ⟨s', hrun.trans hlater, hsame.trans hdocument⟩

end Submission

namespace LocalDocument

variable {d d' : LocalDocument} {operations : List Operation} {token : Cancellation}

/-- A submission has the outcome and leaves the document of its run, whatever is logged. -/
theorem submit_of_run (d : LocalDocument) (documentId : String) (operations : List Operation)
    (policy : Policy) (token : Cancellation) :
    ∃ started : LocalState, started.document = d ∧ started.token = token
      ∧ ∀ {outcome s'}, localSession.runUnder documentId operations policy started = (outcome, s') →
        ∃ s, d.submit documentId operations policy token = (outcome, s)
          ∧ s.document = s'.document := by
  unfold submit Session.submit
  dsimp only
  generalize hstarted : localSession.record _ _ = started
  refine ⟨started, ?_, ?_, fun {outcome s'} hrun => ?_⟩
  · rw [← hstarted]
    rfl
  · rw [← hstarted]
    rfl
  · cases policy with
    | atomic =>
      simp only [Session.runUnder] at hrun
      simp only [hrun]
      cases outcome with
      | ok report => exact ⟨_, rfl, rfl⟩
      | error e => exact ⟨s', rfl, rfl⟩
    | sequential delayMs =>
      simp only [Session.runUnder] at hrun
      simp only [hrun]
      cases outcome with
      | ok report => exact ⟨_, rfl, rfl⟩
      | error e => exact ⟨s', rfl, rfl⟩

/-- A submission that nothing cancels does what its operations do, under either policy. -/
theorem submit_of_ok (policy : Policy) (ht : token.NeverCancelled) (h : d.carryOut operations = .ok d') :
    ∃ report s, d.submit d.documentId operations policy token = (.ok report, s)
      ∧ report = ⟨policy, operations.length, policy.revisions operations.length⟩
      ∧ s.document = { d' with revision := d.revision + policy.revisions operations.length } := by
  obtain ⟨started, rfl, rfl, hlift⟩ := submit_of_run d d.documentId operations policy token
  cases policy with
  | atomic =>
    obtain ⟨s', hrun, hdocument⟩ := submitAtomic_of_ok ht rfl h
    obtain ⟨s, hsubmit, hsame⟩ := hlift hrun
    exact ⟨_, s, hsubmit, rfl, hsame.trans hdocument⟩
  | sequential delayMs =>
    obtain ⟨s', hrun, hdocument⟩ := submitEach_of_ok delayMs ht rfl h
    obtain ⟨s, hsubmit, hsame⟩ := hlift hrun
    exact ⟨_, s, hsubmit, rfl, hsame.trans hdocument⟩

/-- An atomic submission under any id is refused if its batch is, and the document stays. -/
theorem submit_atomic_of_refused {documentId : String} {rejection : Rejection}
    (ht : token.NeverCancelled) (hsome : operations ≠ [])
    (h : d.update documentId (operations.map .ofOperation) = .error rejection) :
    ∃ s, d.submit documentId operations .atomic token =
        (.error (.rejected none 0 rejection.message), s)
      ∧ s.document = d := by
  obtain ⟨started, rfl, rfl, hlift⟩ := submit_of_run d documentId operations .atomic token
  obtain ⟨s', hrun, hdocument⟩ := submitAtomic_of_refused ht hsome h
  obtain ⟨s, hsubmit, hsame⟩ := hlift hrun
  exact ⟨s, hsubmit, hsame.trans hdocument⟩

/-- A sequential submission stops at the first operation that is refused. -/
theorem submit_sequential_of_refused {accepted : List Operation} {op : Operation}
    {refusal : Refusal} (delayMs : Nat) (rest : List Operation) (ht : token.NeverCancelled)
    (haccepted : d.carryOut accepted = .ok d')
    (hrefused : d'.apply (.ofOperation op) = .error refusal) :
    ∃ s, d.submit d.documentId (accepted ++ op :: rest) (.sequential delayMs) token =
        (.error (.rejected (some (accepted.length + 1)) accepted.length
          (Rejection.request 0 (Request.ofOperation op).kind refusal).message), s)
      ∧ s.document = { d' with revision := d.revision + accepted.length } := by
  obtain ⟨started, rfl, rfl, hlift⟩ :=
    submit_of_run d d.documentId (accepted ++ op :: rest) (.sequential delayMs) token
  obtain ⟨s', hrun, hdocument⟩ := submitEach_of_refused delayMs rest ht rfl haccepted hrefused
  obtain ⟨s, hsubmit, hsame⟩ := hlift hrun
  exact ⟨s, hsubmit, hsame.trans hdocument⟩

/-- Under another document's id the first operation is refused. -/
theorem submit_sequential_of_foreign {documentId : String} (delayMs : Nat) (op : Operation)
    (rest : List Operation) (ht : token.NeverCancelled) (h : documentId ≠ d.documentId) :
    ∃ s, d.submit documentId (op :: rest) (.sequential delayMs) token =
        (.error (.rejected (some 1) 0 (Rejection.unknownDocument documentId).message), s)
      ∧ s.document = d := by
  obtain ⟨started, rfl, rfl, hlift⟩ :=
    submit_of_run d documentId (op :: rest) (.sequential delayMs) token
  obtain ⟨s', hrun, hdocument⟩ :=
    submitEach_cons_of_refused delayMs 0 rest ht (update_of_foreign h [.ofOperation op])
  obtain ⟨s, hsubmit, hsame⟩ := hlift hrun
  exact ⟨s, hsubmit, hsame.trans hdocument⟩

theorem submit_of_error {refusal : Refusal} (policy : Policy) (ht : token.NeverCancelled)
    (h : d.carryOut operations = .error refusal) :
    ∃ e s, d.submit d.documentId operations policy token = (.error e, s) := by
  obtain ⟨accepted, op, rest, next, rfl, haccepted, hrefused⟩ := exists_refused h
  cases policy with
  | atomic =>
    obtain ⟨s, hsubmit, -⟩ := submit_atomic_of_refused ht (by simp)
      (update_of_refused rest haccepted hrefused)
    exact ⟨_, s, hsubmit⟩
  | sequential delayMs =>
    obtain ⟨s, hsubmit, -⟩ := submit_sequential_of_refused delayMs rest ht haccepted hrefused
    exact ⟨_, s, hsubmit⟩

end LocalDocument

end DocMark.Service
