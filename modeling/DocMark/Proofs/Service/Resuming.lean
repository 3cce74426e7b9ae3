-- SUMMARY: A sequential submission that is cancelled, any number of times, and resumed from what it reported.
import Mathlib
import DocMark.Proofs.Service.Submission

/-!
# Resuming a cancelled submission

An `Attempt` submits operations one by one to a local document, with a token that may be found cancelled
at any time: it may be cancelled by its own clock, by whatever wraps the document, or from elsewhere. An
attempt that is cancelled reports how many operations it counted. These are the operations that are in
the document, no more and no fewer, so the next attempt can go on with those that are left, and nothing
is lost or done twice.
-/
namespace DocMark.Service

open Edit

/-- A sequential submission to a local document, of which only the token is not fixed: accepted requests
    do to the document what they do to any, and nothing else changes it. -/
structure Attempt where
  delayMs : Nat
  State : Type
  session : Session State
  document : State → LocalDocument
  /-- The state in which a document is submitted to. -/
  start : LocalDocument → State
  document_start : ∀ d, document (start d) = d
  update_of_ok : ∀ s documentId requests d, (document s).update documentId requests = .ok d →
    (session.update s documentId requests).1 = .ok ()
      ∧ document (session.update s documentId requests).2 = d
  document_poll : ∀ s, document (session.poll s).2 = document s
  document_wait : ∀ s ms, document (session.wait s ms) = document s
  document_record : ∀ s event, document (session.record s event) = document s

namespace Attempt

/-- The outcome of an attempt, and the document that it leaves. -/
def run (a : Attempt) (documentId : String) (operations : List Operation) (d : LocalDocument) :
    Except SubmitError Report × LocalDocument :=
  let (outcome, s) := a.session.submit documentId operations (.sequential a.delayMs) (a.start d)
  (outcome, a.document s)

/-- An attempt that nothing but the token itself stops. -/
def withToken (delayMs : Nat) (token : Cancellation) : Attempt where
  delayMs := delayMs
  State := LocalState
  session := localSession
  document := (·.document)
  start d := ⟨d, token, #[]⟩
  document_start _ := rfl
  update_of_ok s documentId requests d h := by simp [localSession_update_ok h]
  document_poll _ := rfl
  document_wait _ _ := rfl
  document_record _ _ := rfl

/-- The local document in a wrapper that counts calls and cancels the token during one of them. -/
def cancellingSession (during : Nat) : Session (LocalState × Nat) where
  update s documentId requests :=
    let token := if s.2 + 1 = during then s.1.token.cancel else s.1.token
    let (answer, s') := localSession.update { s.1 with token } documentId requests
    (answer, s', s.2 + 1)
  poll s :=
    let (cancelled, s') := localSession.poll s.1
    (cancelled, s', s.2)
  wait s ms := (localSession.wait s.1 ms, s.2)
  record s event := (localSession.record s.1 event, s.2)

/-- An attempt with a fresh token that is cancelled during a call; calls are counted from `1`. -/
def cancelledDuring (delayMs during : Nat) : Attempt where
  delayMs := delayMs
  State := LocalState × Nat
  session := cancellingSession during
  document s := s.1.document
  start d := (⟨d, {}, #[]⟩, 0)
  document_start _ := rfl
  update_of_ok s documentId requests d h := by simp [cancellingSession, localSession, h]
  document_poll _ := rfl
  document_wait _ _ := rfl
  document_record _ _ := rfl

end Attempt

/-- Submits operations attempt by attempt. Each one that is cancelled is followed by the next, with the
    operations that it does not count as applied; after all attempts comes one with a fresh token that
    nobody cancels. The result is what they report as applied and the document at the end, unless an
    operation is refused. -/
def submitInTurn (documentId : String) (delayMs : Nat) :
    List Attempt → List Operation → LocalDocument → Option (List Nat × LocalDocument)
  | [], operations, d =>
    match (Attempt.withToken delayMs {}).run documentId operations d with
    | (.ok report, d') => some ([report.applied], d')
    | (.error _, _) => none
  | a :: later, operations, d =>
    match a.run documentId operations d with
    | (.ok report, d') => some ([report.applied], d')
    | (.error (.cancelled applied), d') =>
      (submitInTurn documentId delayMs later (operations.drop applied) d').map fun (counts, final) =>
        (applied :: counts, final)
    | (.error (.rejected _ _ _), _) => none

/-- How a submission of acceptable operations can end after `count` of them, `applied` having been
    accepted before. -/
inductive EndsAfter (delayMs applied : Nat) (operations : List Operation) :
    Nat → Except SubmitError Report → Prop where
  | done : EndsAfter delayMs applied operations operations.length
      (.ok ⟨.sequential delayMs, applied + operations.length, applied + operations.length⟩)
  | cancelled {count : Nat} (hcount : count < operations.length) :
      EndsAfter delayMs applied operations count (.error (.cancelled (applied + count)))

theorem EndsAfter.cons {delayMs applied count : Nat} {operations : List Operation}
    {outcome : Except SubmitError Report} (op : Operation)
    (h : EndsAfter delayMs (applied + 1) operations count outcome) :
    EndsAfter delayMs applied (op :: operations) (count + 1) outcome := by
  have hsum (n : Nat) : applied + 1 + n = applied + (n + 1) := by omega
  cases h with
  | done =>
    rw [hsum]
    exact .done
  | cancelled hcount =>
    rw [hsum]
    exact .cancelled (by simpa using hcount)

namespace LocalDocument

variable {d d' : LocalDocument} {operations : List Operation}

/-- The operations that are left go on from where the first ones end, whatever the revision is. -/
theorem carryOut_drop (h : d.carryOut operations = .ok d') {count : Nat} {next : LocalDocument}
    (hnext : d.carryOut (operations.take count) = .ok next) (revision : Nat) :
    ({ next with revision } : LocalDocument).carryOut (operations.drop count) =
      .ok { d' with revision } := by
  have hsplit : next.carryOut (operations.drop count) = .ok d' := by
    rw [← List.take_append_drop count operations, carryOut_append, hnext] at h
    exact h
  rw [carryOut_withRevision, hsplit]
  rfl

end LocalDocument

namespace Attempt

variable (a : Attempt) {documentId : String} {d d' : LocalDocument} {operations : List Operation}

/-- Before an operation that the document accepts, the submission is cancelled and leaves the document as
    it is; or the operation makes a revision and the submission goes on. -/
theorem submitEach_cons {s : a.State} {op : Operation} {next : LocalDocument} (applied : Nat)
    (rest : List Operation) (hid : documentId = (a.document s).documentId)
    (hop : (a.document s).apply (.ofOperation op) = .ok next) :
    (∃ s', a.document s' = a.document s
        ∧ a.session.submitEach documentId a.delayMs applied (op :: rest) s =
          (.error (.cancelled applied), s'))
      ∨ ∃ s', a.document s' = { next with revision := (a.document s).revision + 1 }
        ∧ a.session.submitEach documentId a.delayMs applied (op :: rest) s =
          a.session.submitEach documentId a.delayMs (applied + 1) rest s' := by
  rw [Session.submitEach]
  generalize hwaited : (if 0 < applied ∧ 0 < a.delayMs then a.session.wait s a.delayMs else s) = waited
  have hdocument : a.document (a.session.poll waited).2 = a.document s := by
    rw [a.document_poll, ← hwaited]
    split
    · exact a.document_wait s a.delayMs
    · rfl
  generalize a.session.poll waited = answered at hdocument ⊢
  obtain ⟨cancelled, polled⟩ := answered
  cases cancelled with
  | true => exact .inl ⟨_, (a.document_record ..).trans hdocument, rfl⟩
  | false =>
    dsimp only
    generalize hsending : a.session.record polled _ = sending
    have hsame : a.document sending = a.document s := by
      rw [← hsending]
      exact (a.document_record ..).trans hdocument
    have hupdate : (a.document sending).update documentId [.ofOperation op] =
        .ok { next with revision := (a.document s).revision + 1 } := by
      rw [hsame, hid]
      exact LocalDocument.update_of_ok ((LocalDocument.carryOut_singleton _ _).trans hop)
    obtain ⟨hanswer, hafter⟩ := a.update_of_ok _ _ _ _ hupdate
    generalize a.session.update sending documentId [.ofOperation op] = updated at hanswer hafter ⊢
    obtain ⟨answer, updated⟩ := updated
    obtain rfl : answer = .ok () := hanswer
    exact .inr ⟨updated, hafter, rfl⟩

/-- Whenever the token stops it, what the submission counted is what it did to the document. -/
theorem submitEach_endsAfter {s : a.State} (applied : Nat)
    (hid : operations ≠ [] → documentId = (a.document s).documentId)
    (h : (a.document s).carryOut operations = .ok d') :
    ∃ count next,
      EndsAfter a.delayMs applied operations count
          (a.session.submitEach documentId a.delayMs applied operations s).1
        ∧ (a.document s).carryOut (operations.take count) = .ok next
        ∧ a.document (a.session.submitEach documentId a.delayMs applied operations s).2 =
          { next with revision := (a.document s).revision + count } := by
  induction operations generalizing applied s d' with
  | nil => exact ⟨0, a.document s, .done, rfl, rfl⟩
  | cons op rest ih =>
    cases hop : (a.document s).apply (.ofOperation op) with
    | error refusal => simp [LocalDocument.carryOut_cons, hop, bind, Except.bind] at h
    | ok first =>
      have hown := hid (List.cons_ne_nil op rest)
      rcases a.submitEach_cons applied rest hown hop with ⟨s', hsame, hrun⟩ | ⟨s', hfirst, hrun⟩
      · rw [hrun]
        exact ⟨0, a.document s, .cancelled (Nat.succ_pos _), rfl, hsame⟩
      · have hrest : (a.document s').carryOut rest =
            .ok { d' with revision := (a.document s).revision + 1 } := by
          rw [hfirst, LocalDocument.carryOut_withRevision, ← LocalDocument.carryOut_rest rest hop, h]
          rfl
        have hown' : documentId = (a.document s').documentId := by
          rw [hown, hfirst]
          exact (LocalDocument.apply_eq_ok hop).1.symm
        obtain ⟨count, next, hends, hnext, hfinal⟩ := ih (applied + 1) (fun _ => hown') hrest
        rw [hfirst, LocalDocument.carryOut_withRevision] at hnext
        cases hlater : first.carryOut (rest.take count) with
        | error refusal => simp [hlater, Except.map] at hnext
        | ok later =>
          rw [hlater] at hnext
          cases hnext
          refine ⟨count + 1, later, ?_, ?_, ?_⟩
          · rw [hrun]
            exact hends.cons op
          · exact (LocalDocument.carryOut_rest _ hop).trans hlater
          · rw [hrun, hfinal, hfirst, Nat.add_right_comm, Nat.add_assoc]

/-- The same of a whole attempt. -/
theorem run_endsAfter (hid : operations ≠ [] → documentId = d.documentId)
    (h : d.carryOut operations = .ok d') :
    ∃ count next, EndsAfter a.delayMs 0 operations count (a.run documentId operations d).1
      ∧ d.carryOut (operations.take count) = .ok next
      ∧ (a.run documentId operations d).2 = { next with revision := d.revision + count } := by
  unfold run Session.submit
  dsimp only
  generalize hstarted : a.session.record (a.start d) _ = started
  have hdocument : a.document started = d := by
    rw [← hstarted, a.document_record, a.document_start]
  obtain ⟨count, next, hends, hnext, hfinal⟩ :=
    a.submitEach_endsAfter (s := started) 0 (hdocument ▸ hid) (hdocument ▸ h)
  rw [hdocument] at hnext hfinal
  refine ⟨count, next, ?_, hnext, ?_⟩
  · cases hrun : a.session.submitEach documentId a.delayMs 0 operations started with
    | mk outcome s' =>
      rw [hrun] at hends
      cases outcome <;> exact hends
  · cases hrun : a.session.submitEach documentId a.delayMs 0 operations started with
    | mk outcome s' =>
      rw [hrun] at hfinal
      cases outcome with
      | ok report => exact (a.document_record ..).trans hfinal
      | error e => exact hfinal

end Attempt

/-- An attempt with a fresh token is never cancelled. -/
theorem Attempt.run_withToken {d d' : LocalDocument} {documentId : String}
    {operations : List Operation} (delayMs : Nat)
    (hid : operations ≠ [] → documentId = d.documentId) (h : d.carryOut operations = .ok d') :
    ((Attempt.withToken delayMs {}).run documentId operations d) =
      (.ok ⟨.sequential delayMs, operations.length, operations.length⟩,
        { d' with revision := d.revision + operations.length }) := by
  cases operations with
  | nil =>
    cases h
    rfl
  | cons op rest =>
    obtain rfl := hid (List.cons_ne_nil op rest)
    obtain ⟨report, s, hsubmit, rfl, hdocument⟩ :=
      LocalDocument.submit_of_ok (.sequential delayMs) Cancellation.neverCancelled_default h
    have hrun : (Attempt.withToken delayMs {}).run d.documentId (op :: rest) d =
        (.ok ⟨.sequential delayMs, (op :: rest).length, (op :: rest).length⟩, s.document) :=
      congrArg (fun r => (r.1, r.2.document)) hsubmit
    rw [hrun, hdocument]
    rfl

/-- What all attempts together do to a document that accepts the operations. -/
theorem submitInTurn_of_carryOut {d d' : LocalDocument} {documentId : String}
    {operations : List Operation} (delayMs : Nat) (attempts : List Attempt)
    (hid : operations ≠ [] → documentId = d.documentId) (h : d.carryOut operations = .ok d') :
    ∃ counts, submitInTurn documentId delayMs attempts operations d =
        some (counts, { d' with revision := d.revision + operations.length })
      ∧ counts.sum = operations.length := by
  induction attempts generalizing d d' operations with
  | nil =>
    rw [submitInTurn, Attempt.run_withToken delayMs hid h]
    exact ⟨_, rfl, rfl⟩
  | cons a later ih =>
    obtain ⟨count, next, hends, hnext, hfinal⟩ := a.run_endsAfter hid h
    rw [submitInTurn]
    generalize a.run documentId operations d = result at hends hfinal ⊢
    obtain ⟨outcome, reached⟩ := result
    obtain rfl : reached = _ := hfinal
    cases hends with
    | done =>
      rw [List.take_length, h] at hnext
      cases hnext
      exact ⟨[0 + operations.length], rfl, by simp⟩
    | cancelled hcount =>
      have hown : operations.drop count ≠ [] →
          documentId = ({ next with revision := d.revision + count } : LocalDocument).documentId := by
        intro hleft
        rw [(LocalDocument.carryOut_eq_ok hnext).1]
        exact hid (by rintro rfl; simp at hleft)
      obtain ⟨counts, hlater, hsum⟩ := ih hown (LocalDocument.carryOut_drop h hnext _)
      have hlength : count + (operations.drop count).length = operations.length := by
        rw [List.length_drop, Nat.add_sub_cancel' hcount.le]
      refine ⟨(0 + count) :: counts, ?_, ?_⟩
      · dsimp only
        rw [Nat.zero_add, hlater, ← hlength, Nat.add_assoc]
        rfl
      · rw [List.sum_cons, hsum, Nat.zero_add, hlength]

namespace LocalDocument

variable {d : LocalDocument} {documentId : String} {operations : List Operation} {delayMs : Nat}
  {token : Cancellation} {report : Report} {s : LocalState}

/-- An uninterrupted submission that succeeds carries out all operations of a document with the id. -/
theorem carryOut_of_submit (ht : token.NeverCancelled)
    (h : d.submit documentId operations (.sequential delayMs) token = (.ok report, s)) :
    (operations ≠ [] → documentId = d.documentId) ∧ ∃ d', d.carryOut operations = .ok d' := by
  cases operations with
  | nil => exact ⟨fun hsome => absurd rfl hsome, d, rfl⟩
  | cons op rest =>
    by_cases hid : documentId = d.documentId
    · subst hid
      cases hout : d.carryOut (op :: rest) with
      | ok d' => exact ⟨fun _ => rfl, d', rfl⟩
      | error refusal =>
        obtain ⟨e, s', hfails⟩ := submit_of_error (.sequential delayMs) ht hout
        rw [h] at hfails
        cases hfails
    · obtain ⟨s', hfails, -⟩ := submit_sequential_of_foreign delayMs op rest ht hid
      rw [h] at hfails
      cases hfails

/-- However often and whenever a sequential submission is cancelled, going on with the operations that it
    does not count as applied reaches the document that an uninterrupted submission reaches, and the
    counts add up to all operations. -/
theorem submitInTurn_eq_submit (ht : token.NeverCancelled)
    (h : d.submit documentId operations (.sequential delayMs) token = (.ok report, s))
    (attempts : List Attempt) (lastDelayMs : Nat) :
    ∃ counts, submitInTurn documentId lastDelayMs attempts operations d = some (counts, s.document)
      ∧ counts.sum = operations.length := by
  obtain ⟨hid, d', hd'⟩ := carryOut_of_submit ht h
  have hreference : (Attempt.withToken delayMs token).run documentId operations d =
      (.ok report, s.document) := congrArg (fun r => (r.1, r.2.document)) h
  obtain ⟨count, next, hends, hnext, hfinal⟩ :=
    (Attempt.withToken delayMs token).run_endsAfter hid hd'
  rw [hreference] at hends hfinal
  cases hends with
  | done =>
    rw [List.take_length, hd'] at hnext
    cases hnext
    obtain ⟨counts, hturn, hsum⟩ := submitInTurn_of_carryOut lastDelayMs attempts hid hd'
    exact ⟨counts, hturn.trans (congrArg (fun final => some (counts, final)) hfinal.symm), hsum⟩

/-- Five operations, cancelled during the second call, and going on during the first one again. -/
theorem submitInTurn_eq_submit_twice :
    let d := LocalDocument.new "doc" "T"
    let operations := [.insertText "A" 1, .setParagraphStyle ⟨1, 1⟩ "HEADING_1", .insertText "\n" 2,
      .insertText "b" 3, .setBulletList ⟨3, 3⟩ "DISC"]
    let attempts := [Attempt.cancelledDuring 5 2, .cancelledDuring 0 1]
    ∃ s, d.submit "doc" operations (.sequential 5) {} = (.ok ⟨.sequential 5, 5, 5⟩, s)
      ∧ submitInTurn "doc" 0 attempts operations d = some ([2, 1, 2], s.document)
      ∧ s.document.text = "A\nb\n" ∧ s.document.revision = 5 := by
  intro d operations attempts
  have hsubmit : d.submit "doc" operations (.sequential 5) {} = (.ok ⟨.sequential 5, 5, 5⟩, _) := rfl
  obtain ⟨counts, hturn, -⟩ :=
    submitInTurn_eq_submit Cancellation.neverCancelled_default hsubmit attempts 0
  have hcounts : (submitInTurn "doc" 0 attempts operations d).map (·.1) = some [2, 1, 2] := by
    decide +kernel
  rw [hturn] at hcounts
  cases hcounts
  exact ⟨_, hsubmit, hturn, by decide +kernel, rfl⟩

end LocalDocument

end DocMark.Service
