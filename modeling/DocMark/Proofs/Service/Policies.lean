-- SUMMARY: The two policies agree: what an atomic and a sequential submission make of the same operations.
import Mathlib
import DocMark.Proofs.Service.Submission

/-!
# Agreement of the policies

A local document does not see where one batch ends and the next begins, so with a token that is never
cancelled both policies accept the same operations and make the same of them, but for the
revision. If there is a first operation that is refused, both stop there with the same reason; only the
sequential submission keeps what came before it.
-/
namespace DocMark.Service

open Edit

namespace LocalDocument

/-- The document with the id carries out the accepted operations, which make it `next`, and refuses the
    one after them. Under the id of another document the first operation is refused. -/
structure FirstRefused (d : LocalDocument) (documentId : String) (accepted : List Operation)
    (op : Operation) (next : LocalDocument) : Prop where
  carried : d.carryOut accepted = .ok next
  own : accepted ≠ [] → documentId = d.documentId
  refused : ∃ rejection, next.update documentId [.ofOperation op] = .error rejection

variable {d next : LocalDocument} {documentId : String} {accepted : List Operation}
  {op : Operation}

theorem firstRefused_of_foreign (h : documentId ≠ d.documentId) (op : Operation) :
    d.FirstRefused documentId [] op d where
  carried := rfl
  own := fun hne => absurd rfl hne
  refused := ⟨_, update_of_foreign h _⟩

theorem firstRefused_of_refused {refusal : Refusal} (haccepted : d.carryOut accepted = .ok next)
    (hrefused : next.apply (.ofOperation op) = .error refusal) :
    d.FirstRefused d.documentId accepted op next where
  carried := haccepted
  own := fun _ => rfl
  refused := by
    rw [← (carryOut_eq_ok haccepted).1]
    exact ⟨_, update_of_refused [] (carryOut_nil next) hrefused⟩

/-- Both policies make the same of the operations and leave documents that differ in the revision only,
    or both stop at the same operation for the same reason. -/
theorem submit_atomic_sequential (d : LocalDocument) (documentId : String)
    (operations : List Operation) (delayMs : Nat) {token : Cancellation}
    (ht : token.NeverCancelled) :
    (∃ d' a s, d.carryOut operations = .ok d'
        ∧ d.submit documentId operations .atomic token =
          (.ok ⟨.atomic, operations.length, min operations.length 1⟩, a)
        ∧ a.document = { d' with revision := d.revision + min operations.length 1 }
        ∧ d.submit documentId operations (.sequential delayMs) token =
          (.ok ⟨.sequential delayMs, operations.length, operations.length⟩, s)
        ∧ s.document = { d' with revision := d.revision + operations.length })
      ∨ ∃ accepted op rest next a s together alone, operations = accepted ++ op :: rest
        ∧ d.FirstRefused documentId accepted op next
        ∧ d.submit documentId operations .atomic token = (.error (.rejected none 0 together), a)
        ∧ a.document = d
        ∧ d.submit documentId operations (.sequential delayMs) token =
          (.error (.rejected (some (accepted.length + 1)) accepted.length alone), s)
        ∧ s.document = { next with revision := d.revision + accepted.length }
        ∧ if documentId = d.documentId then
            ∃ refusal, next.apply (.ofOperation op) = .error refusal
              ∧ together =
                (Rejection.request accepted.length (Request.ofOperation op).kind refusal).message
              ∧ alone = (Rejection.request 0 (Request.ofOperation op).kind refusal).message
          else together = (Rejection.unknownDocument documentId).message
            ∧ alone = (Rejection.unknownDocument documentId).message := by
  by_cases hid : documentId = d.documentId
  · subst hid
    cases hout : d.carryOut operations with
    | ok d' =>
      left
      obtain ⟨_, a, hatomic, rfl, ha⟩ := submit_of_ok .atomic ht hout
      obtain ⟨_, s, hsequential, rfl, hs⟩ := submit_of_ok (.sequential delayMs) ht hout
      exact ⟨d', a, s, rfl, hatomic, ha, hsequential, hs⟩
    | error refusal =>
      right
      obtain ⟨accepted, op, rest, next, rfl, haccepted, hrefused⟩ := exists_refused hout
      obtain ⟨a, hatomic, ha⟩ :=
        submit_atomic_of_refused ht (by simp) (update_of_refused rest haccepted hrefused)
      obtain ⟨s, hsequential, hs⟩ :=
        submit_sequential_of_refused delayMs rest ht haccepted hrefused
      refine ⟨accepted, op, rest, next, a, s, _, _, rfl,
        firstRefused_of_refused haccepted hrefused, hatomic, ha, hsequential, hs, ?_⟩
      rw [if_pos rfl]
      exact ⟨refusal, hrefused, rfl, rfl⟩
  · cases operations with
    | nil =>
      -- No call is made, so that the id does not matter.
      left
      exact ⟨d, _, _, rfl, rfl, rfl, rfl, rfl⟩
    | cons op rest =>
      right
      obtain ⟨a, hatomic, ha⟩ :=
        submit_atomic_of_refused ht (List.cons_ne_nil op rest) (update_of_foreign hid _)
      obtain ⟨s, hsequential, hs⟩ := submit_sequential_of_foreign delayMs op rest ht hid
      refine ⟨[], op, rest, d, a, s, _, _, rfl, firstRefused_of_foreign hid op, hatomic, ha,
        hsequential, hs, ?_⟩
      rw [if_neg hid]
      exact ⟨rfl, rfl⟩

/-- The second of three operations names no style. -/
theorem submit_atomic_sequential_of_unknownStyle :
    let d := LocalDocument.new "doc" "T"
    let operations := [.insertText "a" 1, .setParagraphStyle ⟨1, 1⟩ "HEADING_9", .insertText "b" 2]
    let reason := "].updateParagraphStyle: Unknown named style type: HEADING_9"
    (∃ a, d.submit "doc" operations .atomic {} =
          (.error (.rejected none 0 ("Invalid requests[1" ++ reason)), a)
        ∧ a.document = d)
      ∧ ∃ s, d.submit "doc" operations (.sequential 5) {} =
          (.error (.rejected (some 2) 1 ("Invalid requests[0" ++ reason)), s)
        ∧ s.document.text = "a\n" ∧ s.document.revision = 1 := by
  intro d operations reason
  rcases submit_atomic_sequential d "doc" operations 5 Cancellation.neverCancelled_default with
    ⟨_, _, _, hall, -⟩ |
    ⟨accepted, op, rest, next, a, s, together, alone, hsplit, hfirst, hatomic, ha, hsequential, hs,
      hreason⟩
  · cases hall
  · simp only [operations] at hsplit
    rcases accepted with _ | ⟨first, _ | ⟨second, _ | ⟨third, accepted⟩⟩⟩
    · cases hsplit
      obtain ⟨rejection, hrejection⟩ := hfirst.refused
      cases hfirst.carried
      cases hrejection
    · cases hsplit
      cases hfirst.carried
      rw [if_pos (show "doc" = d.documentId from rfl)] at hreason
      obtain ⟨refusal, hrefusal, htogether, halone⟩ := hreason
      cases hrefusal
      have hbatch : together = "Invalid requests[1" ++ reason := htogether.trans (by decide +kernel)
      have hsingle : alone = "Invalid requests[0" ++ reason := halone.trans (by decide +kernel)
      have htext : s.document.text = "a\n" := by
        rw [hs]
        decide +kernel
      have hrevision : s.document.revision = 1 := by
        rw [hs]
        rfl
      rw [hbatch] at hatomic
      rw [hsingle] at hsequential
      exact ⟨⟨a, hatomic, ha⟩, s, hsequential, htext, hrevision⟩
    · cases hsplit
      cases hfirst.carried
    · simp at hsplit

end LocalDocument

end DocMark.Service
