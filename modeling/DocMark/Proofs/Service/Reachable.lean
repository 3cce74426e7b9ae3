-- SUMMARY: The documents that a new document can become, and how to show that all of them keep a property.
import Mathlib
import DocMark.Proofs.Service.Requests
import DocMark.Service.LocalSession

/-!
# Reachable documents

A document changes by single requests, by lists of requests that are carried out as one change, and
by submissions. Each of them may be refused, and a submission may be cut short by its token.
A property that holds of new documents, that an accepted request keeps and that has nothing
to do with the revision holds of every document reached in this way.
-/
namespace DocMark.Service

open Edit

/-! ## What a submission keeps -/

namespace Session

variable {σ : Type} {session : Session σ} {Q : σ → Prop}

/-- Whether nothing that a submission does with a session ends a property of its state. -/
structure Keeps (session : Session σ) (Q : σ → Prop) : Prop where
  update : ∀ s documentId requests, Q s → Q (session.update s documentId requests).2
  poll : ∀ s, Q s → Q (session.poll s).2
  wait : ∀ s ms, Q s → Q (session.wait s ms)
  record : ∀ s event, Q s → Q (session.record s event)

theorem Keeps.submitAtomic (h : session.Keeps Q) (documentId : String)
    (operations : List Operation) {s : σ} (hs : Q s) :
    Q (session.submitAtomic documentId operations s).2 := by
  unfold Session.submitAtomic
  split
  · exact hs
  · have hpoll := h.poll s hs
    generalize session.poll s = polled at hpoll ⊢
    obtain ⟨cancelled, s'⟩ := polled
    cases cancelled with
    | true => exact hpoll
    | false =>
      have hupdate := h.update s' documentId (operations.map Request.ofOperation) hpoll
      dsimp only
      generalize session.update s' documentId (operations.map Request.ofOperation) = updated
        at hupdate ⊢
      obtain ⟨result, s''⟩ := updated
      cases result with
      | ok _ => exact hupdate
      | error message => exact h.record _ _ hupdate

theorem Keeps.submitEach (h : session.Keeps Q) (documentId : String) (delayMs applied : Nat)
    (operations : List Operation) {s : σ} (hs : Q s) :
    Q (session.submitEach documentId delayMs applied operations s).2 := by
  induction operations generalizing applied s with
  | nil => exact hs
  | cons op rest ih =>
    unfold Session.submitEach
    dsimp only
    have hwait : Q (if 0 < applied ∧ 0 < delayMs then session.wait s delayMs else s) := by
      split
      · exact h.wait _ _ hs
      · exact hs
    generalize (if 0 < applied ∧ 0 < delayMs then session.wait s delayMs else s) = waited
      at hwait ⊢
    have hpoll := h.poll waited hwait
    generalize session.poll waited = polled at hpoll ⊢
    obtain ⟨cancelled, s'⟩ := polled
    cases cancelled with
    | true => exact h.record _ _ hpoll
    | false =>
      dsimp only
      generalize hevent : session.record s' _ = sent
      have hsent : Q sent := hevent ▸ h.record _ _ hpoll
      have hupdate := h.update sent documentId [Request.ofOperation op] hsent
      generalize session.update sent documentId [Request.ofOperation op] = updated at hupdate ⊢
      obtain ⟨result, s''⟩ := updated
      cases result with
      | ok _ => exact ih _ hupdate
      | error message => exact h.record _ _ hupdate

theorem Keeps.submit (h : session.Keeps Q) {documentId : String} {operations : List Operation}
    {policy : Policy} {s : σ} (hs : Q s) :
    Q (session.submit documentId operations policy s).2 := by
  unfold Session.submit
  dsimp only
  generalize hevent : session.record s _ = started
  have hstarted : Q started := hevent ▸ h.record _ _ hs
  cases policy with
  | atomic =>
    have hresult := h.submitAtomic documentId operations hstarted
    dsimp only
    generalize session.submitAtomic documentId operations started = result at hresult ⊢
    obtain ⟨outcome, s'⟩ := result
    cases outcome with
    | ok report => exact h.record _ _ hresult
    | error e => exact hresult
  | sequential delayMs =>
    have hresult := h.submitEach documentId delayMs 0 operations hstarted
    dsimp only
    generalize session.submitEach documentId delayMs 0 operations started = result at hresult ⊢
    obtain ⟨outcome, s'⟩ := result
    cases outcome with
    | ok report => exact h.record _ _ hresult
    | error e => exact hresult

end Session

/-! ## Actions -/

/-- What can be done to a document, be it accepted or refused. -/
inductive Action where
  | apply (request : Request)
  | update (documentId : String) (requests : List Request)
  | submit (documentId : String) (operations : List Operation) (policy : Policy)
      (token : Cancellation)
deriving Inhabited, Repr

namespace LocalDocument

/-- The document after an action; a refused request leaves it as it is. -/
def perform (d : LocalDocument) : Action → LocalDocument
  | .apply request =>
    match d.apply request with
    | .ok d' => d'
    | .error _ => d
  | .update documentId requests =>
    match d.update documentId requests with
    | .ok d' => d'
    | .error _ => d
  | .submit documentId operations policy token =>
    (d.submit documentId operations policy token).2.document

/-- The documents that some actions make of a new one. -/
inductive Reachable : LocalDocument → Prop where
  | new (documentId title : String) : Reachable (.new documentId title)
  | perform {d : LocalDocument} (a : Action) : Reachable d → Reachable (d.perform a)

variable {P : LocalDocument → Prop}

theorem applyFrom_keeps (happly : ∀ d r d', P d → d.apply r = .ok d' → P d')
    {requests : List Request} {position : Nat} {d d' : LocalDocument} (hd : P d)
    (h : applyFrom position requests d = .ok d') : P d' := by
  induction requests generalizing position d with
  | nil =>
    cases h
    exact hd
  | cons r rs ih =>
    unfold applyFrom at h
    cases hr : d.apply r with
    | error refusal => simp [hr] at h
    | ok next =>
      rw [hr] at h
      exact ih (happly d r next hd hr) h

theorem update_keeps (happly : ∀ d r d', P d → d.apply r = .ok d' → P d')
    (hrevision : ∀ d n, P d → P { d with revision := n }) {documentId : String}
    {requests : List Request} {d d' : LocalDocument} (hd : P d)
    (h : d.update documentId requests = .ok d') : P d' := by
  unfold update at h
  split at h
  · cases h
  · cases hr : applyFrom 0 requests d with
    | error rejection => simp [hr, bind, Except.bind] at h
    | ok next =>
      rw [hr] at h
      cases h
      exact hrevision _ _ (applyFrom_keeps happly hd hr)

/-- To hold of every reachable document, a property has to hold of new ones, to outlast accepted
    requests and not to depend on the revision. -/
theorem Reachable.keeps (hnew : ∀ documentId title, P (.new documentId title))
    (happly : ∀ d r d', P d → d.apply r = .ok d' → P d')
    (hrevision : ∀ d n, P d → P { d with revision := n }) {d : LocalDocument}
    (h : Reachable d) : P d := by
  induction h with
  | new documentId title => exact hnew documentId title
  | @perform d a _ hd =>
    cases a with
    | apply request =>
      unfold LocalDocument.perform
      dsimp only
      split
      · exact happly _ _ _ hd ‹_›
      · exact hd
    | update documentId requests =>
      unfold LocalDocument.perform
      dsimp only
      split
      · exact update_keeps happly hrevision hd ‹_›
      · exact hd
    | submit documentId operations policy token =>
      have hkeeps : localSession.Keeps fun s => P s.document :=
        { update := fun s id requests hs => by
            cases hr : s.document.update id requests with
            | ok next => simpa [localSession, hr] using update_keeps happly hrevision hs hr
            | error rejection => simpa [localSession, hr] using hs
          poll := fun s hs => hs
          wait := fun s ms hs => hs
          record := fun s event hs => hs }
      exact hkeeps.submit (s := ⟨d, token, #[]⟩) hd

end LocalDocument

end DocMark.Service
