-- SUMMARY: The builder's stack of open ranges: every exit finds the start of its own node, so that no stack is needed.
import Mathlib
import DocMark.Proofs.Edit.Origins

/-!
# The stack of open ranges

The builder sees a walk one event at a time and keeps the starts of open ranges on a stack. A node opens
its range when it is entered, its children leave the stack as they found it, and so the node finds
its own start on top when it is left. The stack is never found empty, and the builder computes what
the recursive compilation does.
-/
namespace DocMark

open Document Edit Edit.Builder Markdown

namespace Markdown.Node

/-- The kind of a node without a meaning to the builder. -/
def unknownKind? : Node → Option String
  | .other kind _ => some kind
  | _ => none

end Markdown.Node

namespace Edit

namespace Builder

/-- The builder in the middle of a walk. -/
def stateAfter (options : BuildOptions) (events : List WalkEvent) : State :=
  events.foldl (step options) {}

theorem stateAfter_append (options : BuildOptions) (xs ys : List WalkEvent) :
    stateAfter options (xs ++ ys) = ys.foldl (step options) (stateAfter options xs) :=
  List.foldl_append

/-! ## What one event does -/

variable (s : State) (n : Node) (options : BuildOptions)

theorem unsupported_enter :
    (enter s n).unsupported.toList = s.unsupported.toList ++ n.unknownKind?.toList := by
  cases n with
  | heading level anchor cs | list ordered tight items =>
    simp only [enter, State.breakUnlessFirst]
    split <;> simp [Node.unknownKind?, State.openRange, State.insert, State.emit]
  | other kind cs => simp [enter, State.noteUnsupported, Node.unknownKind?]
  | document cs | textBlock cs | text content | paragraph cs | listItem cs | link destination cs =>
    simp [enter, Node.unknownKind?, State.openRange, State.insert, State.emit]

theorem popStart_unsupported : s.popStart.2.unsupported = s.unsupported := by
  unfold State.popStart
  split <;> rfl

theorem popStart_starts : s.popStart.2.starts = s.starts.tail := by
  unfold State.popStart
  split <;> simp_all

theorem unsupported_exit : (exit options s n).unsupported = s.unsupported := by
  cases n with
  | heading level anchor cs | paragraph cs | list ordered tight items =>
    simp [exit, State.closeRange, State.emit, popStart_unsupported]
  | link destination cs =>
    simp only [exit]
    split <;> simp [State.noteEmptyLink, State.emit, popStart_unsupported]
  | text content =>
    simp only [exit]
    split <;> rfl
  | document cs | textBlock cs | listItem cs | other kind cs => rfl

/-- A node takes a start off the stack if and only if it has put one there. -/
theorem starts_exit :
    (exit options s n).starts = if opensRange n then s.starts.tail else s.starts := by
  cases n with
  | heading level anchor cs | paragraph cs | list ordered tight items =>
    simp [exit, State.closeRange, State.emit, popStart_starts, opensRange]
  | link destination cs =>
    simp only [exit]
    split <;> simp [State.noteEmptyLink, State.emit, popStart_starts, opensRange]
  | text content =>
    simp only [exit]
    split <;> rfl
  | document cs | textBlock cs | listItem cs | other kind cs => rfl

/-! ## What a walk does -/

theorem unsupported_foldl (events : List WalkEvent) :
    (events.foldl (step options) s).unsupported.toList =
      s.unsupported.toList
        ++ (events.filterMap WalkEvent.entered?).filterMap Node.unknownKind? := by
  induction events generalizing s with
  | nil => simp
  | cons event events ih =>
    cases event with
    | enter n =>
      have henter := unsupported_enter s n
      cases hkind : n.unknownKind? <;>
        simp [step, ih, henter, hkind, WalkEvent.entered?]
    | exit n => simp [step, ih, unsupported_exit, WalkEvent.entered?, List.filterMap_cons]

/-- The children of a node leave the stack as it is right after its enter. -/
theorem starts_walkAll :
    ((Node.walkAll n.children).foldl (step options) (enter s n)).starts =
      if opensRange n then (enter s n).cursor :: s.starts else s.starts :=
  (extends_walkAll options n.children (enter s n)).starts.trans (starts_enter s n)

/-- Whenever a node is left, the stack holds the start that the node recorded itself, above what it held
    before the node was entered and holds again afterwards. -/
structure ClosesOwnRange (options : BuildOptions) (earlier before : List WalkEvent) (n : Node) :
    Prop where
  walked : before = earlier ++ .enter n :: Node.walkAll n.children
  own : opensRange n = true → (stateAfter options before).starts =
    (stateAfter options (earlier ++ [.enter n])).cursor :: (stateAfter options earlier).starts
  restored : (stateAfter options (before ++ [.exit n])).starts = (stateAfter options earlier).starts

theorem closesOwnRange_of_walk {root n : Node} {before after : List WalkEvent}
    (h : root.walk = before ++ .exit n :: after) :
    ∃ earlier, ClosesOwnRange options earlier before n := by
  obtain ⟨earlier, rfl⟩ := Node.exists_enter_of_exit h
  have hstarts := starts_walkAll (stateAfter options earlier) n options
  refine ⟨earlier, rfl, ?_, ?_⟩
  · intro hopens
    simpa [stateAfter_append, step, hopens] using hstarts
  · have hexit : (stateAfter options
        (earlier ++ .enter n :: Node.walkAll n.children ++ [.exit n])).starts =
          (exit options ((Node.walkAll n.children).foldl (step options)
            (enter (stateAfter options earlier) n)) n).starts := by
      simp [stateAfter_append, step]
    rw [hexit, starts_exit, hstarts]
    cases opensRange n <;> rfl

end Builder

/-- The builder gives what the recursive compilation gives. Each range that it closes has the start
    recorded for that very node, so the stack is never found empty, and is empty at the end; what it
    does not support are the kinds without a meaning, in the order in which the walk enters them. -/
theorem build_stack_compile (root : Node) (options : BuildOptions) :
    build root options = compile root options
      ∧ (∀ before n after, root.walk = before ++ .exit n :: after →
        ∃ earlier, ClosesOwnRange options earlier before n)
      ∧ (Builder.run options root).starts = []
      ∧ (build root options).unsupported = root.nodes.filterMap Node.unknownKind? := by
  refine ⟨build_eq_compile root options, ?_, ?_, ?_⟩
  · intro before n after h
    exact closesOwnRange_of_walk options h
  · exact (extends_walk options root {}).starts
  · exact unsupported_foldl {} options root.walk

end Edit

end DocMark
