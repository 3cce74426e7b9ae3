-- SUMMARY: The event machine of the builder computes the stack-free compilation.
import Mathlib
import DocMark.Edit.Compile

/-!
# Building is compiling

`Builder.run` folds over walk events with a stack of open starts, `compileNode` recurses over the tree.
Running a node's events from any state adds what compiling the node at the state's cursor gives, and
leaves the stack as it was.
-/
namespace DocMark.Edit

open Document Markdown

theorem closedRange_within {start stop : Nat} (hstart : 1 ≤ start) (hstop : start ≤ stop) :
    1 ≤ (closedRange start stop).start
      ∧ (closedRange start stop).start ≤ (closedRange start stop).last
      ∧ (closedRange start stop).last ≤ stop := by
  simp only [closedRange]
  omega

namespace Builder

/-- What running the events of a piece of the tree does to a state. -/
structure Extends (s s' : State) (c : Compiled) : Prop where
  cursor : s'.cursor = c.cursor
  starts : s'.starts = s.starts
  operations : s'.operations.toList = s.operations.toList ++ c.operations
  unsupported : s'.unsupported.toList = s.unsupported.toList ++ c.unsupported

namespace Extends

variable {s s₁ s₂ s' : State} {a c : Compiled}

theorem nothing (s : State) : Extends s s (Compiled.nothing s.cursor) where
  cursor := rfl
  starts := rfl
  operations := (List.append_nil _).symm
  unsupported := (List.append_nil _).symm

theorem insert (s : State) (text : String) :
    Extends s (s.insert text) (Compiled.insertion text s.cursor) where
  cursor := rfl
  starts := rfl
  operations := Array.toList_push
  unsupported := (List.append_nil _).symm

theorem breakUnlessFirst (s : State) :
    Extends s s.breakUnlessFirst (compileBreakUnlessFirst s.cursor) := by
  unfold State.breakUnlessFirst compileBreakUnlessFirst
  split
  · exact insert s "\n"
  · exact nothing s

theorem andThen {f : Nat → Compiled} (ha : Extends s s₁ a) (hf : Extends s₁ s₂ (f s₁.cursor)) :
    Extends s s₂ (a.andThen f) := by
  rw [ha.cursor] at hf
  exact
    { cursor := hf.cursor
      starts := hf.starts.trans ha.starts
      operations := by
        rw [hf.operations, ha.operations, List.append_assoc]
        rfl
      unsupported := by
        rw [hf.unsupported, ha.unsupported, List.append_assoc]
        rfl }

theorem noteUnsupported {kind : String}
    (h : Extends (s.noteUnsupported kind) s' c) :
    Extends s s' { c with unsupported := kind :: c.unsupported } where
  cursor := h.cursor
  starts := h.starts
  operations := h.operations
  unsupported := by
    rw [h.unsupported]
    simp [State.noteUnsupported]

/-- A range that was opened before a piece is closed after it with the start it was given. -/
theorem closeRange (h : Extends s.openRange s' c) :
    s'.closeRange = (closedRange s.cursor c.cursor, { s' with starts := s.starts }) := by
  have hstarts : s'.starts = s.cursor :: s.starts := h.starts
  simp [State.closeRange, State.popStart, hstarts, h.cursor]

/-- The closing operation of a node joins what lies within the range. -/
theorem emitClosing (h : Extends s.openRange s' c) {op : Operation} {f : Nat → List Operation}
    (hf : f c.cursor = [op]) :
    Extends s (({ s' with starts := s.starts } : State).emit op) (c.andStyle f) where
  cursor := h.cursor
  starts := rfl
  operations := by
    change (s'.operations.push op).toList = s.operations.toList ++ (c.operations ++ f c.cursor)
    rw [Array.toList_push, h.operations, hf, List.append_assoc]
    rfl
  unsupported := h.unsupported

theorem closeLink (h : Extends s.openRange s' c) (destination : String) (cs : List Node)
    (options : BuildOptions) :
    Extends s (exit options s' (.link destination cs)) (c.andStyle fun stop =>
      if stop - s.cursor = 0 then [] else [.setLink ⟨s.cursor, stop - 1⟩ destination]) := by
  have hpop : s'.popStart = (s.cursor, { s' with starts := s.starts }) := by
    have hstarts : s'.starts = s.cursor :: s.starts := h.starts
    simp [State.popStart, hstarts]
  have hcursor : s'.cursor = c.cursor := h.cursor
  simp only [exit, hpop]
  by_cases hempty : s'.cursor - s.cursor = 0
  · rw [if_pos hempty]
    exact
      { cursor := hcursor
        starts := rfl
        operations := by
          change s'.operations.toList = s.operations.toList ++ (c.operations ++
            if c.cursor - s.cursor = 0 then [] else [.setLink ⟨s.cursor, c.cursor - 1⟩ destination])
          rw [← hcursor, if_pos hempty, List.append_nil, h.operations]
          rfl
        unsupported := h.unsupported }
  · rw [if_neg hempty]
    refine h.emitClosing ?_
    rw [← hcursor, if_neg hempty]

end Extends

variable (options : BuildOptions)

mutual

theorem extends_walk (n : Node) (s : State) :
    Extends s (n.walk.foldl (step options) s) (compileNode options n s.cursor) := by
  cases n with
  | document cs =>
    simp only [Node.walk, List.foldl_cons, List.foldl_append, List.foldl_nil, compileNode]
    exact extends_walkAll cs s
  | textBlock cs =>
    simp only [Node.walk, List.foldl_cons, List.foldl_append, List.foldl_nil, compileNode]
    exact extends_walkAll cs s
  | heading level anchor cs =>
    simp only [Node.walk, List.foldl_cons, List.foldl_append, List.foldl_nil, compileNode]
    have hchildren := extends_walkAll cs s.breakUnlessFirst.openRange
    refine (Extends.breakUnlessFirst s).andThen ?_
    simp only [step, enter, exit, hchildren.closeRange]
    exact hchildren.emitClosing rfl
  | paragraph cs =>
    simp only [Node.walk, List.foldl_cons, List.foldl_append, List.foldl_nil, compileNode]
    have hchildren := extends_walkAll cs (s.insert "\n").openRange
    refine (Extends.insert s "\n").andThen ?_
    simp only [step, enter, exit, hchildren.closeRange]
    exact hchildren.emitClosing rfl
  | list ordered tight items =>
    simp only [Node.walk, List.foldl_cons, List.foldl_append, List.foldl_nil, compileNode]
    have hchildren := extends_walkAll items s.breakUnlessFirst.openRange
    refine (Extends.breakUnlessFirst s).andThen ?_
    simp only [step, enter, exit, hchildren.closeRange]
    exact hchildren.emitClosing rfl
  | listItem cs =>
    simp only [Node.walk, List.foldl_cons, List.foldl_append, List.foldl_nil, compileNode]
    exact (Extends.insert s "\n").andThen (extends_walkAll cs (s.insert "\n"))
  | link destination cs =>
    simp only [Node.walk, List.foldl_cons, List.foldl_append, List.foldl_nil, compileNode]
    exact (extends_walkAll cs s.openRange).closeLink destination cs options
  | text content =>
    simp only [Node.walk, List.foldl_cons, List.foldl_nil, compileNode, step, enter, exit]
    split
    · exact Extends.nothing s
    · exact Extends.insert s content
  | other kind cs =>
    simp only [Node.walk, List.foldl_cons, List.foldl_append, List.foldl_nil, compileNode]
    exact (extends_walkAll cs (s.noteUnsupported kind)).noteUnsupported

theorem extends_walkAll (ns : List Node) (s : State) :
    Extends s ((Node.walkAll ns).foldl (step options) s) (compileAll options ns s.cursor) := by
  cases ns with
  | nil => exact Extends.nothing s
  | cons n ns =>
    simp only [Node.walkAll, List.foldl_append, compileAll]
    exact (extends_walk n s).andThen (extends_walkAll ns _)

end

end Builder

/-- The builder and the compiler agree on every tree. -/
theorem build_eq_compile (root : Node) (options : BuildOptions) :
    build root options = compile root options := by
  have h := Builder.extends_walk options root {}
  unfold build compile Builder.State.output Builder.run
  rw [h.operations, h.unsupported, h.cursor]
  rfl

end DocMark.Edit
