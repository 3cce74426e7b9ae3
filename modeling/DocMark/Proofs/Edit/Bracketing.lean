-- SUMMARY: The operations of a build as a bracket language over the cursor.
import Mathlib
import DocMark.Proofs.Edit.Compilation
import DocMark.Proofs.Markdown.Nodes

/-!
# Builds as brackets

A build inserts at its cursor, which moves on by what was inserted, and closes ranges that reach from
where the cursor once was to where it is. Between these two points are the operations of whole nodes,
and so the operations of a build are bracketed like the nodes that they are emitted for.
-/
namespace DocMark.Edit

open Document Markdown Text

/-- A style operation over all that was inserted while the cursor moved from `start` to `stop`. -/
structure Operation.Closes (start stop : Nat) (op : Operation) : Prop where
  range : op.range? = some (closedRange start stop)
  link : ∀ r url, op = .setLink r url → start < stop

/-- Operations that a piece of a tree may emit from one cursor to another, if its texts are some of
    `texts`. -/
inductive Bracketed (texts : String → Prop) : Nat → List Operation → Nat → Prop
  | nothing {cursor : Nat} : Bracketed texts cursor [] cursor
  | insertion {cursor : Nat} {text : String} (hsome : text ≠ "") (htext : texts text) :
    Bracketed texts cursor [.insertText text cursor] (cursor + Utf16.length text)
  | andThen {start mid stop : Nat} {xs ys : List Operation} (hxs : Bracketed texts start xs mid)
    (hys : Bracketed texts mid ys stop) : Bracketed texts start (xs ++ ys) stop
  | closing {start stop : Nat} {xs : List Operation} {op : Operation}
    (hxs : Bracketed texts start xs stop) (hop : op.Closes start stop) :
    Bracketed texts start (xs ++ [op]) stop

namespace Bracketed

variable {texts : String → Prop} {start stop cursor : Nat} {operations : List Operation}

theorem le (h : Bracketed texts start operations stop) : start ≤ stop := by
  induction h with
  | nothing => exact le_refl _
  | insertion => exact Nat.le_add_right ..
  | andThen _ _ ihxs ihys => exact ihxs.trans ihys
  | closing _ _ ih => exact ih

theorem mono {texts' : String → Prop} (h : Bracketed texts start operations stop)
    (htexts : ∀ text, texts text → texts' text) : Bracketed texts' start operations stop := by
  induction h with
  | nothing => exact .nothing
  | insertion hsome htext => exact .insertion hsome (htexts _ htext)
  | andThen _ _ ihxs ihys => exact .andThen ihxs ihys
  | closing _ hop ih => exact .closing ih hop

theorem breakUnlessFirst (hbreak : texts "\n") :
    Bracketed texts cursor (compileBreakUnlessFirst cursor).operations
      (compileBreakUnlessFirst cursor).cursor := by
  unfold compileBreakUnlessFirst
  split
  · exact .insertion (by decide) hbreak
  · exact .nothing

/-- A link that holds no text is not set. -/
theorem closeLink (h : Bracketed texts start operations stop) (destination : String) :
    Bracketed texts start
      (operations ++ if stop - start = 0 then [] else [.setLink ⟨start, stop - 1⟩ destination]) stop := by
  split
  · rwa [List.append_nil]
  · rename_i hsome
    have hrange : closedRange start stop = ⟨start, stop - 1⟩ := closedRange_of_lt (by omega)
    exact .closing h ⟨congrArg some hrange.symm, fun _ _ _ => by omega⟩

variable {options : BuildOptions}

mutual

theorem compileNode (hbreak : texts "\n") (n : Node) (cursor : Nat)
    (h : ∀ content, .text content ∈ n.nodes → texts content) :
    Bracketed texts cursor (Edit.compileNode options n cursor).operations
      (Edit.compileNode options n cursor).cursor := by
  have hchildren : ∀ content, .text content ∈ Node.nodesAll n.children → texts content :=
    fun content hmem => h content (Node.nodesAll_children_subset n hmem)
  cases n with
  | document cs | textBlock cs | other kind cs => exact compileAll hbreak cs cursor hchildren
  | heading level anchor cs | list ordered tight cs =>
    exact .andThen (breakUnlessFirst hbreak)
      (.closing (compileAll hbreak cs _ hchildren) ⟨rfl, fun _ _ heq => by cases heq⟩)
  | paragraph cs =>
    exact .andThen (.insertion (by decide) hbreak)
      (.closing (compileAll hbreak cs _ hchildren) ⟨rfl, fun _ _ heq => by cases heq⟩)
  | listItem cs => exact .andThen (.insertion (by decide) hbreak) (compileAll hbreak cs _ hchildren)
  | link destination cs => exact (compileAll hbreak cs cursor hchildren).closeLink destination
  | text content =>
    simp only [Edit.compileNode]
    split
    · exact .nothing
    · rename_i hcontent
      exact .insertion (by simpa using hcontent) (h content (Node.mem_nodes_self _))

theorem compileAll (hbreak : texts "\n") (ns : List Node) (cursor : Nat)
    (h : ∀ content, .text content ∈ Node.nodesAll ns → texts content) :
    Bracketed texts cursor (Edit.compileAll options ns cursor).operations
      (Edit.compileAll options ns cursor).cursor := by
  cases ns with
  | nil => exact .nothing
  | cons n ns =>
    rw [Node.nodesAll_cons] at h
    refine .andThen (compileNode hbreak n cursor ?_) (compileAll hbreak ns _ ?_)
    · exact fun content hmem => h content (List.mem_append_left _ hmem)
    · exact fun content hmem => h content (List.mem_append_right _ hmem)

end

end Bracketed

/-- All that a build inserts are breaks and the texts of its tree. -/
theorem bracketed_build (root : Node) (options : BuildOptions) :
    Bracketed (fun text => text = "\n" ∨ .text text ∈ root.nodes) Builder.initialCursor
      (build root options).operations (build root options).endCursor := by
  rw [build_eq_compile]
  exact Bracketed.compileNode (Or.inl rfl) root _ fun _ hmem => Or.inr hmem

end DocMark.Edit
