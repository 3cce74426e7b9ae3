-- SUMMARY: Every literal of a Markdown text is in the text that its build inserts, unless a code block holds it.
import Mathlib
import DocMark.Proofs.Edit.InsertedTexts
import DocMark.Proofs.Markdown.Elements
import DocMark.Proofs.Text.Spaced

/-!
# Literals in a build

What a text or code holds is written as it is, whatever stands around it. A line end is written as a space
and a break as a line feed, so between literals there is nothing else. A code block keeps only its kind: it
is noted as unsupported, and what it holds is not written.
-/
namespace DocMark

open Markdown Text

/-! ## Lowering -/

namespace Markdown

/-- The text that an element of a syntax tree holds as its own. -/
def Element.literal? : Element → Option String
  | .text content => some content
  | .code literal => some literal
  | .codeBlock literal => some literal
  | _ => none

/-- The text that is inserted for an element alone. -/
def Element.written? : Element → Option String
  | .text content => if content.isEmpty then none else some content
  | .softBreak => some " "
  | .lineBreak => some " "
  | .code literal => if literal.isEmpty then none else some literal
  | _ => none

/-- What is inserted between literals: the break before a block, and the space that a line end becomes. -/
def IsSeparator (c : Char) : Prop := c = '\n' ∨ c = ' '

/-- A code block that is not empty. -/
def Element.isFilledCodeBlock : Element → Bool
  | .codeBlock literal => !literal.isEmpty
  | _ => false

theorem content_text (content : String) : (Node.text content).walk.filterMap WalkEvent.content? =
    (Element.text content).written?.toList :=
  content_walk (.text content)

theorem written_leaf (e : Element) :
    (Ast.leaf e).elements.filterMap Element.written? = e.written?.toList := by
  cases h : e.written? <;> simp [Ast.leaf, Ast.elements, Ast.elementsAll, h]

mutual

/-- The texts that are inserted for a lowered tree are those of its elements. -/
theorem content_lower (a : Ast) (h : a.hasBareLeaves = true) (tight : Bool) (used : List String) :
    (a.lower tight used).1.walk.filterMap WalkEvent.content? = a.elements.filterMap Element.written? := by
  cases a with
  | node e cs =>
    obtain ⟨hleaf, hcs⟩ := Ast.hasBareLeaves_node_iff.mp h
    -- An element that writes nothing itself leaves it to those below it.
    have hbelow (tight : Bool) {n : Node} (hn : n.children = (lowerAll tight used cs).1)
        (hexit : (WalkEvent.exit n).content? = none) (he : e.written? = none) :
        n.walk.filterMap WalkEvent.content? = (Ast.node e cs).elements.filterMap Element.written? := by
      rw [content_walk, hn, hexit, content_lowerAll cs hcs tight used, Ast.elements,
        List.filterMap_cons_none he]
      exact List.append_nil _
    cases e with
    | text content =>
      obtain rfl : cs = [] := hleaf rfl
      exact (content_text content).trans (written_leaf _).symm
    | code literal =>
      obtain rfl : cs = [] := hleaf rfl
      have hcode : (Node.other "code" [.text literal]).walk.filterMap WalkEvent.content? =
          (Element.code literal).written?.toList := by
        rw [content_walk, Node.children, Node.walkAll, List.filterMap_append, content_text]
        simp [Node.walkAll, WalkEvent.content?, Element.written?]
      exact hcode.trans (written_leaf _).symm
    | softBreak | lineBreak =>
      obtain rfl : cs = [] := hleaf rfl
      rfl
    | paragraph => cases tight <;> exact hbelow false rfl rfl rfl
    | list ordered tightItems => exact hbelow tightItems rfl rfl rfl
    | item => exact hbelow tight rfl rfl rfl
    | _ => exact hbelow false rfl rfl rfl

theorem content_lowerAll (as : List Ast) (h : Ast.allHaveBareLeaves as = true) (tight : Bool)
    (used : List String) : (Node.walkAll (lowerAll tight used as).1).filterMap WalkEvent.content? =
      (Ast.elementsAll as).filterMap Element.written? := by
  cases as with
  | nil => rfl
  | cons a rest =>
    obtain ⟨ha, hrest⟩ := Ast.allHaveBareLeaves_cons_iff.mp h
    rw [lowerAll, Node.walkAll, Ast.elementsAll, List.filterMap_append, List.filterMap_append,
      content_lower a ha tight used, content_lowerAll rest hrest tight]

end

/-- A literal that no code block holds is written as it is. What else an element writes is a space. -/
theorem Element.literal_eq_written_or (e : Element) :
    let literal? := if !e.isFilledCodeBlock then e.literal? else none
    literal? = e.written?
      ∨ literal?.getD "" = "" ∧ ∀ c ∈ (e.written?.getD "").toList, IsSeparator c := by
  cases e with
  | text content | code content =>
    by_cases h : content.isEmpty = true
    · refine .inr ⟨String.isEmpty_iff.mp h, ?_⟩
      rw [Element.written?, if_pos h]
      exact List.forall_mem_nil _
    · refine .inl ?_
      rw [Element.written?, if_neg h]
      rfl
  | codeBlock literal =>
    by_cases h : literal.isEmpty = true
    · refine .inr ⟨?_, List.forall_mem_nil _⟩
      rw [isFilledCodeBlock, h]
      exact String.isEmpty_iff.mp h
    · refine .inl ?_
      rw [isFilledCodeBlock, Bool.eq_false_of_not_eq_true h]
      rfl
  | softBreak | lineBreak => exact .inr ⟨rfl, List.forall_mem_singleton.mpr (.inr rfl)⟩
  | _ => exact .inl rfl

end Markdown

/-! ## Builds -/

namespace Edit

open Builder

/-- The texts of the tree stand in what is inserted, if all breaks are gaps. -/
theorem spaced_contents {gap : Char → Prop} {emissions : List Emission}
    (h : ∀ text ∈ breaks emissions, ∀ c ∈ text.toList, gap c) :
    Spaced gap (contents emissions) (insertedText (emissions.map (·.operation))) := by
  have hall : Spaced gap (emissions.filterMap (·.operation.insertedText?))
      (insertedText (emissions.map (·.operation))) := by
    rw [insertedText, List.filterMap_map]
    exact Spaced.join _
  rw [contents, List.filterMap_filter]
  refine hall.filterMap fun e he => ?_
  by_cases htext : e.isText = true
  · exact .inl (if_pos htext)
  · refine .inr ⟨by rw [if_neg htext, Option.getD_none], ?_⟩
    cases hinserted : e.operation.insertedText? with
    | none => exact List.forall_mem_nil _
    | some text =>
      have hbreak : e ∈ emissions.filter (!·.isText) := List.mem_filter.mpr ⟨he, by simpa using htext⟩
      exact h text (List.mem_filterMap.mpr ⟨e, hbreak, hinserted⟩)

/-- Of every tree whose inline leaves are leaves, a build inserts the literals in document order, with line
    feeds and spaces between them, except what code blocks hold. -/
theorem spaced_literals_toNode {a : Ast} (ha : a.hasBareLeaves = true) (options : BuildOptions) :
    Spaced IsSeparator ((a.elements.filter (!·.isFilledCodeBlock)).filterMap Element.literal?)
      (insertedText (build a.toNode options).operations) := by
  obtain ⟨hcontents, hbreaks⟩ := Tracked.inserted_run options (List.append_nil a.toNode.walk).symm
  have hgaps : ∀ text ∈ breaks (Tracked.run options {} a.toNode.walk).emissions,
      ∀ c ∈ text.toList, IsSeparator c := by
    intro text htext
    rw [hbreaks] at htext
    rw [List.eq_of_mem_replicate htext]
    exact List.forall_mem_singleton.mpr (.inl rfl)
  have hwritten := spaced_contents hgaps
  rw [operations_track, hcontents, Ast.toNode, content_lower a ha false []] at hwritten
  rw [List.filterMap_filter]
  exact hwritten.filterMap fun e _ => e.literal_eq_written_or

/-- What a Markdown text holds as text or as code, wherever it stands, occurs in the text that its build
    inserts: each literal once, in the order of the source, and with nothing but line feeds and spaces
    between them. Only what a code block holds is missing. -/
theorem spaced_literals (source : String) (options : BuildOptions) :
    Spaced IsSeparator (((readAst source).elements.filter (!·.isFilledCodeBlock)).filterMap Element.literal?)
      (insertedText (build (parse source) options).operations) :=
  spaced_literals_toNode (hasBareLeaves_readAst source) options

/-- The text of a code block is in the syntax tree, but nowhere in what is inserted. -/
theorem not_spaced_literals_codeBlock :
    ¬Spaced (fun _ => True) ((readAst "~~~\nx\n~~~\n").elements.filterMap Element.literal?)
      (insertedText (build (parse "~~~\nx\n~~~\n")).operations) := by
  have hliterals : (readAst "~~~\nx\n~~~\n").elements.filterMap Element.literal? = ["x\n"] := by cbv
  have hinserted : insertedText (build (parse "~~~\nx\n~~~\n")).operations = "" := by cbv
  rw [hliterals, hinserted]
  intro h
  obtain ⟨before, after, htext⟩ := h.exists_eq_append_of_mem (List.mem_singleton.mpr rfl)
  have hlength := congrArg String.length htext
  have hliteral : "x\n".length = 2 := by decide
  rw [String.length_empty, String.length_append, String.length_append, hliteral] at hlength
  omega

end Edit

end DocMark
