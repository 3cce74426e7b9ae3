-- SUMMARY: In the tree of a Markdown text, headings, paragraphs and text blocks hold no other blocks.
import Mathlib
import DocMark.Markdown.Parse
import DocMark.Proofs.Markdown.Inlines
import DocMark.Proofs.Markdown.Nodes

/-!
# Blocks that hold text

A block's text is read as inline elements, and these keep to themselves when the tree is lowered. All
other blocks hold blocks, and none of them becomes a heading, a paragraph or a text block.
-/
namespace DocMark.Markdown

namespace Node

theorem LeafBlocksInline.of_inline {n : Node} (h : ∀ m ∈ nodesAll n.children, m.isInline = true) :
    n.LeafBlocksInline := by
  intro m hm hleaf
  rw [nodes_eq] at hm
  rcases List.mem_cons.mp hm with rfl | hm
  · exact h
  · rw [isLeafBlock_eq_false_of_isInline (h m hm)] at hleaf
    cases hleaf

theorem LeafBlocksInline.of_children {n : Node} (hn : n.isLeafBlock = false)
    (h : ∀ m ∈ n.children, m.LeafBlocksInline) : n.LeafBlocksInline := by
  intro m hm hleaf
  rw [nodes_eq] at hm
  rcases List.mem_cons.mp hm with rfl | hm
  · rw [hn] at hleaf
    cases hleaf
  · obtain ⟨k, hk, hm⟩ := exists_of_mem_nodesAll hm
    exact h k hk m hm hleaf

end Node

/-! ## Lowering -/

mutual

theorem isInline_nodes_lower (a : Ast) (h : a.isInline = true) (tight : Bool) (used : List String) :
    ∀ n ∈ (a.lower tight used).1.nodes, n.isInline = true := by
  cases a with
  | node e cs =>
    obtain ⟨he, -, hcs⟩ := Ast.isInline_node_iff.mp h
    have hchildren := isInline_nodes_lowerAll cs hcs false used
    cases e with
    | text content | softBreak | lineBreak => exact List.forall_mem_singleton.mpr rfl
    | code literal => exact List.forall_mem_cons.mpr ⟨rfl, List.forall_mem_singleton.mpr rfl⟩
    | htmlInline literal | emphasis | strong | strikethrough | link url title | image url title =>
      simp only [Ast.lower]
      rw [Node.nodes_eq]
      exact List.forall_mem_cons.mpr ⟨rfl, hchildren⟩
    | _ => cases he

theorem isInline_nodes_lowerAll (as : List Ast) (h : ∀ a ∈ as, a.isInline = true) (tight : Bool)
    (used : List String) : ∀ n ∈ Node.nodesAll (lowerAll tight used as).1, n.isInline = true := by
  cases as with
  | nil => exact List.forall_mem_nil _
  | cons a rest =>
    obtain ⟨ha, hrest⟩ := List.forall_mem_cons.mp h
    simp only [lowerAll]
    rw [Node.nodesAll_cons]
    exact List.forall_mem_append.mpr
      ⟨isInline_nodes_lower a ha tight used, isInline_nodes_lowerAll rest hrest tight _⟩

end

/-- Below an element that holds inline elements there is nothing else, whatever it is itself. -/
theorem isInline_children_lower (e : Element) {cs : List Ast} (h : ∀ a ∈ cs, a.isInline = true)
    (tight : Bool) (used : List String) :
    ∀ n ∈ Node.nodesAll ((Ast.node e cs).lower tight used).1.children, n.isInline = true := by
  have hchildren (tight : Bool) := isInline_nodes_lowerAll cs h tight used
  cases e with
  | text content | softBreak | lineBreak => exact List.forall_mem_nil _
  | code literal => exact List.forall_mem_singleton.mpr rfl
  | paragraph => cases tight <;> exact hchildren false
  | item => exact hchildren tight
  | list ordered tightItems => exact hchildren tightItems
  | _ => exact hchildren false

/-! ## Blocks -/

mutual

theorem leafBlocksInline_toAst (references : List Reference) (b : Block) (tight : Bool)
    (used : List String) : ((b.toAst references).lower tight used).1.LeafBlocksInline := by
  cases b with
  | mk kind text blankEnd children =>
    rw [Block.toAst]
    split
    case isTrue =>
      exact .of_inline (isInline_children_lower _ (isInline_readInlines references text) tight used)
    case isFalse hkind =>
      have hchildren (tight : Bool) := leafBlocksInline_toAstAll references children tight used
      cases kind with
      | paragraph | heading level underlined | tableCell => exact absurd rfl hkind
      | list marker tightItems => exact .of_children rfl (hchildren tightItems)
      | item indent => exact .of_children rfl (hchildren tight)
      | _ => exact .of_children rfl (hchildren false)

theorem leafBlocksInline_toAstAll (references : List Reference) (bs : List Block) (tight : Bool)
    (used : List String) :
    ∀ n ∈ (lowerAll tight used (toAstAll references bs)).1, n.LeafBlocksInline := by
  cases bs with
  | nil => exact List.forall_mem_nil _
  | cons b bs =>
    exact List.forall_mem_cons.mpr
      ⟨leafBlocksInline_toAst references b tight used, leafBlocksInline_toAstAll references bs tight _⟩

end

theorem leafBlocksInline_parse (source : String) : (parse source).LeafBlocksInline :=
  leafBlocksInline_toAst _ _ false []

end DocMark.Markdown
