-- SUMMARY: The elements of a syntax tree in document order, and what of them has nothing below it.
import Mathlib
import DocMark.Markdown.Parse
import DocMark.Proofs.Markdown.Inlines

/-!
# Elements of a syntax tree

`Ast.elements` lists the elements of a tree, each before those below it. Texts, line ends, code and raw HTML
in the text of a block have nothing below them, in every tree that a Markdown text is read into.
-/
namespace DocMark.Markdown

mutual

/-- The element at the root and all elements below it, in document order. -/
def Ast.elements : Ast → List Element
  | .node e cs => e :: Ast.elementsAll cs

def Ast.elementsAll : List Ast → List Element
  | [] => []
  | a :: rest => a.elements ++ Ast.elementsAll rest

end

mutual

/-- Whether there is nothing below the inline leaves of a tree. -/
def Ast.hasBareLeaves : Ast → Bool
  | .node e cs => (!e.isInlineLeaf || cs.isEmpty) && Ast.allHaveBareLeaves cs

def Ast.allHaveBareLeaves : List Ast → Bool
  | [] => true
  | a :: rest => a.hasBareLeaves && Ast.allHaveBareLeaves rest

end

theorem Ast.hasBareLeaves_node_iff {e : Element} {cs : List Ast} :
    (Ast.node e cs).hasBareLeaves = true ↔
      (e.isInlineLeaf = true → cs = []) ∧ Ast.allHaveBareLeaves cs = true := by
  rw [hasBareLeaves, Bool.and_eq_true, Element.bare_iff]

theorem Ast.allHaveBareLeaves_cons_iff {a : Ast} {rest : List Ast} :
    Ast.allHaveBareLeaves (a :: rest) = true ↔
      a.hasBareLeaves = true ∧ Ast.allHaveBareLeaves rest = true := by
  rw [allHaveBareLeaves, Bool.and_eq_true]

theorem Ast.allHaveBareLeaves_iff {as : List Ast} :
    Ast.allHaveBareLeaves as = true ↔ ∀ a ∈ as, a.hasBareLeaves = true := by
  induction as with
  | nil => simp [allHaveBareLeaves]
  | cons a rest ih => rw [allHaveBareLeaves_cons_iff, ih, List.forall_mem_cons]

/-! ## Trees of Markdown texts -/

mutual

theorem hasBareLeaves_of_isInline (a : Ast) (h : a.isInline = true) : a.hasBareLeaves = true := by
  cases a with
  | node e cs =>
    obtain ⟨-, hleaf, hcs⟩ := Ast.isInline_node_iff.mp h
    exact Ast.hasBareLeaves_node_iff.mpr ⟨hleaf, allHaveBareLeaves_of_isInline cs hcs⟩

theorem allHaveBareLeaves_of_isInline (as : List Ast) (h : ∀ a ∈ as, a.isInline = true) :
    Ast.allHaveBareLeaves as = true := by
  cases as with
  | nil => rfl
  | cons a rest =>
    obtain ⟨ha, hrest⟩ := List.forall_mem_cons.mp h
    exact Ast.allHaveBareLeaves_cons_iff.mpr
      ⟨hasBareLeaves_of_isInline a ha, allHaveBareLeaves_of_isInline rest hrest⟩

end

theorem Block.isInlineLeaf_element (kind : BlockKind) (text : List Char) :
    (Block.element kind text).isInlineLeaf = false := by
  cases kind <;> rfl

mutual

theorem hasBareLeaves_toAst (references : List Reference) (b : Block) :
    (b.toAst references).hasBareLeaves = true := by
  cases b with
  | mk kind text blankEnd children =>
    -- A block is no inline leaf itself.
    have hblock {cs : List Ast} (hcs : Ast.allHaveBareLeaves cs = true) :
        (Ast.node (Block.element kind text) cs).hasBareLeaves = true :=
      Ast.hasBareLeaves_node_iff.mpr
        ⟨fun h => absurd ((Block.isInlineLeaf_element kind text).symm.trans h) Bool.false_ne_true, hcs⟩
    rw [Block.toAst]
    split
    · exact hblock (allHaveBareLeaves_of_isInline _ (isInline_readInlines references text))
    · exact hblock (allHaveBareLeaves_toAstAll references children)

theorem allHaveBareLeaves_toAstAll (references : List Reference) (bs : List Block) :
    Ast.allHaveBareLeaves (toAstAll references bs) = true := by
  cases bs with
  | nil => rfl
  | cons b bs =>
    exact Ast.allHaveBareLeaves_cons_iff.mpr
      ⟨hasBareLeaves_toAst references b, allHaveBareLeaves_toAstAll references bs⟩

end

theorem hasBareLeaves_readAst (source : String) : (readAst source).hasBareLeaves = true :=
  hasBareLeaves_toAst _ _

end DocMark.Markdown
