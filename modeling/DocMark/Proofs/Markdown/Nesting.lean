-- SUMMARY: Well-nested syntax trees: items stand in lists only, lists hold items only, and leaves hold nothing.
import Mathlib
import DocMark.Proofs.Markdown.Elements
import DocMark.Proofs.Markdown.NestedBlocks
import DocMark.Proofs.Markdown.Paths

/-!
# Well-nested trees

The rules of the language say what may stand in a list and below a text. Every tree that a Markdown text is read
into keeps them: its blocks do, and the text of a block is read as inline elements, of which none is a
list or an item.
-/
namespace DocMark.Markdown

def Element.isList : Element → Bool
  | .list _ _ => true
  | _ => false

theorem Element.exists_of_isList {e : Element} (h : e.isList = true) :
    ∃ ordered tight, e = .list ordered tight := by
  cases e with
  | list ordered tight => exact ⟨ordered, tight, rfl⟩
  | _ => cases h

/-- Items occur as children of lists only. -/
structure Ast.ItemsInLists (a : Ast) : Prop where
  root : a.element ≠ .item
  inLists : ∀ b ∈ a.subtrees, ∀ c ∈ b.children, c.element = .item → b.element.isList = true

/-- A tree that keeps the rules of the language. That items stand in lists only is one of them; beyond that, lists
    hold nothing but items, and nothing stands below an element that is a leaf. -/
structure Ast.WellNested (a : Ast) : Prop extends a.ItemsInLists where
  /-- No paragraph, for one, stands right in a list. -/
  listsHoldItems : ∀ b ∈ a.subtrees, ∀ c ∈ b.children, b.element.isList = true → c.element = .item
  /-- The leaves are texts, line ends, code and raw HTML in a text. -/
  bareLeaves : a.hasBareLeaves = true

instance (a : Ast) : Decidable a.ItemsInLists :=
  decidable_of_iff
    (a.element ≠ .item ∧ ∀ b ∈ a.subtrees, ∀ c ∈ b.children, c.element = .item → b.element.isList = true)
    ⟨fun ⟨hroot, hlists⟩ => ⟨hroot, hlists⟩, fun h => ⟨h.root, h.inLists⟩⟩

instance (a : Ast) : Decidable a.WellNested :=
  decidable_of_iff
    (a.ItemsInLists
      ∧ (∀ b ∈ a.subtrees, ∀ c ∈ b.children, b.element.isList = true → c.element = .item)
      ∧ a.hasBareLeaves = true)
    ⟨fun ⟨hitems, hlists, hleaves⟩ => ⟨hitems, hlists, hleaves⟩,
      fun h => ⟨h.toItemsInLists, h.listsHoldItems, h.bareLeaves⟩⟩

/-! ## Items and lists -/

/-- A child is an item if and only if its parent is a list. -/
def Element.Suits (parent child : Element) : Prop := child = .item ↔ parent.isList = true

/-- Throughout a tree, items stand in lists and lists hold items. The root may be an item. -/
def Ast.NestsItems (a : Ast) : Prop := ∀ b ∈ a.subtrees, ∀ c ∈ b.children, b.element.Suits c.element

theorem Ast.NestsItems.node {e : Element} {cs : List Ast} (hchildren : ∀ c ∈ cs, e.Suits c.element)
    (hbelow : ∀ c ∈ cs, c.NestsItems) : (Ast.node e cs).NestsItems := by
  intro b hb
  rcases mem_subtrees_iff.mp hb with rfl | ⟨c, hc, hb⟩
  · exact hchildren
  · exact hbelow c hc b hb

theorem Element.suits_of_isInline {parent child : Element} (hparent : parent.isList = false)
    (hchild : child.isInline = true) : parent.Suits child := by
  refine iff_of_false ?_ ?_
  · rintro rfl
    cases hchild
  · rw [hparent]
    exact Bool.false_ne_true

theorem Element.isList_eq_false_of_isInline {e : Element} (h : e.isInline = true) : e.isList = false := by
  cases e <;> first | rfl | cases h

theorem Ast.isInline_element {a : Ast} (h : a.isInline = true) : a.element.isInline = true := by
  cases a with
  | node e cs => exact (Ast.isInline_node_iff.mp h).1

mutual

theorem nestsItems_of_isInline (a : Ast) (h : a.isInline = true) : a.NestsItems := by
  cases a with
  | node e cs =>
    obtain ⟨he, -, hcs⟩ := Ast.isInline_node_iff.mp h
    refine .node (fun c hc => ?_) (allNestItems_of_isInline cs hcs)
    exact Element.suits_of_isInline (Element.isList_eq_false_of_isInline he) (Ast.isInline_element (hcs c hc))

theorem allNestItems_of_isInline (as : List Ast) (h : ∀ a ∈ as, a.isInline = true) :
    ∀ a ∈ as, a.NestsItems := by
  cases as with
  | nil => exact List.forall_mem_nil _
  | cons a rest =>
    obtain ⟨ha, hrest⟩ := List.forall_mem_cons.mp h
    exact List.forall_mem_cons.mpr ⟨nestsItems_of_isInline a ha, allNestItems_of_isInline rest hrest⟩

end

/-! ## Markdown texts -/

theorem Block.element_eq_item_iff {kind : BlockKind} {text : List Char} :
    Block.element kind text = .item ↔ kind.isItem = true := by
  cases kind <;> simp [Block.element, BlockKind.isItem]

theorem Block.isList_element (kind : BlockKind) (text : List Char) :
    (Block.element kind text).isList = kind.isList := by
  cases kind <;> rfl

theorem BlockKind.isList_eq_false_of_holdsInlines {kind : BlockKind} (h : kind.holdsInlines = true) :
    kind.isList = false := by
  cases kind <;> first | rfl | cases h

theorem exists_element_toAst (references : List Reference) (b : Block) :
    ∃ text, (b.toAst references).element = Block.element b.kind text := by
  cases b with
  | mk kind text blankEnd children =>
    rw [Block.toAst]
    split <;> exact ⟨text, rfl⟩

theorem BlockKind.Suits.element {parent : BlockKind} {b : Block} (h : parent.Suits b.kind) (text : List Char)
    (references : List Reference) : (Block.element parent text).Suits (b.toAst references).element := by
  obtain ⟨inner, helement⟩ := exists_element_toAst references b
  rw [Element.Suits, helement, Block.element_eq_item_iff, h, Block.isList_element]

theorem exists_of_mem_toAstAll {references : List Reference} {bs : List Block} {a : Ast}
    (h : a ∈ toAstAll references bs) : ∃ b ∈ bs, b.toAst references = a := by
  induction bs with
  | nil => cases h
  | cons b bs ih =>
    rcases List.mem_cons.mp h with rfl | h
    · exact ⟨b, List.mem_cons_self .., rfl⟩
    · obtain ⟨other, hother, heq⟩ := ih h
      exact ⟨other, List.mem_cons_of_mem _ hother, heq⟩

theorem Block.Nested.toAst {b : Block} (h : b.Nested) (references : List Reference) :
    (b.toAst references).NestsItems := by
  induction h with
  | @mk kind text blankEnd children kinds blocks ih =>
    rw [Block.toAst]
    split
    case isTrue hkind =>
      have hinline := isInline_readInlines references text
      refine .node (fun c hc => ?_) (allNestItems_of_isInline _ hinline)
      refine Element.suits_of_isInline ?_ (Ast.isInline_element (hinline c hc))
      rw [Block.isList_element, BlockKind.isList_eq_false_of_holdsInlines hkind]
    case isFalse =>
      refine .node (fun c hc => ?_) fun c hc => ?_ <;> obtain ⟨b, hb, rfl⟩ := exists_of_mem_toAstAll hc
      · exact (kinds b hb).element text references
      · exact ih b hb

/-- Every Markdown text is read into a well-nested tree. -/
theorem wellNested_readAst (source : String) : (readAst source).WellNested := by
  obtain ⟨hblocks, hroot⟩ := nested_readBlocks source.toList
  have hitems : (readAst source).NestsItems := hblocks.toAst _
  refine ⟨⟨fun hitem => ?_, fun b hb c hc => (hitems b hb c hc).mp⟩, fun b hb c hc => (hitems b hb c hc).mpr,
    hasBareLeaves_readAst source⟩
  obtain ⟨text, helement⟩ := exists_element_toAst (readBlocks source.toList).2 (readBlocks source.toList).1
  rw [← Bool.not_eq_true, ← Block.element_eq_item_iff, ← helement] at hroot
  exact hroot hitem

end DocMark.Markdown
