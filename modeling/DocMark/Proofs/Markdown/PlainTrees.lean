-- SUMMARY: What finished blocks of phrases become in the tree, and its outline.
import Mathlib
import DocMark.Markdown.Parse
import DocMark.Proofs.Markdown.Outline
import DocMark.Proofs.Markdown.PlainInlines
import DocMark.Proofs.Markdown.PlainLines

/-!
# Trees of phrases

A finished block is read here for what its tree shows. A heading or a paragraph of a phrase shows
one line, and so does an item, be its list tight or loose. The lines of blocks side by side are
joined; the anchors of headings, which depend on the headings before, do not show.
-/
namespace DocMark.Markdown

/-- The nodes of blocks without link references. -/
def nodesOf (tight : Bool) (used : List String) (bs : List Block) : List Node :=
  (lowerAll tight used (toAstAll [] bs)).1

/-- Blocks that become a block tree with the given outline. -/
def Reads (bs : List Block) (ls : List String) : Prop :=
  ∀ used, Node.areBlocks (nodesOf false used bs) = true
    ∧ Node.outlineAll false (nodesOf false used bs) = ls

/-- Blocks that become the items of a list, tight or loose. -/
def ReadsItems (bs : List Block) (ls : List String) : Prop :=
  ∀ tight used, Node.areItems (nodesOf tight used bs) = true
    ∧ Node.outlineAll true (nodesOf tight used bs) = ls

/-! ## Blocks side by side -/

theorem toAstAll_append (references : List Reference) (xs ys : List Block) :
    toAstAll references (xs ++ ys) = toAstAll references xs ++ toAstAll references ys := by
  induction xs with
  | nil => rfl
  | cons x xs ih => rw [List.cons_append, toAstAll, ih, toAstAll, List.cons_append]

theorem lowerAll_append (tight : Bool) (used : List String) (xs ys : List Ast) :
    (lowerAll tight used (xs ++ ys)).1 =
      (lowerAll tight used xs).1 ++ (lowerAll tight (lowerAll tight used xs).2 ys).1 := by
  induction xs generalizing used with
  | nil => rfl
  | cons x xs ih =>
    simp only [List.cons_append, lowerAll]
    rw [ih]

theorem nodesOf_append (tight : Bool) (used : List String) (xs ys : List Block) :
    ∃ later, nodesOf tight used (xs ++ ys) = nodesOf tight used xs ++ nodesOf tight later ys := by
  unfold nodesOf
  rw [toAstAll_append, lowerAll_append]
  exact ⟨_, rfl⟩

theorem areBlocks_append (xs ys : List Node) :
    Node.areBlocks (xs ++ ys) = (Node.areBlocks xs && Node.areBlocks ys) := by
  induction xs with
  | nil => simp [Node.areBlocks]
  | cons x xs ih => rw [List.cons_append, Node.areBlocks, ih, Node.areBlocks, Bool.and_assoc]

theorem areItems_append (xs ys : List Node) :
    Node.areItems (xs ++ ys) = (Node.areItems xs && Node.areItems ys) := by
  induction xs with
  | nil => simp [Node.areItems]
  | cons x xs ih => rw [List.cons_append, Node.areItems, ih, Node.areItems, Bool.and_assoc]

section Reads

variable {xs ys : List Block} {ls ms : List String}

theorem reads_nil : Reads [] [] := fun _ => ⟨rfl, rfl⟩

theorem readsItems_nil : ReadsItems [] [] := fun _ _ => ⟨rfl, rfl⟩

theorem Reads.append (hx : Reads xs ls) (hy : Reads ys ms) : Reads (xs ++ ys) (ls ++ ms) := by
  intro used
  obtain ⟨later, hnodes⟩ := nodesOf_append false used xs ys
  rw [hnodes, areBlocks_append, Node.outlineAll_append, (hx used).1, (hx used).2, (hy later).1,
    (hy later).2]
  exact ⟨rfl, rfl⟩

theorem ReadsItems.append (hx : ReadsItems xs ls) (hy : ReadsItems ys ms) :
    ReadsItems (xs ++ ys) (ls ++ ms) := by
  intro tight used
  obtain ⟨later, hnodes⟩ := nodesOf_append tight used xs ys
  rw [hnodes, areItems_append, Node.outlineAll_append, (hx tight used).1, (hx tight used).2,
    (hy tight later).1, (hy tight later).2]
  exact ⟨rfl, rfl⟩

end Reads

/-! ## Single blocks -/

section Blocks

variable (p : Phrase) {text : List Char} {blank blank' tight : Bool} {children : List Block}

theorem plainTextAll_phrase : (Node.plainTextAll [.text p.text]).toList = p.chars := by
  simp [Node.plainTextAll, Node.plainText, Phrase.text]

theorem holdLine_phrase : Node.holdLine [.text p.text] = true := by
  rw [Node.holdLine_iff, plainTextAll_phrase, p.trim_chars]
  exact ⟨rfl, p.lineFeed_notMem_chars, p.chars_ne_nil⟩

theorem outlineLine_phrase (inList : Bool) (start : String) :
    Node.outlineLine inList start [.text p.text] = start ++ (if inList then "* " else "") ++ p.text := by
  rw [Node.outlineLine, plainTextAll_phrase, p.trim_chars, Phrase.text]

theorem lower_phrase (used : List String) :
    (Ast.text p.chars).lower false used = (.text p.text, used) := rfl

theorem reads_heading {level : Nat} (hlow : 1 ≤ level) (hhigh : level ≤ 6) (underlined : Bool) :
    Reads [.mk (.heading level underlined) (p.chars ++ ['\n']) blank children]
      [String.ofList (headingLine level p)] := by
  intro used
  have hnodes : ∃ anchor,
      nodesOf false used [.mk (.heading level underlined) (p.chars ++ ['\n']) blank children] =
        [.heading level anchor [.text p.text]] := by
    simp only [nodesOf, toAstAll, Block.toAst, BlockKind.holdsInlines, if_true, readInlines_phrase,
      Block.element, lowerAll, Ast.lower, lower_phrase]
    exact ⟨_, rfl⟩
  have hstart : Node.headingStart level ++ "" ++ p.text = String.ofList (headingLine level p) := by
    have hlevel : min (max level 1) 6 = level := by omega
    rw [Node.headingStart, hlevel, String.append_empty, Phrase.text, ← String.ofList_append,
      headingLine, List.append_assoc]
    rfl
  obtain ⟨anchor, hnodes⟩ := hnodes
  rw [hnodes]
  constructor
  · simp [Node.areBlocks, Node.isBlock, holdLine_phrase]
  · simpa [Node.outlineAll, Node.outline, outlineLine_phrase] using hstart

theorem nodesOf_paragraph (used : List String) :
    nodesOf tight used [.mk .paragraph (p.chars ++ ['\n']) blank children] =
      [if tight then .textBlock [.text p.text] else .paragraph [.text p.text]] := by
  simp only [nodesOf, toAstAll, Block.toAst, BlockKind.holdsInlines, if_true, readInlines_phrase,
    Block.element, lowerAll, Ast.lower, lower_phrase]

theorem reads_paragraph :
    Reads [.mk .paragraph (p.chars ++ ['\n']) blank children] [p.text] := by
  intro used
  rw [nodesOf_paragraph]
  constructor
  · simp [Node.areBlocks, Node.isBlock, holdLine_phrase]
  · simp [Node.outlineAll, Node.outline, outlineLine_phrase]

/-- The paragraph of an item is a text block in a tight list, and shows the same. -/
theorem readsItems_item (indent : Nat) :
    ReadsItems [.mk (.item indent) text blank [.mk .paragraph (p.chars ++ ['\n']) blank' children]]
      [String.ofList (itemLine p)] := by
  intro tight used
  have hnodes : nodesOf tight used
      [.mk (.item indent) text blank [.mk .paragraph (p.chars ++ ['\n']) blank' children]] =
        [.listItem (nodesOf tight used [.mk .paragraph (p.chars ++ ['\n']) blank' children])] := by
    simp only [nodesOf, toAstAll, Block.toAst, BlockKind.holdsInlines, Bool.false_eq_true, if_false,
      Block.element, lowerAll, Ast.lower]
  have hline : "* " ++ p.text = String.ofList (itemLine p) := by
    rw [Phrase.text, itemLine, ← String.ofList_toList (s := "* "), ← String.ofList_append]
    rfl
  rw [hnodes, nodesOf_paragraph]
  cases tight with
  | true =>
    constructor
    · simp [Node.areItems, Node.isItem, Node.holdItem, Node.isItemText, Node.areBlocks,
        holdLine_phrase]
    · simpa [Node.outlineAll, Node.outline, outlineLine_phrase] using hline
  | false =>
    constructor
    · simp [Node.areItems, Node.isItem, Node.holdItem, Node.isBlock, Node.areBlocks,
        holdLine_phrase]
    · simpa [Node.outlineAll, Node.outline, outlineLine_phrase] using hline

theorem ReadsItems.list {items : List Block} {ls : List String} (h : ReadsItems items ls)
    (hne : items ≠ []) (mark : Char) : Reads [.mk (.list (.bullet mark) tight) text blank items] ls := by
  intro used
  have hnodes : nodesOf false used [.mk (.list (.bullet mark) tight) text blank items] =
      [.list false tight (nodesOf tight used items)] := by
    simp only [nodesOf, toAstAll, Block.toAst, BlockKind.holdsInlines, Bool.false_eq_true, if_false,
      Block.element, lowerAll, Ast.lower, ListMarker.isOrdered]
  have hsome : nodesOf tight used items ≠ [] := by
    obtain ⟨first, rest, rfl⟩ := List.exists_cons_of_ne_nil hne
    simp [nodesOf, toAstAll, lowerAll]
  obtain ⟨hitems, hlines⟩ := h tight used
  rw [hnodes]
  constructor
  · simp [Node.areBlocks, Node.isBlock, hsome, hitems]
  · simpa [Node.outlineAll, Node.outline] using hlines

end Blocks

end DocMark.Markdown
