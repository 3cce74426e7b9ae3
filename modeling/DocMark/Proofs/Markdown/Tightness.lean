-- SUMMARY: Paragraphs directly in items of tight lists become text blocks, and a tree keeps its shape otherwise.
import Mathlib
import DocMark.Proofs.Markdown.Nesting
import DocMark.Proofs.Markdown.Nodes

/-!
# Text blocks

While a tree is lowered it is handed down whether the text of an item makes a paragraph. A list sets this for its
items, an item hands it on to its children, and any other element forgets it. If lists hold nothing but items, it
reaches exactly the children of the items of tight lists, and there it decides what a paragraph becomes.

The node of an element stands at the same path as the element, so all children keep their order.
-/
namespace DocMark.Markdown

/-- The path leads to a child of an item of a tight list. -/
def Ast.inTightItem (a : Ast) (path : List Nat) : Bool :=
  match a.ancestors path with
  | .item :: .list _ tight :: _ => tight
  | _ => false

/-- What node an element becomes, whatever its children are and whether or not it makes a paragraph. -/
def Element.Becomes : Element → Node → Prop
  | .document, n => n = .document n.children
  | .heading level, n => ∃ anchor, n = .heading level anchor n.children
  | .paragraph, n => n = .paragraph n.children ∨ n = .textBlock n.children
  | .list ordered tight, n => n = .list ordered tight n.children
  | .item, n => n = .listItem n.children
  | .text content, n => n = .text content
  | .softBreak, n => n = .text " "
  | .lineBreak, n => n = .text " "
  | .link url _, n => n = .link url n.children
  | e, n => n = .other e.name n.children

/-- The node of a syntax tree. Its children are as many as those of the tree, but code has its text below it. -/
structure Node.IsOf (a : Ast) (inTightItem : Bool) (n : Node) : Prop where
  kind : a.element.Becomes n
  textBlock : a.element = .paragraph → (n.isTextBlock = true ↔ inTightItem = true)
  paragraph : a.element = .paragraph → (n.isParagraph = true ↔ inTightItem = false)
  code : ∀ literal, a.element = .code literal → n.children = [.text literal]
  children : (∀ literal, a.element ≠ .code literal) → n.children.length = a.children.length

/-! ## One element -/

/-- What the children of an element are told about the list that they are in. -/
def Element.handDown : Element → Bool → Bool
  | .list _ tight, _ => tight
  | .item, tight => tight
  | _, _ => false

theorem length_lowerAll (tight : Bool) (used : List String) (as : List Ast) :
    (lowerAll tight used as).1.length = as.length := by
  induction as generalizing used with
  | nil => rfl
  | cons a rest ih => exact congrArg (· + 1) (ih _)

theorem children_lower {e : Element} (h : e.isInlineLeaf = false) (cs : List Ast) (tight : Bool)
    (used : List String) :
    ((Ast.node e cs).lower tight used).1.children = (lowerAll (e.handDown tight) used cs).1 := by
  cases e with
  | text content | softBreak | lineBreak | code literal => cases h
  | paragraph => cases tight <;> rfl
  | _ => rfl

theorem exists_getElem?_lowerAll {as : List Ast} {a : Ast} {i : Nat} (h : as[i]? = some a) (tight : Bool)
    (used : List String) : ∃ before, (lowerAll tight used as).1[i]? = some (a.lower tight before).1 := by
  induction as generalizing i used with
  | nil => cases h
  | cons first rest ih =>
    cases i with
    | zero =>
      obtain rfl := Option.some_injective _ h
      exact ⟨used, rfl⟩
    | succ i => exact ih h _

theorem becomes_lower (a : Ast) (tight : Bool) (used : List String) :
    a.element.Becomes (a.lower tight used).1 := by
  cases a with
  | node e cs =>
    cases e with
    | paragraph =>
      cases tight
      · exact .inl rfl
      · exact .inr rfl
    | heading level => exact ⟨_, rfl⟩
    | _ => exact rfl

theorem isOf_lower (a : Ast) (hleaves : a.hasBareLeaves = true) (tight : Bool) (used : List String) :
    (a.lower tight used).1.IsOf a tight := by
  refine ⟨becomes_lower a tight used, ?_, ?_, ?_, ?_⟩ <;> obtain ⟨e, cs⟩ := a
  · rintro rfl
    cases tight <;> simp [Ast.lower, Node.isTextBlock]
  · rintro rfl
    cases tight <;> simp [Ast.lower, Node.isParagraph]
  · rintro literal rfl
    rfl
  · intro hcode
    obtain ⟨hleaf, -⟩ := Ast.hasBareLeaves_node_iff.mp hleaves
    cases hbare : e.isInlineLeaf with
    | false => rw [children_lower hbare, length_lowerAll, Ast.children]
    | true =>
      obtain rfl : cs = [] := hleaf hbare
      cases e with
      | code literal => exact absurd rfl (hcode literal)
      | text content | softBreak | lineBreak | htmlInline literal => rfl
      | _ => cases hbare

/-! ## Paths -/

/-- The node at a path is that of the tree at the path, with what all elements above have handed down. -/
theorem exists_atPath?_lower {a b : Ast} (hleaves : a.hasBareLeaves = true) {path : List Nat}
    (hb : a.atPath? path = some b) (tight : Bool) (used : List String) :
    b.hasBareLeaves = true ∧ ∃ before, (a.lower tight used).1.atPath? path =
      some (b.lower ((a.ancestors path).foldr Element.handDown tight) before).1 := by
  induction path generalizing a tight used with
  | nil =>
    obtain rfl := Option.some_injective _ hb
    exact ⟨hleaves, used, rfl⟩
  | cons i path ih =>
    obtain ⟨e, cs⟩ := a
    obtain ⟨c, hc, hb⟩ := (follow_cons_eq_some_iff _).mp hb
    obtain ⟨hleaf, hall⟩ := Ast.hasBareLeaves_node_iff.mp hleaves
    have hspan : e.isInlineLeaf = false := by
      rw [← Bool.not_eq_true]
      intro hbare
      rw [Ast.children, hleaf hbare] at hc
      cases hc
    obtain ⟨between, hlowered⟩ := exists_getElem?_lowerAll hc (e.handDown tight) used
    have hbelow := Ast.allHaveBareLeaves_iff.mp hall c (List.mem_of_getElem? hc)
    obtain ⟨hbare, before, hpath⟩ := ih hbelow hb (e.handDown tight) between
    refine ⟨hbare, before,
      (follow_cons_eq_some_iff _).mpr ⟨(c.lower (e.handDown tight) between).1, ?_, ?_⟩⟩
    · rw [children_lower hspan]
      exact hlowered
    · rw [Ast.ancestors_cons hc, List.foldr_append]
      exact hpath

/-! ## Well-nested trees -/

/-- Above an item there is a list. -/
theorem Ast.WellNested.exists_list {a b : Ast} (h : a.WellNested) {path : List Nat} (hb : a.atPath? path = some b)
    (hitem : b.element = .item) : ∃ ordered tight above, a.ancestors path = .list ordered tight :: above := by
  cases habove : a.ancestors path with
  | nil =>
    rw [Ast.eq_root_of_ancestors_eq_nil hb habove] at hitem
    exact absurd hitem h.root
  | cons e above =>
    obtain ⟨parent, p, hp, rfl, hmem, -⟩ := Ast.exists_parent hb habove
    have hlist := h.inLists p (Ast.mem_subtrees_of_atPath? hp) b hmem hitem
    obtain ⟨ordered, tight, hp⟩ := Element.exists_of_isList hlist
    exact ⟨ordered, tight, above, by rw [hp]⟩

/-- A paragraph is told what it has to know, and nothing else. -/
theorem Ast.WellNested.handDown_eq {a b : Ast} (h : a.WellNested) {path : List Nat} (hb : a.atPath? path = some b)
    (hparagraph : b.element = .paragraph) :
    (a.ancestors path).foldr Element.handDown false = a.inTightItem path := by
  unfold Ast.inTightItem
  cases habove : a.ancestors path with
  | nil => rfl
  | cons e above =>
    obtain ⟨parent, p, hp, rfl, hmem, rfl⟩ := Ast.exists_parent hb habove
    cases helement : p.element with
    | list ordered tight =>
      have hitem := h.listsHoldItems p (Ast.mem_subtrees_of_atPath? hp) b hmem (by rw [helement]; rfl)
      rw [hparagraph] at hitem
      cases hitem
    | item =>
      obtain ⟨ordered, tight, rest, hrest⟩ := h.exists_list hp helement
      rw [hrest]
      rfl
    | _ => rfl

/-- In the lowering of the tree there is a node for each element, at the same path. It is a text block if and only
    if the element is a paragraph directly in an item of a tight list; all other paragraphs stay paragraphs. -/
def Ast.LowersInPlace (a : Ast) (used : List String) : Prop :=
  ∀ path b, a.atPath? path = some b →
    ∃ n, (a.lower false used).1.atPath? path = some n ∧ n.IsOf b (a.inTightItem path)

/-- Every tree in which items stand in lists only is lowered in place, if lists hold items only and leaves hold
    nothing. The trees of Markdown texts keep all three conditions. -/
theorem lower_isOf_atPath :
    (∀ source, (readAst source).WellNested) ∧ ∀ a : Ast, a.WellNested → ∀ used, a.LowersInPlace used := by
  refine ⟨wellNested_readAst, fun a h used path b hb => ?_⟩
  obtain ⟨hleaves, before, hpath⟩ := exists_atPath?_lower h.bareLeaves hb false used
  refine ⟨_, hpath, ?_⟩
  have hof := isOf_lower b hleaves ((a.ancestors path).foldr Element.handDown false) before
  by_cases hparagraph : b.element = .paragraph
  · rwa [h.handDown_eq hb hparagraph] at hof ⊢
  · exact ⟨hof.kind, fun h => absurd h hparagraph, fun h => absurd h hparagraph, hof.code, hof.children⟩

/-- A tight list whose item holds a text, a quote and a loose list. -/
def tightItemTree : Ast :=
  .node .document
    [.node (.list false true)
      [.node .item
        [.node .paragraph [.leaf (.text "a")],
          .node .blockQuote [.node .paragraph [.leaf (.code "b")]],
          .node (.list true false) [.node .item [.node .paragraph []]]]]]

/-- Neither the quote nor the loose list passes on that the item around it is tight. -/
theorem lower_isOf_atPath_nestedLists :
    tightItemTree.WellNested
      ∧ (∃ n, (tightItemTree.lower false []).1.atPath? [0, 0, 0] = some n
        ∧ n.IsOf (.node .paragraph [.leaf (.text "a")]) true)
      ∧ (∃ n, (tightItemTree.lower false []).1.atPath? [0, 0, 1, 0] = some n
        ∧ n.IsOf (.node .paragraph [.leaf (.code "b")]) false)
      ∧ ∃ n, (tightItemTree.lower false []).1.atPath? [0, 0, 2, 0, 0] = some n
        ∧ n.IsOf (.node .paragraph []) false := by
  have htree : tightItemTree.WellNested := by decide
  have hlowered := lower_isOf_atPath.2 tightItemTree htree []
  exact ⟨htree, hlowered [0, 0, 0] _ rfl, hlowered [0, 0, 1, 0] _ rfl, hlowered [0, 0, 2, 0, 0] _ rfl⟩

/-- A paragraph right in a tight list. -/
def paragraphInList : Ast := .node .document [.node (.list false true) [.node .paragraph []]]

/-- A text with another text below it. -/
def textBelowText : Ast := .node .document [.node .paragraph [.node (.text "a") [.leaf (.text "b")]]]

/-- That items stand in lists only does not suffice. A list hands down to any child that it is tight, and what is
    below a text is lost. -/
theorem not_lowersInPlace :
    (paragraphInList.ItemsInLists ∧ ¬paragraphInList.LowersInPlace [])
      ∧ textBelowText.ItemsInLists ∧ ¬textBelowText.LowersInPlace [] := by
  refine ⟨⟨by decide, fun h => ?_⟩, by decide, fun h => ?_⟩
  · obtain ⟨n, hn, hof⟩ := h [0, 0] _ rfl
    obtain rfl := Option.some_injective _ hn
    exact Bool.noConfusion ((hof.textBlock rfl).mp rfl)
  · obtain ⟨n, hn, hof⟩ := h [0, 0] _ rfl
    obtain rfl := Option.some_injective _ hn
    cases hof.children (by nofun)

end DocMark.Markdown
