-- SUMMARY: The headings of a Markdown text have different anchors: each is the first free one for its text.
import Mathlib
import DocMark.Proofs.Markdown.LeafBlocks

/-!
# Anchors of headings

A slug can be numbered in more ways than there are used anchors, so one of them is always free. The anchors that
are in use while a tree is lowered are those of the headings before, since no heading of a Markdown text holds
another one. So every heading gets the first free anchor with respect to the headings before it.
-/
namespace DocMark.Markdown

/-! ## Numbered slugs -/

theorem numberedSlug_injective (slug : String) : Function.Injective (numberedSlug slug) := by
  -- A number with its hyphen is longer than no number.
  have hlonger (n : Nat) : slug ≠ slug ++ "-" ++ toString n := by
    intro h
    have hlength := congrArg String.length h
    have hhyphen : "-".length = 1 := rfl
    rw [String.length_append, String.length_append] at hlength
    omega
  intro m n h
  unfold numberedSlug at h
  split_ifs at h with hm hn hn
  · exact hm.trans hn.symm
  · exact absurd h (hlonger n)
  · exact absurd h.symm (hlonger m)
  · have hdigits : toString m = toString n := by simpa using h
    exact Nat.repr_inj.mp hdigits

/-- The anchor is the slug with the least number that none of the used anchors has, where no number comes
    first. -/
def IsFirstFree (used : List String) (slug anchor : String) : Prop :=
  ∃ n, anchor = numberedSlug slug n ∧ anchor ∉ used ∧ ∀ m < n, numberedSlug slug m ∈ used

/-- There are more numbers than used anchors. -/
theorem exists_numberedSlug_notMem (used : List String) (slug : String) :
    ∃ n ≤ used.length, numberedSlug slug n ∉ used := by
  by_contra hnone
  have hall : (List.range (used.length + 1)).map (numberedSlug slug) ⊆ used := by
    intro anchor hanchor
    obtain ⟨n, hn, rfl⟩ := List.mem_map.mp hanchor
    by_contra hfree
    exact hnone ⟨n, Nat.le_of_lt_succ (List.mem_range.mp hn), hfree⟩
  have hnodup : ((List.range (used.length + 1)).map (numberedSlug slug)).Nodup :=
    List.nodup_range.map (numberedSlug_injective slug)
  have hlength := (hnodup.subperm hall).length_le
  rw [List.length_map, List.length_range] at hlength
  omega

theorem isFirstFree_freshAnchor (used : List String) (slug : String) :
    IsFirstFree used slug (freshAnchor used slug) := by
  have hfound : ∃ n, (List.range (used.length + 1)).find? (fun n => !used.contains (numberedSlug slug n)) =
      some n := by
    obtain ⟨n, hn, hfree⟩ := exists_numberedSlug_notMem used slug
    rw [← Option.isSome_iff_exists, List.find?_isSome]
    exact ⟨n, List.mem_range.mpr (Nat.lt_succ_of_le hn), by simpa using hfree⟩
  obtain ⟨n, hn⟩ := hfound
  obtain ⟨hfree, -, hleast⟩ := List.find?_range_eq_some.mp hn
  have hanchor : freshAnchor used slug = numberedSlug slug n := by
    rw [freshAnchor, List.find?_map]
    exact congrArg (fun found => (Option.map (numberedSlug slug) found).getD slug) hn
  refine ⟨n, hanchor, ?_, fun m hm => by simpa using hleast m hm⟩
  rw [hanchor]
  simpa using hfree

/-! ## Headings in order -/

namespace Node

/-- The anchor of a heading. -/
def anchor? : Node → Option String
  | .heading _ anchor _ => some anchor
  | _ => none

theorem anchor?_of_isInline {n : Node} (h : n.isInline = true) : n.anchor? = none := by
  cases n <;> first | rfl | cases h

theorem headingAnchors_eq_append (n : Node) :
    n.headingAnchors = n.anchor?.toList ++ headingAnchorsAll n.children := by
  cases n <;> rfl

theorem filterMap_anchor_nodes (n : Node) :
    n.nodes.filterMap anchor? = n.anchor?.toList ++ (nodesAll n.children).filterMap anchor? := by
  rw [nodes_eq]
  cases h : n.anchor? <;> simp [h]

/-- The anchors are those of the headings in the order of a walk. -/
theorem headingAnchors_eq (n : Node) : n.headingAnchors = n.nodes.filterMap anchor? := by
  induction n using induction_children with
  | node n ih =>
    have hall : ∀ ns : List Node, (∀ m ∈ ns, m.headingAnchors = m.nodes.filterMap anchor?) →
        headingAnchorsAll ns = (nodesAll ns).filterMap anchor? := by
      intro ns hns
      induction ns with
      | nil => rfl
      | cons m ns ihns =>
        obtain ⟨hm, hns⟩ := List.forall_mem_cons.mp hns
        rw [headingAnchorsAll, nodesAll_cons, List.filterMap_append, hm, ihns hns]
    rw [headingAnchors_eq_append, filterMap_anchor_nodes, hall n.children ih]

end Node

/-! ## Lowering -/

/-- Along a list of nodes every heading takes the first free anchor for its text. The last list holds the anchors
    that are in use afterwards. -/
inductive TakesFirstFree : List String → List Node → List String → Prop where
  | nil {used : List String} : TakesFirstFree used [] used
  | heading {used after : List String} {n : Node} {ns : List Node} {anchor : String}
      (hn : n.anchor? = some anchor) (hfree : IsFirstFree used (slug n.plainText) anchor)
      (h : TakesFirstFree (anchor :: used) ns after) : TakesFirstFree used (n :: ns) after
  | other {used after : List String} {n : Node} {ns : List Node} (hn : n.anchor? = none)
      (h : TakesFirstFree used ns after) : TakesFirstFree used (n :: ns) after

namespace TakesFirstFree

variable {used after last : List String} {ns more : List Node}

theorem append (h : TakesFirstFree used ns after) (hmore : TakesFirstFree after more last) :
    TakesFirstFree used (ns ++ more) last := by
  induction h with
  | nil => exact hmore
  | heading hn hfree _ ih => exact .heading hn hfree (ih hmore)
  | other hn _ ih => exact .other hn (ih hmore)

/-- Where there is no heading, no anchor is taken. -/
theorem of_forall (hns : ∀ n ∈ ns, n.anchor? = none) : TakesFirstFree used ns used := by
  induction ns with
  | nil => exact .nil
  | cons n ns ih =>
    obtain ⟨hn, hns⟩ := List.forall_mem_cons.mp hns
    exact .other hn (ih hns)

theorem eq_of_forall (h : TakesFirstFree used ns after) (hns : ∀ n ∈ ns, n.anchor? = none) : after = used := by
  induction h with
  | nil => rfl
  | heading hn =>
    rw [hns _ (List.mem_cons_self ..)] at hn
    cases hn
  | other _ _ ih => exact ih (List.forall_mem_cons.mp hns).2

theorem nodup (h : TakesFirstFree used ns after) :
    (ns.filterMap Node.anchor?).Nodup ∧ ∀ anchor ∈ ns.filterMap Node.anchor?, anchor ∉ used := by
  induction h with
  | nil => exact ⟨List.nodup_nil, List.forall_mem_nil _⟩
  | @heading used after n ns anchor hn hfree _ ih =>
    obtain ⟨_, -, hnew, -⟩ := hfree
    rw [List.filterMap_cons_some hn, List.nodup_cons, List.forall_mem_cons]
    refine ⟨⟨fun hmem => ih.2 anchor hmem (List.mem_cons_self ..), ih.1⟩, hnew, fun other hother hused => ?_⟩
    exact ih.2 other hother (List.mem_cons_of_mem _ hused)
  | other hn _ ih => rwa [List.filterMap_cons_none hn]

/-- Each anchor is the first free one with respect to the headings before. -/
theorem isFirstFree (h : TakesFirstFree used ns after) {before rest : List Node} {n : Node} {anchor : String}
    (hns : ns = before ++ n :: rest) (hn : n.anchor? = some anchor) :
    IsFirstFree ((before.filterMap Node.anchor?).reverse ++ used) (slug n.plainText) anchor := by
  induction h generalizing before with
  | nil => simp at hns
  | @heading used after m ns taken hm hfree _ ih =>
    cases before with
    | nil =>
      obtain ⟨rfl, rfl⟩ := List.cons_eq_cons.mp hns
      obtain rfl : taken = anchor := Option.some_injective _ (hm.symm.trans hn)
      exact hfree
    | cons first before =>
      obtain ⟨rfl, hrest⟩ := List.cons_eq_cons.mp hns
      simpa [hm] using ih hrest
  | @other used after m ns hm _ ih =>
    cases before with
    | nil =>
      obtain ⟨rfl, rfl⟩ := List.cons_eq_cons.mp hns
      rw [hm] at hn
      cases hn
    | cons first before =>
      obtain ⟨rfl, hrest⟩ := List.cons_eq_cons.mp hns
      simpa [hm] using ih hrest

end TakesFirstFree

mutual

theorem takesFirstFree_lower (a : Ast) (tight : Bool) (used : List String)
    (h : (a.lower tight used).1.LeafBlocksInline) :
    TakesFirstFree used (a.lower tight used).1.nodes (a.lower tight used).2 := by
  cases a with
  | node e cs =>
    have hbelow (tight : Bool) {n : Node} (hn : n.children = (lowerAll tight used cs).1)
        (hnone : n.anchor? = none) (hleaves : n.LeafBlocksInline) :
        TakesFirstFree used n.nodes (lowerAll tight used cs).2 := by
      rw [Node.nodes_eq, hn]
      refine .other hnone (takesFirstFree_lowerAll cs tight used fun m hm => ?_)
      exact hleaves.of_mem_children (hn ▸ hm)
    cases e with
    | heading level =>
      simp only [Ast.lower] at h ⊢
      have hinline := h _ (Node.mem_nodes_self _) rfl
      have hnone : ∀ n ∈ Node.nodesAll (lowerAll false used cs).1, n.anchor? = none := fun n hn =>
        Node.anchor?_of_isInline (hinline n hn)
      -- Below a heading there is no other one, so the anchors in use are those from before it.
      have hchildren := takesFirstFree_lowerAll cs false used fun m hm => h.of_mem_children hm
      rw [hchildren.eq_of_forall hnone, Node.nodes_eq]
      exact .heading rfl (isFirstFree_freshAnchor _ _) (.of_forall hnone)
    | text content | softBreak | lineBreak => exact .of_forall (List.forall_mem_singleton.mpr rfl)
    | code literal => exact .of_forall (List.forall_mem_cons.mpr ⟨rfl, List.forall_mem_singleton.mpr rfl⟩)
    | paragraph => cases tight <;> exact hbelow false rfl rfl h
    | list ordered tightItems => exact hbelow tightItems rfl rfl h
    | item => exact hbelow tight rfl rfl h
    | _ => exact hbelow false rfl rfl h

theorem takesFirstFree_lowerAll (as : List Ast) (tight : Bool) (used : List String)
    (h : ∀ n ∈ (lowerAll tight used as).1, n.LeafBlocksInline) :
    TakesFirstFree used (Node.nodesAll (lowerAll tight used as).1) (lowerAll tight used as).2 := by
  cases as with
  | nil => exact .nil
  | cons a rest =>
    obtain ⟨ha, hrest⟩ := List.forall_mem_cons.mp h
    simp only [lowerAll]
    rw [Node.nodesAll_cons]
    exact (takesFirstFree_lower a tight used ha).append (takesFirstFree_lowerAll rest tight _ hrest)

end

/-! ## Markdown texts -/

/-- The anchors of a Markdown text are all different, are listed in the order of the headings, and each is the
    slug of its heading's text, with the least number that makes it differ from all anchors before, if any. -/
theorem headingAnchors_parse (source : String) :
    (parse source).headingAnchors = (parse source).nodes.filterMap Node.anchor?
      ∧ (parse source).headingAnchors.Nodup
      ∧ ∀ before n rest anchor, (parse source).nodes = before ++ n :: rest → n.anchor? = some anchor →
        ∃ k, anchor = numberedSlug (slug n.plainText) k
          ∧ anchor ∉ before.filterMap Node.anchor?
          ∧ ∀ m < k, numberedSlug (slug n.plainText) m ∈ before.filterMap Node.anchor? := by
  have htakes := takesFirstFree_lower (readAst source) false [] (leafBlocksInline_parse source)
  have hanchors := (parse source).headingAnchors_eq
  refine ⟨hanchors, ?_, fun before n rest anchor hnodes hn => ?_⟩
  · rw [hanchors]
    exact htakes.nodup.1
  · simpa [IsFirstFree] using htakes.isFirstFree hnodes hn

end DocMark.Markdown
