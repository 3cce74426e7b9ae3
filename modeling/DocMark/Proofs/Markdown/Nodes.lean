-- SUMMARY: The nodes of a tree, what a walk does at each of them, and induction over the children of nodes.
import Mathlib
import DocMark.Markdown.Walk

/-!
# Nodes of a tree

A walk enters a node, walks its children and leaves it again, whatever the node is. So a proof about
walks goes by induction over the children, and need not tell the kinds of nodes apart.
-/
namespace DocMark.Markdown

/-- The node that an event enters. -/
def WalkEvent.entered? : WalkEvent → Option Node
  | .enter n => some n
  | .exit _ => none

namespace Node

/-! ## Kinds of nodes -/

def isText : Node → Bool
  | .text _ => true
  | _ => false

theorem exists_eq_text {n : Node} (h : n.isText = true) : ∃ content, n = .text content := by
  cases n with
  | text content => exact ⟨content, rfl⟩
  | _ => cases h

def isHeading : Node → Bool
  | .heading _ _ _ => true
  | _ => false

def isParagraph : Node → Bool
  | .paragraph _ => true
  | _ => false

def isList : Node → Bool
  | .list _ _ _ => true
  | _ => false

def isListItem : Node → Bool
  | .listItem _ => true
  | _ => false

/-- A heading or a paragraph, whose text gets a named style. -/
def isStyled : Node → Bool
  | .heading _ _ _ => true
  | .paragraph _ => true
  | _ => false

def isTextBlock : Node → Bool
  | .textBlock _ => true
  | _ => false

/-- A block that holds text, not other blocks. -/
def isLeafBlock (n : Node) : Bool := n.isStyled || n.isTextBlock

/-- A node that makes no paragraph of its own. -/
def isInline : Node → Bool
  | .text _ => true
  | .link _ _ => true
  | .other _ _ => true
  | _ => false

theorem isStyled_eq_false_of_isInline {n : Node} (h : n.isInline = true) : n.isStyled = false := by
  cases n <;> first | rfl | cases h

theorem isList_eq_false_of_isInline {n : Node} (h : n.isInline = true) : n.isList = false := by
  cases n <;> first | rfl | cases h

theorem isLeafBlock_eq_false_of_isInline {n : Node} (h : n.isInline = true) : n.isLeafBlock = false := by
  cases n <;> first | rfl | cases h

/-! ## Walks -/

theorem walk_eq (n : Node) : n.walk = .enter n :: (walkAll n.children ++ [.exit n]) := by
  cases n <;> rfl

/-- The node and all nodes below it, in the order in which a walk enters them. -/
def nodes (n : Node) : List Node := n.walk.filterMap WalkEvent.entered?

def nodesAll (ns : List Node) : List Node := (walkAll ns).filterMap WalkEvent.entered?

theorem nodes_eq (n : Node) : n.nodes = n :: nodesAll n.children := by
  simp [nodes, nodesAll, walk_eq, WalkEvent.entered?]

theorem nodesAll_cons (n : Node) (ns : List Node) : nodesAll (n :: ns) = n.nodes ++ nodesAll ns :=
  List.filterMap_append

theorem mem_nodes_self (n : Node) : n ∈ n.nodes := by
  rw [nodes_eq]
  exact List.mem_cons_self ..

theorem nodesAll_children_subset (n : Node) : nodesAll n.children ⊆ n.nodes := by
  rw [nodes_eq]
  exact List.subset_cons_self ..

theorem nodes_subset_nodesAll {n : Node} {ns : List Node} (h : n ∈ ns) : n.nodes ⊆ nodesAll ns := by
  induction ns with
  | nil => cases h
  | cons m ns ih =>
    rw [nodesAll_cons]
    rcases List.mem_cons.mp h with rfl | hns
    · exact List.subset_append_left ..
    · exact List.Subset.trans (ih hns) (List.subset_append_right ..)

theorem exists_of_mem_nodesAll {m : Node} {ns : List Node} (h : m ∈ nodesAll ns) :
    ∃ n ∈ ns, m ∈ n.nodes := by
  induction ns with
  | nil => cases h
  | cons n ns ih =>
    rw [nodesAll_cons] at h
    rcases List.mem_append.mp h with hn | hns
    · exact ⟨n, List.mem_cons_self .., hn⟩
    · obtain ⟨k, hk, hm⟩ := ih hns
      exact ⟨k, List.mem_cons_of_mem _ hk, hm⟩

theorem nodes_subset_of_mem_children {m n : Node} (h : m ∈ n.children) : m.nodes ⊆ n.nodes :=
  List.Subset.trans (nodes_subset_nodesAll h) (nodesAll_children_subset n)

/-! ## Well-formed trees -/

/-- Headings and paragraphs hold only texts, links and nodes without a meaning of their own. -/
def StylesInlines (root : Node) : Prop :=
  ∀ n ∈ root.nodes, n.isStyled = true → ∀ m ∈ nodesAll n.children, m.isInline = true

instance (root : Node) : Decidable root.StylesInlines :=
  inferInstanceAs (Decidable (∀ n ∈ root.nodes, n.isStyled = true →
    ∀ m ∈ nodesAll n.children, m.isInline = true))

theorem StylesInlines.of_mem_children {m n : Node} (h : n.StylesInlines) (hm : m ∈ n.children) :
    m.StylesInlines :=
  fun k hk => h k (nodes_subset_of_mem_children hm hk)

/-- Headings, paragraphs and text blocks hold only texts, links and nodes without a meaning of their
    own. -/
def LeafBlocksInline (root : Node) : Prop :=
  ∀ n ∈ root.nodes, n.isLeafBlock = true → ∀ m ∈ nodesAll n.children, m.isInline = true

theorem LeafBlocksInline.of_mem_children {m n : Node} (h : n.LeafBlocksInline) (hm : m ∈ n.children) :
    m.LeafBlocksInline :=
  fun k hk => h k (nodes_subset_of_mem_children hm hk)

/-- Every list has an item. -/
def ListsHaveItems (root : Node) : Prop :=
  ∀ n ∈ root.nodes, n.isList = true → ∃ item ∈ n.children, item.isListItem = true

instance (root : Node) : Decidable root.ListsHaveItems :=
  inferInstanceAs (Decidable (∀ n ∈ root.nodes, n.isList = true →
    ∃ item ∈ n.children, item.isListItem = true))

theorem ListsHaveItems.of_mem_children {m n : Node} (h : n.ListsHaveItems) (hm : m ∈ n.children) :
    m.ListsHaveItems :=
  fun k hk => h k (nodes_subset_of_mem_children hm hk)

/-! ## Induction -/

theorem sizeOf_lt_of_mem_children {m n : Node} (h : m ∈ n.children) : sizeOf m < sizeOf n := by
  have hchildren : sizeOf m < sizeOf n.children := List.sizeOf_lt_of_mem h
  refine hchildren.trans ?_
  cases n with
  | text content => cases h
  | document cs | heading level anchor cs | paragraph cs | textBlock cs | list ordered tight cs
  | listItem cs | link destination cs | other name cs =>
    simp only [children, document.sizeOf_spec, heading.sizeOf_spec, paragraph.sizeOf_spec,
      textBlock.sizeOf_spec, list.sizeOf_spec, listItem.sizeOf_spec, link.sizeOf_spec,
      other.sizeOf_spec]
    omega

/-- What holds of a node whenever it holds of all its children holds of every node. -/
theorem induction_children {P : Node → Prop} (node : ∀ n, (∀ m ∈ n.children, P m) → P n)
    (n : Node) : P n :=
  node n fun m _ => induction_children node m
termination_by sizeOf n
decreasing_by exact sizeOf_lt_of_mem_children ‹_›

/-! ## Brackets in a walk -/

/-- Before a node is left stand its enter and the walk of its children, at the end of what was walked:
    in a list of nodes, if this is so within each of them. -/
theorem exists_enter_of_exit_all {ns : List Node} {n : Node}
    (hnodes : ∀ m ∈ ns, ∀ before after, m.walk = before ++ .exit n :: after →
      ∃ earlier, before = earlier ++ .enter n :: walkAll n.children)
    {before after : List WalkEvent} (h : walkAll ns = before ++ .exit n :: after) :
    ∃ earlier, before = earlier ++ .enter n :: walkAll n.children := by
  induction ns generalizing before with
  | nil => simp [walkAll] at h
  | cons m ns ih =>
    have ihrest (before : List WalkEvent) (hrest : walkAll ns = before ++ .exit n :: after) :=
      ih (fun m hm => hnodes m (List.mem_cons_of_mem _ hm)) hrest
    rw [walkAll] at h
    rcases List.append_eq_append_iff.mp h with ⟨between, rfl, hrest⟩ | ⟨between, hm, hrest⟩
    · obtain ⟨earlier, rfl⟩ := ihrest _ hrest
      exact ⟨m.walk ++ earlier, (List.append_assoc ..).symm⟩
    · cases between with
      | nil =>
        -- The exit would be the first event of the other nodes.
        obtain ⟨earlier, hnil⟩ := ihrest [] (by simpa using hrest.symm)
        simp at hnil
      | cons event between =>
        simp only [List.cons_append, List.cons.injEq] at hrest
        obtain ⟨rfl, -⟩ := hrest
        exact hnodes m (List.mem_cons_self ..) before between hm

/-- A node is left right after its own enter and the walk of its children. -/
theorem exists_enter_of_exit {m n : Node} {before after : List WalkEvent}
    (h : m.walk = before ++ .exit n :: after) :
    ∃ earlier, before = earlier ++ .enter n :: walkAll n.children := by
  induction m using induction_children generalizing before after with
  | node m ih =>
    rw [walk_eq] at h
    cases before with
    | nil => simp at h
    | cons event before =>
      simp only [List.cons_append, List.cons.injEq] at h
      obtain ⟨rfl, h⟩ := h
      rcases List.eq_nil_or_concat after with rfl | ⟨after, last, rfl⟩
      · obtain ⟨rfl, hlast⟩ := List.append_inj' h rfl
        cases hlast
        exact ⟨[], rfl⟩
      · have hsplit : walkAll m.children ++ [.exit m] = (before ++ .exit n :: after) ++ [last] := by
          simpa using h
        obtain ⟨earlier, rfl⟩ := exists_enter_of_exit_all
          (fun k hk _ _ hwalk => ih k hk hwalk) (List.append_inj' hsplit rfl).1
        exact ⟨.enter m :: earlier, rfl⟩

end Node

end DocMark.Markdown
