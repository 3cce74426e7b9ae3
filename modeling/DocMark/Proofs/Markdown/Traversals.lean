-- SUMMARY: A walk stops twice at every node, is bracketed, tells its tree, and meets the nodes in order.
import Mathlib
import DocMark.Proofs.Markdown.Anchors
import DocMark.Proofs.Markdown.Paths

/-!
# What a walk tells

Equal nodes may stand in several places, so the stops of a walk are told apart by the path to their node.
A walk stops where its node is entered and where it is left, and in between at all nodes below it. From this
follow the brackets, by induction for an arbitrary stack that other nodes are on. For the tree itself it is enough
to know of each node what it is without its children.
-/
namespace DocMark.Markdown

/-! ## Stops -/

/-- A stop of a walk, where the node at the path is entered or left. -/
structure Stop where
  path : List Nat
  enters : Bool
deriving DecidableEq, Repr

/-- The event of a stop in a walk from the root. -/
def Stop.event? (root : Node) (stop : Stop) : Option WalkEvent :=
  (root.atPath? stop.path).map fun n => if stop.enters then .enter n else .exit n

namespace Node

mutual

/-- The stops of a walk of the node at the path. -/
def stopsFrom (path : List Nat) : Node → List Stop
  | .text _ => [⟨path, true⟩, ⟨path, false⟩]
  | .document cs | .heading _ _ cs | .paragraph cs | .textBlock cs | .list _ _ cs | .listItem cs | .link _ cs
  | .other _ cs => ⟨path, true⟩ :: (stopsFromAll path 0 cs ++ [⟨path, false⟩])

/-- The stops of a walk of some children of the node at the path. The first of them has the given number. -/
def stopsFromAll (path : List Nat) (number : Nat) : List Node → List Stop
  | [] => []
  | n :: ns => n.stopsFrom (path ++ [number]) ++ stopsFromAll path (number + 1) ns

end

/-- The stops of a walk from the root. -/
def stops (root : Node) : List Stop := root.stopsFrom []

theorem stopsFrom_eq (path : List Nat) (n : Node) :
    n.stopsFrom path = ⟨path, true⟩ :: (stopsFromAll path 0 n.children ++ [⟨path, false⟩]) := by
  cases n <;> rfl

/-! ### What happens at the stops -/

theorem map_event_stopsFromAll {root : Node} {path : List Nat} {ns : List Node} {number : Nat}
    (h : ∀ m i, (m, i) ∈ ns.zipIdx number → (m.stopsFrom (path ++ [i])).map (·.event? root) = m.walk.map some) :
    (stopsFromAll path number ns).map (·.event? root) = (walkAll ns).map some := by
  induction ns generalizing number with
  | nil => rfl
  | cons n ns ih =>
    rw [List.zipIdx_cons] at h
    rw [stopsFromAll, walkAll, List.map_append, List.map_append, h n number (List.mem_cons_self ..),
      ih fun m i hm => h m i (List.mem_cons_of_mem _ hm)]

/-- A walk of the node at a path does at each stop what the stop says. -/
theorem map_event_stopsFrom {root n : Node} {path : List Nat} (h : root.atPath? path = some n) :
    (n.stopsFrom path).map (·.event? root) = n.walk.map some := by
  induction n using induction_children generalizing path with
  | node n ih =>
    have hchildren : (stopsFromAll path 0 n.children).map (·.event? root) = (walkAll n.children).map some := by
      refine map_event_stopsFromAll fun m i hm => ?_
      have hm := List.mk_mem_zipIdx_iff_getElem?.mp hm
      refine ih m (List.mem_of_getElem? hm) ?_
      rw [atPath?, follow_concat]
      exact Option.bind_eq_some_iff.mpr ⟨n, h, hm⟩
    have henter : Stop.event? root ⟨path, true⟩ = some (.enter n) := by simp [Stop.event?, h]
    have hexit : Stop.event? root ⟨path, false⟩ = some (.exit n) := by simp [Stop.event?, h]
    rw [stopsFrom_eq, walk_eq]
    simp [hchildren, henter, hexit]

/-! ### Every node has two stops -/

/-- Each stop in a list of nodes is below one of their numbers. -/
theorem exists_prefix_of_mem_stopsFromAll {path : List Nat} {ns : List Node} {number : Nat} {stop : Stop}
    (hnodes : ∀ m ∈ ns, ∀ path, stop ∈ m.stopsFrom path → path <+: stop.path)
    (h : stop ∈ stopsFromAll path number ns) : ∃ i ≥ number, path ++ [i] <+: stop.path := by
  induction ns generalizing number with
  | nil => cases h
  | cons n ns ih =>
    obtain ⟨hn, hns⟩ := List.forall_mem_cons.mp hnodes
    rcases List.mem_append.mp h with hfirst | hrest
    · exact ⟨number, le_refl _, hn _ hfirst⟩
    · obtain ⟨i, hi, hpath⟩ := ih hns hrest
      exact ⟨i, by omega, hpath⟩

/-- All stops are at the node or below it. -/
theorem prefix_of_mem_stopsFrom {n : Node} {path : List Nat} {stop : Stop} (h : stop ∈ n.stopsFrom path) :
    path <+: stop.path := by
  induction n using induction_children generalizing path with
  | node n ih =>
    rw [stopsFrom_eq, List.mem_cons, List.mem_append, List.mem_singleton] at h
    rcases h with rfl | hbelow | rfl
    · exact List.prefix_refl _
    · obtain ⟨i, -, hpath⟩ := exists_prefix_of_mem_stopsFromAll (fun m hm _ => ih m hm) hbelow
      exact (List.prefix_append path [i]).trans hpath
    · exact List.prefix_refl _

/-- Two children have no stop in common. -/
theorem eq_of_prefix {path below : List Nat} {i k : Nat} (h : path ++ [k] <+: path ++ i :: below) : k = i :=
  (List.cons_prefix_cons.mp ((List.prefix_append_right_inj path).mp h)).1

/-- The stops at one path. -/
def stopsAt (path : List Nat) (stops : List Stop) : List Stop := stops.filter (·.path = path)

theorem stopsAt_append (path : List Nat) (xs ys : List Stop) :
    stopsAt path (xs ++ ys) = stopsAt path xs ++ stopsAt path ys := List.filter_append ..

theorem stopsAt_around (path own : List Nat) (stops : List Stop) :
    stopsAt path (⟨own, true⟩ :: (stops ++ [⟨own, false⟩])) =
      if own = path then ⟨own, true⟩ :: (stopsAt path stops ++ [⟨own, false⟩]) else stopsAt path stops := by
  split_ifs with hown <;> simp [stopsAt, hown]

theorem stopsAt_eq_nil {path : List Nat} {stops : List Stop} (h : ∀ stop ∈ stops, stop.path ≠ path) :
    stopsAt path stops = [] := List.filter_eq_nil_iff.mpr fun stop hstop => by simpa using h stop hstop

/-- The stops below a child are those of its own walk. -/
theorem stopsAt_stopsFromAll {path below : List Nat} {ns : List Node} {m : Node} {i number : Nat}
    (hm : (m, i) ∈ ns.zipIdx number) : stopsAt (path ++ i :: below) (stopsFromAll path number ns) =
      stopsAt (path ++ i :: below) (m.stopsFrom (path ++ [i])) := by
  induction ns generalizing number with
  | nil => cases hm
  | cons n ns ih =>
    rw [stopsFromAll, stopsAt_append]
    rcases List.mem_cons.mp (List.zipIdx_cons ▸ hm) with heq | hrest
    · obtain ⟨rfl, rfl⟩ := Prod.mk.inj heq
      -- The children behind it have greater numbers.
      have hnone : stopsAt (path ++ i :: below) (stopsFromAll path (i + 1) ns) = [] := by
        refine stopsAt_eq_nil fun stop hstop hpath => ?_
        obtain ⟨k, hk, hbelow⟩ := exists_prefix_of_mem_stopsFromAll (fun m _ _ => prefix_of_mem_stopsFrom) hstop
        have hk' := eq_of_prefix (hpath ▸ hbelow)
        omega
      rw [hnone, List.append_nil]
    -- The children before it have smaller numbers.
    · have hnone : stopsAt (path ++ i :: below) (n.stopsFrom (path ++ [number])) = [] := by
        refine stopsAt_eq_nil fun stop hstop hpath => ?_
        have hk := eq_of_prefix (hpath ▸ prefix_of_mem_stopsFrom hstop)
        have hi := List.le_snd_of_mem_zipIdx hrest
        omega
      rw [hnone, List.nil_append, ih hrest]

/-- A node at or below the one at the path is entered and left once. -/
theorem stopsAt_stopsFrom {n m : Node} (path : List Nat) {below : List Nat} (h : n.atPath? below = some m) :
    stopsAt (path ++ below) (n.stopsFrom path) = [⟨path ++ below, true⟩, ⟨path ++ below, false⟩] := by
  induction n using induction_children generalizing path below with
  | node n ih =>
    rw [stopsFrom_eq, stopsAt_around]
    cases below with
    | nil =>
      have hnone : stopsAt path (stopsFromAll path 0 n.children) = [] := by
        refine stopsAt_eq_nil fun stop hstop hpath => ?_
        obtain ⟨i, -, hbelow⟩ := exists_prefix_of_mem_stopsFromAll (fun m _ _ => prefix_of_mem_stopsFrom) hstop
        have hlength := (hpath ▸ hbelow).length_le
        simp at hlength
      rw [List.append_nil, if_pos rfl, hnone, List.nil_append]
    | cons i below =>
      obtain ⟨c, hc, hbelow⟩ := (follow_cons_eq_some_iff _).mp h
      have hchild := ih c (List.mem_of_getElem? hc) (path ++ [i]) hbelow
      have hother : path ≠ path ++ i :: below := by simp
      rw [if_neg hother, stopsAt_stopsFromAll (List.mk_mem_zipIdx_iff_getElem?.mpr hc)]
      simpa using hchild

end Node

/-! ## Brackets -/

/-- The stack of the paths to the nodes that are still open, after one more stop. Only the node that was entered
    last can be left. -/
def Stop.replayOne : List (List Nat) → Stop → Option (List (List Nat))
  | stack, ⟨path, true⟩ => some (path :: stack)
  | top :: stack, ⟨path, false⟩ => if top = path then some stack else none
  | [], ⟨_, false⟩ => none

/-- The stack after some stops, unless one of them leaves a node that is not on top of it. -/
def replay (stack : List (List Nat)) (stops : List Stop) : Option (List (List Nat)) :=
  stops.foldlM Stop.replayOne stack

theorem replay_append (stack : List (List Nat)) (xs ys : List Stop) :
    replay stack (xs ++ ys) = (replay stack xs).bind (replay · ys) := List.foldlM_append ..

theorem replay_enter (stack : List (List Nat)) (path : List Nat) (stops : List Stop) :
    replay stack (⟨path, true⟩ :: stops) = replay (path :: stack) stops := rfl

theorem replay_exit (stack : List (List Nat)) (path : List Nat) :
    replay (path :: stack) [⟨path, false⟩] = some stack := by
  simp [replay, Stop.replayOne]

/-- Stops that leave the stack as it was and never pop anything that lay on it before. -/
structure Balanced (stops : List Stop) : Prop where
  settled : ∀ stack, replay stack stops = some stack
  above : ∀ stack before, before <+: stops → ∃ opened, replay stack before = some (opened ++ stack)

namespace Balanced

variable {stops xs ys : List Stop}

theorem nil : Balanced [] where
  settled _ := rfl
  above stack before h := by
    obtain rfl := List.prefix_nil.mp h
    exact ⟨[], rfl⟩

theorem append (hxs : Balanced xs) (hys : Balanced ys) : Balanced (xs ++ ys) where
  settled stack := by rw [replay_append, hxs.settled, Option.bind_some, hys.settled]
  above stack before h := by
    obtain ⟨after, h⟩ := h
    rcases List.append_eq_append_iff.mp h with ⟨rest, rfl, -⟩ | ⟨rest, rfl, rfl⟩
    · exact hxs.above stack before (List.prefix_append ..)
    · rw [replay_append, hxs.settled, Option.bind_some]
      exact hys.above stack rest (List.prefix_append ..)

/-- Between its two stops a node is on the stack. -/
theorem open_between (h : Balanced stops) (path : List Nat) (stack : List (List Nat)) {before : List Stop}
    (hbefore : before <+: stops) :
    ∃ opened, replay stack (⟨path, true⟩ :: before) = some (opened ++ path :: stack) :=
  h.above (path :: stack) before hbefore

theorem around (h : Balanced stops) (path : List Nat) :
    Balanced (⟨path, true⟩ :: (stops ++ [⟨path, false⟩])) := by
  have hsettled (stack : List (List Nat)) :
      replay stack (⟨path, true⟩ :: (stops ++ [⟨path, false⟩])) = some stack := by
    rw [replay_enter, replay_append, h.settled, Option.bind_some, replay_exit]
  refine ⟨hsettled, fun stack before hbefore => ?_⟩
  -- Nothing, all of it, or a part from the enter on that does not reach the exit.
  rcases List.prefix_cons_iff.mp hbefore with rfl | ⟨inner, rfl, hinner⟩
  · exact ⟨[], rfl⟩
  · rcases List.prefix_concat_iff.mp hinner with rfl | hinner
    · exact ⟨[], hsettled stack⟩
    · obtain ⟨opened, hopened⟩ := h.open_between path stack hinner
      exact ⟨opened ++ [path], by simpa using hopened⟩

end Balanced

namespace Node

theorem balanced_stopsFromAll (path : List Nat) {ns : List Node} (number : Nat)
    (h : ∀ m ∈ ns, ∀ path, Balanced (m.stopsFrom path)) : Balanced (stopsFromAll path number ns) := by
  induction ns generalizing number with
  | nil => exact .nil
  | cons n ns ih =>
    obtain ⟨hn, hns⟩ := List.forall_mem_cons.mp h
    exact (hn _).append (ih (number + 1) hns)

theorem balanced_stopsFrom (n : Node) (path : List Nat) : Balanced (n.stopsFrom path) := by
  induction n using induction_children generalizing path with
  | node n ih =>
    rw [stopsFrom_eq]
    exact (balanced_stopsFromAll path 0 ih).around path

/-- The root is open all the time in between. -/
theorem replay_stops (root : Node) {before : List Stop} (h : before <+: root.stops) :
    ∃ stack, replay [] before = some stack ∧ (stack = [] ↔ before = [] ∨ before = root.stops) := by
  have hall : replay [] root.stops = some [] := (root.balanced_stopsFrom []).settled []
  by_cases hwhole : before = root.stops
  · exact ⟨[], by rw [hwhole, hall], by simp [hwhole]⟩
  · rw [stops, stopsFrom_eq] at h hwhole
    rcases List.prefix_cons_iff.mp h with rfl | ⟨inner, rfl, hinner⟩
    · exact ⟨[], rfl, by simp⟩
    · rcases List.prefix_concat_iff.mp hinner with rfl | hinner
      · exact absurd rfl hwhole
      · have hchildren := balanced_stopsFromAll [] 0 fun m (_ : m ∈ root.children) => m.balanced_stopsFrom
        obtain ⟨opened, hopened⟩ := hchildren.open_between [] [] hinner
        refine ⟨opened ++ [[]], hopened, ?_⟩
        simpa [stops, stopsFrom_eq] using hwhole

/-! ## The tree of a walk -/

/-- The node with other children. A text has none. -/
def withChildren (cs : List Node) : Node → Node
  | .document _ => .document cs
  | .heading level anchor _ => .heading level anchor cs
  | .paragraph _ => .paragraph cs
  | .textBlock _ => .textBlock cs
  | .text content => .text content
  | .list ordered tight _ => .list ordered tight cs
  | .listItem _ => .listItem cs
  | .link destination _ => .link destination cs
  | .other name _ => .other name cs

theorem withChildren_children (n : Node) : n.withChildren n.children = n := by
  cases n <;> rfl

theorem withChildren_withChildren (n : Node) (cs ds : List Node) :
    (n.withChildren ds).withChildren cs = n.withChildren cs := by
  cases n <;> rfl

end Node

/-- The event as it would be told of a node without children. -/
def WalkEvent.bare : WalkEvent → WalkEvent
  | .enter n => .enter (n.withChildren [])
  | .exit n => .exit (n.withChildren [])

/-- The nodes that are complete on each level, the last one first, after one more event. A node that is left takes
    those of its level as its children. -/
def rebuildOne : List (List Node) → WalkEvent → List (List Node)
  | levels, .enter _ => [] :: levels
  | children :: siblings :: levels, .exit n => (n.withChildren children.reverse :: siblings) :: levels
  | levels, .exit _ => levels

/-- The tree that is complete after the events. -/
def rebuild? (events : List WalkEvent) : Option Node :=
  match events.foldl rebuildOne [[]] with
  | [[root]] => some root
  | _ => none

namespace Node

theorem foldl_rebuildOne_walkAll {ns : List Node} (h : ∀ m ∈ ns, ∀ siblings levels,
      (m.walk.map WalkEvent.bare).foldl rebuildOne (siblings :: levels) = (m :: siblings) :: levels)
    (siblings : List Node) (levels : List (List Node)) :
    ((walkAll ns).map WalkEvent.bare).foldl rebuildOne (siblings :: levels) =
      (ns.reverse ++ siblings) :: levels := by
  induction ns generalizing siblings with
  | nil => rfl
  | cons n ns ih =>
    obtain ⟨hn, hns⟩ := List.forall_mem_cons.mp h
    rw [walkAll, List.map_append, List.foldl_append, hn, ih hns, List.reverse_cons, List.append_assoc,
      List.singleton_append]

/-- A walk completes its node on the level that it starts on, whatever stands there before. -/
theorem foldl_rebuildOne_walk (n : Node) (siblings : List Node) (levels : List (List Node)) :
    (n.walk.map WalkEvent.bare).foldl rebuildOne (siblings :: levels) = (n :: siblings) :: levels := by
  induction n using induction_children generalizing siblings levels with
  | node n ih =>
    have hchildren := foldl_rebuildOne_walkAll ih [] (siblings :: levels)
    rw [List.append_nil] at hchildren
    rw [walk_eq, List.map_cons, List.map_append, List.foldl_cons, List.foldl_append, WalkEvent.bare, rebuildOne,
      hchildren, List.map_singleton, List.foldl_cons, List.foldl_nil, WalkEvent.bare, rebuildOne,
      List.reverse_reverse, withChildren_withChildren, withChildren_children]

theorem rebuild_walk (root : Node) : rebuild? (root.walk.map WalkEvent.bare) = some root := by
  rw [rebuild?, foldl_rebuildOne_walk]

/-! ## The texts of a walk -/

/-- The content of a text. -/
def text? : Node → Option String
  | .text content => some content
  | _ => none

theorem plainText_eq_append (n : Node) :
    n.plainText = String.join n.text?.toList ++ plainTextAll n.children := by
  cases n <;> simp [plainText, plainTextAll, children, text?]

theorem filterMap_text_nodes (n : Node) :
    n.nodes.filterMap text? = n.text?.toList ++ (nodesAll n.children).filterMap text? := by
  rw [nodes_eq]
  cases h : n.text? <;> simp [h]

theorem join_text_nodesAll {ns : List Node} (h : ∀ m ∈ ns, String.join (m.nodes.filterMap text?) = m.plainText) :
    String.join ((nodesAll ns).filterMap text?) = plainTextAll ns := by
  induction ns with
  | nil => rfl
  | cons n ns ih =>
    obtain ⟨hn, hns⟩ := List.forall_mem_cons.mp h
    rw [nodesAll_cons, List.filterMap_append, String.join_append, hn, ih hns, plainTextAll]

/-- The text of a tree is that of its texts in the order of a walk. -/
theorem join_text_nodes (n : Node) : String.join (n.nodes.filterMap text?) = n.plainText := by
  induction n using induction_children with
  | node n ih => rw [filterMap_text_nodes, String.join_append, join_text_nodesAll ih, plainText_eq_append]

/-! ## Agreement -/

/-- A walk has two events for each node, its enter and its exit. Replayed on a stack they always leave the node
    that was entered last of those still open, and the stack is empty only at the ends. The events tell the tree,
    even if they tell of each node only what it is without its children. The texts that are entered make the text
    of the tree, and the headings that are entered have its anchors. -/
theorem traversals_agree (root : Node) :
    root.walk.map some = root.stops.map (·.event? root)
      ∧ (∀ path n, root.atPath? path = some n → stopsAt path root.stops = [⟨path, true⟩, ⟨path, false⟩])
      ∧ (∀ before, before <+: root.stops →
        ∃ stack, replay [] before = some stack ∧ (stack = [] ↔ before = [] ∨ before = root.stops))
      ∧ rebuild? (root.walk.map WalkEvent.bare) = some root
      ∧ String.join ((root.walk.filterMap WalkEvent.entered?).filterMap text?) = root.plainText
      ∧ (root.walk.filterMap WalkEvent.entered?).filterMap anchor? = root.headingAnchors := by
  refine ⟨(map_event_stopsFrom rfl).symm, fun path n h => ?_, fun before h => root.replay_stops h,
    root.rebuild_walk, root.join_text_nodes, root.headingAnchors_eq.symm⟩
  have hstops := stopsAt_stopsFrom [] h
  rwa [List.nil_append] at hstops

end Node

end DocMark.Markdown
