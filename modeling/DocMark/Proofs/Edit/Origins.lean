-- SUMMARY: The builder with the nodes that are open around each operation, and around each inserted unit.
import Mathlib
import DocMark.Proofs.Edit.Compilation
import DocMark.Proofs.Markdown.Nodes

/-!
# Origins

An operation does not say which node it was emitted for. `Tracked` runs the builder and keeps every
operation together with the nodes that were open then. Two nodes may be alike, so a node is told from
all others by how many nodes the walk entered before it. `writtenUnits` puts each inserted unit where
its operation inserts it and keeps the nodes around it.

The nodes are only recorded: the builder itself runs as it does without them.
-/
namespace DocMark.Edit

open Document Markdown Text

/-- A node of a walk, and how many nodes were entered before it. -/
structure Visit where
  number : Nat
  node : Node

/-- An operation and the nodes that were open when it was emitted, innermost first. -/
structure Emission where
  operation : Operation
  around : List Visit

/-- An inserted unit and the nodes that were open when it was inserted, innermost first. -/
structure WrittenUnit where
  code : UInt16
  around : List Visit

/-- The units inserted so far, in the order in which they stand, after one more operation. -/
def Emission.place (units : List WrittenUnit) (e : Emission) : List WrittenUnit :=
  match e.operation with
  | .insertText text index =>
    units.take (index - 1) ++ (Utf16.encode text.toList).map (⟨·, e.around⟩)
      ++ units.drop (index - 1)
  | .setParagraphStyle _ _ => units
  | .setBulletList _ _ => units
  | .setLink _ _ => units

namespace WrittenUnit

/-- The node that the unit was inserted for is a text. -/
def isText (u : WrittenUnit) : Bool := u.around.head?.any (·.node.isText)

def nodes (u : WrittenUnit) : List Node := u.around.map (·.node)

/-- The outermost list around the unit. -/
def outermostList? (u : WrittenUnit) : Option Visit := (u.around.filter (·.node.isList)).getLast?

end WrittenUnit

namespace Builder

/-- The builder in the middle of a walk. -/
structure Tracked where
  state : State := {}
  /-- How many nodes were entered. -/
  entered : Nat := 0
  /-- The nodes that are open, innermost first. -/
  around : List Visit := []
  emissions : List Emission := []

/-- The operations that a state has and an earlier one has not. -/
def newOperations (s s' : State) : List Operation := s'.operations.toList.drop s.operations.size

namespace Tracked

def enter (t : Tracked) (n : Node) : Tracked :=
  let state := Builder.enter t.state n
  let around := ⟨t.entered, n⟩ :: t.around
  { state, around
    entered := t.entered + 1
    emissions := t.emissions ++ (newOperations t.state state).map (⟨·, around⟩) }

def exit (options : BuildOptions) (t : Tracked) (n : Node) : Tracked :=
  let state := Builder.exit options t.state n
  { state
    entered := t.entered
    around := t.around.tail
    emissions := t.emissions ++ (newOperations t.state state).map (⟨·, t.around⟩) }

def step (options : BuildOptions) (t : Tracked) : WalkEvent → Tracked
  | .enter n => t.enter n
  | .exit n => t.exit options n

def run (options : BuildOptions) (t : Tracked) (events : List WalkEvent) : Tracked :=
  events.foldl (step options) t

/-- The units inserted so far, in the order in which they stand. -/
def written (t : Tracked) : List WrittenUnit := t.emissions.foldl Emission.place []

end Tracked

end Builder

open Builder

/-- The units that a build inserts, in the order in which they stand at its end. -/
def writtenUnits (root : Node) (options : BuildOptions) : List WrittenUnit :=
  (Tracked.run options {} root.walk).written

/-! ## What one node does -/

namespace Builder

/-- Whether a node is set off by a break where it is entered. -/
def breaksAt (cursor : Nat) : Node → Bool
  | .heading _ _ _ => initialCursor < cursor
  | .list _ _ _ => initialCursor < cursor
  | .paragraph _ => true
  | .listItem _ => true
  | _ => false

/-- Whether a node opens a range that it closes when it is left. -/
def opensRange : Node → Bool
  | .heading _ _ _ => true
  | .paragraph _ => true
  | .list _ _ _ => true
  | .link _ _ => true
  | _ => false

/-- The text that entering a node inserts. -/
def breakAt (cursor : Nat) (n : Node) : String := if breaksAt cursor n then "\n" else ""

/-- The text that leaving a node inserts. -/
def ownText : Node → String
  | .text content => content
  | _ => ""

def insertions (text : String) (cursor : Nat) : List Operation :=
  if text.isEmpty then [] else [.insertText text cursor]

/-- The operations of leaving a node whose range began at `start`. -/
def leaving (options : BuildOptions) (start cursor : Nat) : Node → List Operation
  | .heading level _ _ =>
    [.setParagraphStyle (closedRange start cursor) (NamedStyle.ofLevel level).name]
  | .paragraph _ => [.setParagraphStyle (closedRange start cursor) NamedStyle.normalText.name]
  | .list ordered _ _ => [.setBulletList (closedRange start cursor) (options.preset ordered)]
  | .link destination _ =>
    if cursor - start = 0 then [] else [.setLink ⟨start, cursor - 1⟩ destination]
  | .text content => insertions content cursor
  | _ => []

variable (s : State) (n : Node)

theorem operations_enter : (enter s n).operations.toList =
    s.operations.toList ++ insertions (breakAt s.cursor n) s.cursor := by
  cases n with
  | heading level anchor cs | list ordered tight items =>
    simp only [enter, State.breakUnlessFirst, breakAt, breaksAt, decide_eq_true_eq]
    split
    · exact Array.toList_push
    · exact (List.append_nil _).symm
  | paragraph cs | listItem cs => exact Array.toList_push
  | document cs | textBlock cs | text content | link destination cs | other name cs =>
    exact (List.append_nil _).symm

theorem cursor_enter : (enter s n).cursor = s.cursor + Utf16.length (breakAt s.cursor n) := by
  cases n with
  | heading level anchor cs | list ordered tight items =>
    simp only [enter, State.breakUnlessFirst, breakAt, breaksAt, decide_eq_true_eq]
    split <;> rfl
  | paragraph cs | listItem cs => rfl
  | document cs | textBlock cs | text content | link destination cs | other name cs => rfl

theorem starts_enter :
    (enter s n).starts = if opensRange n then (enter s n).cursor :: s.starts else s.starts := by
  cases n with
  | heading level anchor cs | list ordered tight items =>
    simp only [enter, State.breakUnlessFirst]
    split <;> rfl
  | paragraph cs | listItem cs => rfl
  | document cs | textBlock cs | text content | link destination cs | other name cs => rfl

theorem popStart_snd : s.popStart.2.cursor = s.cursor ∧ s.popStart.2.operations = s.operations := by
  unfold State.popStart
  split <;> exact ⟨rfl, rfl⟩

theorem operations_exit (options : BuildOptions) :
    (exit options s n).operations.toList =
      s.operations.toList ++ leaving options s.popStart.1 s.cursor n := by
  obtain ⟨hcursor, hoperations⟩ := popStart_snd s
  cases n with
  | heading level anchor cs | paragraph cs | list ordered tight items =>
    simp only [exit, State.closeRange, State.emit, leaving, hcursor, hoperations, Array.toList_push]
  | link destination cs =>
    simp only [exit, leaving, hcursor]
    split
    · exact hoperations ▸ (List.append_nil _).symm
    · simp only [State.emit, hcursor, hoperations, Array.toList_push]
  | text content =>
    simp only [exit, leaving, insertions]
    split
    · exact (List.append_nil _).symm
    · exact Array.toList_push
  | document cs | textBlock cs | listItem cs | other name cs => exact (List.append_nil _).symm

theorem cursor_exit (options : BuildOptions) :
    (exit options s n).cursor = s.cursor + Utf16.length (ownText n) := by
  have hcursor := (popStart_snd s).1
  cases n with
  | heading level anchor cs | paragraph cs | list ordered tight items => exact hcursor
  | link destination cs =>
    simp only [exit]
    split <;> exact hcursor
  | text content =>
    simp only [exit, ownText]
    split
    · rename_i hempty
      have hcontent : content = "" := by simpa using hempty
      rw [hcontent]
      rfl
    · rfl
  | document cs | textBlock cs | listItem cs | other name cs => rfl

/-! ## What a walk does -/

theorem newOperations_eq {s s' : State} {operations : List Operation}
    (h : s'.operations.toList = s.operations.toList ++ operations) :
    newOperations s s' = operations := by
  rw [newOperations, h, ← Array.length_toList, List.drop_left]

namespace Tracked

variable (options : BuildOptions) (t : Tracked)

theorem emissions_enter (n : Node) :
    (t.enter n).emissions =
      t.emissions ++ (insertions (breakAt t.state.cursor n) t.state.cursor).map
        (⟨·, (t.enter n).around⟩) := by
  change t.emissions ++ (newOperations _ _).map _ = _
  rw [newOperations_eq (operations_enter t.state n)]
  rfl

theorem emissions_exit (n : Node) :
    (t.exit options n).emissions =
      t.emissions ++ (leaving options t.state.popStart.1 t.state.cursor n).map (⟨·, t.around⟩) := by
  change t.emissions ++ (newOperations _ _).map _ = _
  rw [newOperations_eq (operations_exit t.state n options)]

theorem run_append (xs ys : List WalkEvent) :
    t.run options (xs ++ ys) = (t.run options xs).run options ys := List.foldl_append

theorem run_walk (n : Node) :
    t.run options n.walk = ((t.enter n).run options (Node.walkAll n.children)).exit options n := by
  rw [Node.walk_eq, ← List.cons_append, run_append]
  rfl

/-- The builder does not see the record. -/
theorem state_run (events : List WalkEvent) :
    (t.run options events).state = events.foldl (Builder.step options) t.state := by
  induction events generalizing t with
  | nil => rfl
  | cons event events ih =>
    cases event with
    | enter n => exact ih (t.enter n)
    | exit n => exact ih (t.exit options n)

/-- Every operation is recorded. -/
theorem operations_run {t : Tracked}
    (h : t.emissions.map (·.operation) = t.state.operations.toList) (events : List WalkEvent) :
    (t.run options events).emissions.map (·.operation) =
      (t.run options events).state.operations.toList := by
  induction events generalizing t with
  | nil => exact h
  | cons event events ih =>
    have hmap (ops : List Operation) (around : List Visit) :
        (ops.map (Emission.mk · around)).map (·.operation) = ops := by
      rw [List.map_map]
      exact List.map_id ops
    cases event with
    | enter n =>
      refine ih (t := t.enter n) ?_
      rw [emissions_enter, List.map_append, hmap, h]
      exact (operations_enter t.state n).symm
    | exit n =>
      refine ih (t := t.exit options n) ?_
      rw [emissions_exit, List.map_append, hmap, h]
      exact (operations_exit t.state n options).symm

/-! ### Over the children of a node -/

variable {options}

/-- A relation that holds across each of the nodes, and so from any one to a later one, holds across
    all of them. -/
theorem run_walkAll_induction {R : Tracked → Tracked → Prop} (hrefl : ∀ t, R t t)
    (htrans : ∀ t₁ t₂ t₃, R t₁ t₂ → R t₂ t₃ → R t₁ t₃) {ns : List Node}
    (h : ∀ n ∈ ns, ∀ t, R t (t.run options n.walk)) (t : Tracked) :
    R t (t.run options (Node.walkAll ns)) := by
  induction ns generalizing t with
  | nil => exact hrefl t
  | cons n ns ih =>
    rw [Node.walkAll, run_append]
    refine htrans _ _ _ (h n (List.mem_cons_self ..) t) ?_
    exact ih (fun m hm => h m (List.mem_cons_of_mem _ hm)) _

/-- An invariant of each of the nodes is one of all of them. -/
theorem run_walkAll_keeps {I : Tracked → Prop} {ns : List Node}
    (h : ∀ n ∈ ns, ∀ t, I t → I (t.run options n.walk)) {t : Tracked} (ht : I t) :
    I (t.run options (Node.walkAll ns)) :=
  run_walkAll_induction (R := fun t t' => I t → I t') (fun _ ht => ht)
    (fun _ _ _ hfirst hnext ht => hnext (hfirst ht)) h t ht

theorem around_runAll_of {ns : List Node}
    (h : ∀ n ∈ ns, ∀ t : Tracked, (t.run options n.walk).around = t.around) (t : Tracked) :
    (t.run options (Node.walkAll ns)).around = t.around :=
  run_walkAll_induction (R := fun t t' => t'.around = t.around) (fun _ => rfl)
    (fun _ _ _ h h' => h'.trans h) h t

theorem around_run (n : Node) (t : Tracked) : (t.run options n.walk).around = t.around := by
  induction n using Node.induction_children generalizing t with
  | node n ih =>
    rw [run_walk]
    exact congrArg List.tail (around_runAll_of ih (t.enter n))

/-- When a node is left, it is the innermost open one. -/
theorem around_of_exit {root n : Node} {before after : List WalkEvent}
    (h : root.walk = before ++ .exit n :: after) (t : Tracked) :
    ∃ number outer, (t.run options before).around = ⟨number, n⟩ :: outer := by
  obtain ⟨earlier, rfl⟩ := Node.exists_enter_of_exit h
  rw [run_append]
  exact ⟨_, _, around_runAll_of (fun n _ t => around_run n t) ((t.run options earlier).enter n)⟩

/-- A relation within the open nodes, which stay open across a node, goes through all of the nodes. -/
theorem run_walkAll_within {I : Tracked → Prop} {R : List Visit → Tracked → Tracked → Prop}
    {ns : List Node} (hrefl : ∀ t, I t → R t.around t t)
    (htrans : ∀ base t₁ t₂ t₃, I t₂ → R base t₁ t₂ → R base t₂ t₃ → R base t₁ t₃)
    (h : ∀ n ∈ ns, ∀ t, I t → I (t.run options n.walk) ∧ R t.around t (t.run options n.walk))
    {t : Tracked} (ht : I t) :
    I (t.run options (Node.walkAll ns)) ∧ R t.around t (t.run options (Node.walkAll ns)) := by
  refine (run_walkAll_induction (R := fun t t' => t'.around = t.around
    ∧ (I t → I t' ∧ R t.around t t')) ?_ ?_ ?_ t).2 ht
  · exact fun t => ⟨rfl, fun ht => ⟨ht, hrefl t ht⟩⟩
  · rintro t₁ t₂ t₃ ⟨haround, hfirst⟩ ⟨haround', hnext⟩
    refine ⟨haround'.trans haround, fun ht₁ => ?_⟩
    obtain ⟨ht₂, hR⟩ := hfirst ht₁
    obtain ⟨ht₃, hR'⟩ := hnext ht₂
    exact ⟨ht₃, htrans _ _ _ _ ht₂ hR (haround ▸ hR')⟩
  · exact fun n hn t => ⟨around_run n t, h n hn t⟩

/-- After the children of a node the innermost start is the one that the node itself recorded. -/
theorem popStart_runAll {n : Node} (hn : opensRange n = true) (ns : List Node) (t : Tracked) :
    ((t.enter n).run options (Node.walkAll ns)).state.popStart.1 = (t.enter n).state.cursor := by
  have hentered : (t.enter n).state.starts = (t.enter n).state.cursor :: t.state.starts :=
    (starts_enter t.state n).trans (if_pos hn)
  have hstarts := (extends_walkAll options ns (t.enter n).state).starts
  rw [← state_run, hentered] at hstarts
  rw [State.popStart, hstarts]

end Tracked

end Builder

/-- The operations recorded are those of the build. -/
theorem operations_track (root : Node) (options : BuildOptions) :
    (Tracked.run options {} root.walk).emissions.map (·.operation) =
      (build root options).operations := by
  rw [Tracked.operations_run options rfl, Tracked.state_run]
  rfl

end DocMark.Edit
