-- SUMMARY: The texts that a build inserts: those of the tree, and one break for each block that has to be set off.
import Mathlib
import DocMark.Proofs.Edit.Acceptance
import DocMark.Proofs.Edit.Origins

/-!
# Inserted texts

A text of the tree is inserted when it is left, as it is. All else that a build inserts are single line
feeds: one where a paragraph or a list item is entered, and one where a heading or a list is entered after
anything was written. Whether anything was written is told by the events so far, without the cursor, so
the breaks of a build can be counted on the tree.
-/
namespace DocMark

open Document Markdown Text

/-! ## Events that write -/

namespace Markdown

namespace WalkEvent

/-- The text that the event inserts for a text of the tree. -/
def content? : WalkEvent → Option String
  | .exit (.text content) => if content.isEmpty then none else some content
  | _ => none

/-- Whether the event inserts something wherever it stands in a walk. -/
def writes : WalkEvent → Bool
  | .enter (.paragraph _) => true
  | .enter (.listItem _) => true
  | .exit (.text content) => !content.isEmpty
  | _ => false

def entersHeadingOrList : WalkEvent → Bool
  | .enter n => n.isHeading || n.isList
  | .exit _ => false

/-- Whether the event inserts a break, where the events before it are those given. -/
def breaksAfter (before : List WalkEvent) (event : WalkEvent) : Bool :=
  event.entered?.any (fun n => n.isParagraph || n.isListItem)
    || (event.entersHeadingOrList && before.any writes)

end WalkEvent

/-- The number of headings and lists that are entered after an event that writes. -/
def lateBlocks (events : List WalkEvent) : Nat :=
  (List.range events.length).countP fun i =>
    events[i]?.any WalkEvent.entersHeadingOrList && (events.take i).any WalkEvent.writes

/-- A heading and a list behind a text, and a heading before it. -/
example :
    lateBlocks (Node.document [.heading 1 "" [.text "a"], .heading 2 "" [], .list false true []]).walk = 2 := by
  decide

theorem lateBlocks_concat (events : List WalkEvent) (event : WalkEvent) :
    lateBlocks (events ++ [event]) =
      lateBlocks events + (event.entersHeadingOrList && events.any WalkEvent.writes).toNat := by
  have hbefore : ∀ i ∈ List.range events.length,
      ((events ++ [event])[i]?.any WalkEvent.entersHeadingOrList
          && ((events ++ [event]).take i).any WalkEvent.writes) =
        (events[i]?.any WalkEvent.entersHeadingOrList && (events.take i).any WalkEvent.writes) := by
    intro i hi
    have hlt : i < events.length := List.mem_range.mp hi
    rw [List.getElem?_append_left hlt, List.take_append_of_le_length hlt.le]
  unfold lateBlocks
  rw [List.length_append, List.length_singleton, List.range_succ, List.countP_append,
    List.countP_congr fun i hi => by rw [hbefore i hi]]
  simp [List.countP_singleton, Bool.toNat]

/-- The number of breaks that the events of a walk insert. -/
def breakCount (events : List WalkEvent) : Nat :=
  (events.filterMap WalkEvent.entered?).countP (·.isParagraph)
    + (events.filterMap WalkEvent.entered?).countP (·.isListItem) + lateBlocks events

theorem breakCount_concat (events : List WalkEvent) (event : WalkEvent) :
    breakCount (events ++ [event]) = breakCount events + (event.breaksAfter events).toNat := by
  rw [breakCount, breakCount, lateBlocks_concat, List.filterMap_append, List.countP_append,
    List.countP_append]
  cases event with
  | exit n =>
    have hnone : [WalkEvent.exit n].filterMap WalkEvent.entered? = [] := rfl
    simp [hnone, WalkEvent.breaksAfter, WalkEvent.entered?, WalkEvent.entersHeadingOrList]
  | enter n =>
    cases n <;>
      simp [WalkEvent.breaksAfter, WalkEvent.entered?, WalkEvent.entersHeadingOrList, Node.isParagraph,
        Node.isListItem, Node.isHeading, Node.isList] <;> omega

/-! ## The text of a tree -/

theorem content_walk (n : Node) : n.walk.filterMap WalkEvent.content? =
    (Node.walkAll n.children).filterMap WalkEvent.content? ++ (WalkEvent.exit n).content?.toList := by
  have henter : (WalkEvent.enter n).content? = none := rfl
  rw [Node.walk_eq, List.filterMap_cons_none henter, List.filterMap_append]
  cases hexit : (WalkEvent.exit n).content? <;> simp [hexit]

theorem plainText_eq (n : Node) : n.plainText =
    Node.plainTextAll n.children ++ String.join (WalkEvent.exit n).content?.toList := by
  cases n with
  | text content =>
    by_cases hempty : content = ""
    · subst hempty
      rfl
    · simp [Node.plainText, Node.plainTextAll, Node.children, WalkEvent.content?, hempty]
  | document cs | heading level anchor cs | paragraph cs | textBlock cs | list ordered tight cs
  | listItem cs | link destination cs | other name cs => exact String.append_empty.symm

theorem join_content_walkAll {ns : List Node}
    (h : ∀ n ∈ ns, String.join (n.walk.filterMap WalkEvent.content?) = n.plainText) :
    String.join ((Node.walkAll ns).filterMap WalkEvent.content?) = Node.plainTextAll ns := by
  induction ns with
  | nil => rfl
  | cons n ns ih =>
    rw [List.forall_mem_cons] at h
    rw [Node.walkAll, List.filterMap_append, String.join_append, h.1, ih h.2, Node.plainTextAll]

/-- What the events of a walk insert for its texts is the text of the tree. -/
theorem join_content_walk (n : Node) :
    String.join (n.walk.filterMap WalkEvent.content?) = n.plainText := by
  induction n using Node.induction_children with
  | node n ih => rw [content_walk, String.join_append, join_content_walkAll ih, plainText_eq]

end Markdown

/-! ## Emissions -/

namespace Edit

open Builder

/-- The operation was emitted for a text of the tree. -/
def Emission.isText (e : Emission) : Bool := e.around.head?.any (·.node.isText)

/-- The texts inserted for the texts of a tree. -/
def contents (emissions : List Emission) : List String :=
  (emissions.filter (·.isText)).filterMap (·.operation.insertedText?)

/-- The texts inserted for all other nodes. -/
def breaks (emissions : List Emission) : List String :=
  (emissions.filter (!·.isText)).filterMap (·.operation.insertedText?)

section Emissions

variable (xs ys : List Emission) (operations : List Operation)

theorem contents_append : contents (xs ++ ys) = contents xs ++ contents ys := by
  rw [contents, List.filter_append, List.filterMap_append]
  rfl

theorem breaks_append : breaks (xs ++ ys) = breaks xs ++ breaks ys := by
  rw [breaks, List.filter_append, List.filterMap_append]
  rfl

variable {around : List Visit}

/-- The operations of one event are all emitted for the same node. -/
theorem contents_map : contents (operations.map (⟨·, around⟩)) =
    if around.head?.any (·.node.isText) then operations.filterMap Operation.insertedText? else [] := by
  unfold contents Emission.isText
  rw [List.filter_map]
  split <;> simp_all [Function.comp_def]

theorem breaks_map : breaks (operations.map (⟨·, around⟩)) =
    if around.head?.any (·.node.isText) then [] else operations.filterMap Operation.insertedText? := by
  unfold breaks Emission.isText
  rw [List.filter_map]
  split <;> simp_all [Function.comp_def]

end Emissions

theorem insertedTexts_insertions (text : String) (cursor : Nat) :
    (insertions text cursor).filterMap Operation.insertedText? = if text.isEmpty then [] else [text] := by
  unfold insertions
  split <;> rfl

/-- A node inserts something when it is left only if it is a text. -/
theorem insertedTexts_leaving (options : BuildOptions) (start cursor : Nat) (n : Node) :
    (leaving options start cursor n).filterMap Operation.insertedText? =
      (WalkEvent.exit n).content?.toList := by
  cases n with
  | text content =>
    rw [leaving, insertedTexts_insertions, WalkEvent.content?]
    split <;> rfl
  | link destination cs =>
    by_cases hempty : cursor - start = 0
    · rw [leaving, if_pos hempty]
      rfl
    · rw [leaving, if_neg hempty]
      rfl
  | document cs | heading level anchor cs | paragraph cs | textBlock cs | list ordered tight cs
  | listItem cs | other name cs => rfl

namespace Builder.Tracked

variable {options : BuildOptions} (t : Tracked)

theorem contents_enter (n : Node) : contents (t.enter n).emissions = contents t.emissions := by
  have hnone : contents ((insertions (breakAt t.state.cursor n) t.state.cursor).map
      (⟨·, (t.enter n).around⟩)) = [] := by
    rw [contents_map]
    cases n <;> rfl
  rw [emissions_enter, contents_append, hnone, List.append_nil]

theorem breaks_enter (n : Node) :
    breaks (t.enter n).emissions =
      breaks t.emissions ++ if breaksAt t.state.cursor n then ["\n"] else [] := by
  have hnew : breaks ((insertions (breakAt t.state.cursor n) t.state.cursor).map
      (⟨·, (t.enter n).around⟩)) = if breaksAt t.state.cursor n then ["\n"] else [] := by
    rw [breaks_map, insertedTexts_insertions, breakAt]
    by_cases htext : n.isText = true
    · obtain ⟨content, rfl⟩ := Node.exists_eq_text htext
      rfl
    · have hhead : ¬(t.enter n).around.head?.any (·.node.isText) = true := htext
      rw [if_neg hhead]
      split <;> rfl
  rw [emissions_enter, breaks_append, hnew]

variable {t} {n : Node} {number : Nat} {outer : List Visit}

theorem contents_exit (haround : t.around = ⟨number, n⟩ :: outer) :
    contents (t.exit options n).emissions = contents t.emissions ++ (WalkEvent.exit n).content?.toList := by
  rw [emissions_exit, contents_append, contents_map, insertedTexts_leaving, haround]
  cases n <;> rfl

theorem breaks_exit (haround : t.around = ⟨number, n⟩ :: outer) :
    breaks (t.exit options n).emissions = breaks t.emissions := by
  rw [emissions_exit, breaks_append, breaks_map, insertedTexts_leaving, haround]
  cases n <;> exact List.append_nil _

/-! ### Whether anything is written -/

/-- A break that depends on the cursor moves a cursor that has moved before, so only the other breaks
    count as writing. -/
theorem moved_enter (hcursor : initialCursor ≤ t.state.cursor) :
    initialCursor < (t.enter n).state.cursor ↔
      initialCursor < t.state.cursor ∨ (WalkEvent.enter n).writes = true := by
  have hentered : (t.enter n).state.cursor =
      t.state.cursor + Utf16.length (breakAt t.state.cursor n) := cursor_enter t.state n
  have hbreak : Utf16.length "\n" = 1 := rfl
  have hnothing : Utf16.length "" = 0 := rfl
  rw [hentered]
  cases n with
  | paragraph cs | listItem cs =>
    refine iff_of_true ?_ (Or.inr rfl)
    rw [breakAt, breaksAt, if_pos rfl, hbreak]
    exact Nat.lt_add_one_of_le hcursor
  | heading level anchor cs | list ordered tight cs =>
    by_cases hmoved : initialCursor < t.state.cursor
    · exact iff_of_true (hmoved.trans_le (Nat.le_add_right ..)) (Or.inl hmoved)
    · simp [breakAt, breaksAt, hmoved, hnothing, WalkEvent.writes]
  | document cs | textBlock cs | text content | link destination cs | other name cs =>
    simp [breakAt, breaksAt, hnothing, WalkEvent.writes]

theorem moved_exit (hcursor : initialCursor ≤ t.state.cursor) :
    initialCursor < (t.exit options n).state.cursor ↔
      initialCursor < t.state.cursor ∨ (WalkEvent.exit n).writes = true := by
  have hleft : (t.exit options n).state.cursor = t.state.cursor + Utf16.length (ownText n) :=
    cursor_exit t.state n options
  rw [hleft]
  cases n with
  | text content =>
    have hlength : 0 < Utf16.length content ↔ content ≠ "" := by
      rw [← Utf16.length_encode, List.length_pos_iff, ne_eq, Utf16.encode_eq_nil_iff,
        String.toList_eq_nil_iff]
    have hwrites : (WalkEvent.exit (.text content)).writes = true ↔ content ≠ "" := by
      simp [WalkEvent.writes]
    rw [hwrites, ← hlength, ownText]
    omega
  | document cs | heading level anchor cs | paragraph cs | textBlock cs | list ordered tight cs
  | listItem cs | link destination cs | other name cs =>
    have hnothing : Utf16.length "" = 0 := rfl
    simp [ownText, hnothing, WalkEvent.writes]

/-- The cursor has moved if and only if an event has written. -/
theorem moved_run (options : BuildOptions) (events : List WalkEvent) :
    initialCursor ≤ (run options {} events).state.cursor
      ∧ (initialCursor < (run options {} events).state.cursor ↔ events.any WalkEvent.writes = true) := by
  induction events using List.reverseRecOn with
  | nil => exact ⟨le_refl _, by simp [run]⟩
  | append_singleton events event ih =>
    obtain ⟨hcursor, hmoved⟩ := ih
    have hany : (events ++ [event]).any WalkEvent.writes = true ↔
        events.any WalkEvent.writes = true ∨ event.writes = true := by simp
    rw [run_append, hany, ← hmoved]
    cases event with
    | enter n =>
      exact ⟨hcursor.trans (Nat.le.intro (cursor_enter _ n).symm), moved_enter hcursor⟩
    | exit n =>
      exact ⟨hcursor.trans (Nat.le.intro (cursor_exit _ n options).symm), moved_exit hcursor⟩

/-- Whether an event breaks is told by the events before it. -/
theorem breaksAt_run (options : BuildOptions) (events : List WalkEvent) (n : Node) :
    breaksAt (run options {} events).state.cursor n = (WalkEvent.enter n).breaksAfter events := by
  have hmoved := (moved_run options events).2
  have hdecide : decide (initialCursor < (run options {} events).state.cursor) =
      events.any WalkEvent.writes := by
    rw [Bool.eq_iff_iff, decide_eq_true_iff, hmoved]
  cases n with
  | heading level anchor cs | list ordered tight cs => exact hdecide
  | _ => rfl

/-! ### A whole walk -/

/-- At every point of a walk, the texts left so far are inserted as they are, and the breaks are those that
    are counted on the events so far. -/
theorem inserted_run (options : BuildOptions) {root : Node} {before after : List WalkEvent}
    (h : root.walk = before ++ after) :
    contents (run options {} before).emissions = before.filterMap WalkEvent.content?
      ∧ breaks (run options {} before).emissions = List.replicate (breakCount before) "\n" := by
  induction before using List.reverseRecOn generalizing after with
  | nil => exact ⟨rfl, rfl⟩
  | append_singleton before event ih =>
    rw [List.append_assoc] at h
    obtain ⟨hcontents, hbreaks⟩ := ih h
    rw [run_append, List.filterMap_append, breakCount_concat, ← hcontents, List.replicate_add, ← hbreaks]
    cases event with
    | enter n =>
      refine ⟨(contents_enter _ n).trans (List.append_nil _).symm, (breaks_enter _ n).trans ?_⟩
      rw [breaksAt_run]
      cases (WalkEvent.enter n).breaksAfter before <;> rfl
    | exit n =>
      obtain ⟨number, outer, haround⟩ : ∃ number outer,
          (run options {} before).around = ⟨number, n⟩ :: outer := around_of_exit h {}
      refine ⟨(contents_exit haround).trans ?_, (breaks_exit haround).trans (List.append_nil _).symm⟩
      cases hcontent : (WalkEvent.exit n).content? <;> simp [hcontent]

end Builder.Tracked

/-- A build inserts the text of the tree, piece by piece as its texts have it, and apart from that single
    line feeds: one for each paragraph and each list item, and one for each heading and each list that is
    entered after something was written. -/
theorem build_insertions (root : Node) (options : BuildOptions) :
    let emissions := (Tracked.run options {} root.walk).emissions
    emissions.map (·.operation) = (build root options).operations
      ∧ String.join (contents emissions) = root.plainText
      ∧ (∀ text ∈ breaks emissions, text = "\n")
      ∧ (breaks emissions).length =
        root.nodes.countP (·.isParagraph) + root.nodes.countP (·.isListItem) + lateBlocks root.walk := by
  obtain ⟨hcontents, hbreaks⟩ := Tracked.inserted_run options (List.append_nil root.walk).symm
  refine ⟨operations_track root options, ?_, ?_, ?_⟩
  · rw [hcontents, join_content_walk]
  · rw [hbreaks]
    exact fun text htext => List.eq_of_mem_replicate htext
  · rw [hbreaks, List.length_replicate, breakCount]
    rfl

/-- A paragraph in an item, behind a heading: two breaks, and a third for the list. -/
example :
    let root := Node.document [.heading 1 "" [.text "a"], .list false true [.listItem [.paragraph [.text "b"]]]]
    let emissions := (Tracked.run {} {} root.walk).emissions
    contents emissions = ["a", "b"] ∧ breaks emissions = ["\n", "\n", "\n"] := by
  decide

end Edit

end DocMark
