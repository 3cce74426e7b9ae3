-- SUMMARY: While a build is carried out on a new document: what entering and leaving a node does to the attributes.
import Mathlib
import DocMark.Proofs.Edit.Appending
import DocMark.Proofs.Edit.Origins

/-!
# Attributes in the middle of a build

A build on a new document takes two kinds of steps. Entering a node, or leaving a text, inserts at the
end of what is written; leaving any other node changes the attributes from where the node began on, and
a node that sets a style or bullets begins a paragraph. Over a whole node, then, nothing that was
written before it changes its attributes.
-/
namespace DocMark

open Document Edit Edit.Builder Markdown Service Text

/-! ## Steps of a build -/

namespace Edit.Builder

/-- What a closing operation makes of attributes, if its list is the one of this number. -/
def restyle (number : Nat) : Node → ParagraphAttributes → ParagraphAttributes
  | .heading level _ _, a => { a with style := .ofLevel level }
  | .paragraph _, a => { a with style := .normalText }
  | .list _ _ _, a => { a with bullet := some (listBullet number) }
  | _, a => a

namespace Tracked

section Steps

variable (start : LocalDocument)

/-- The document that the operations so far make of `start`. -/
def document (t : Tracked) : LocalDocument :=
  match start.carryOut (t.emissions.map (·.operation)) with
  | .ok d => d
  | .error _ => start

def attributes (t : Tracked) : Nat → ParagraphAttributes := (t.document start).attributes

def listsCreated (t : Tracked) : Nat := (t.document start).listsCreated

/-- The operations so far are carried out, and the document holds the written units and a last
    terminator. -/
structure Placed (t : Tracked) : Prop where
  carried : start.carryOut (t.emissions.map (·.operation)) = .ok (t.document start)
  holds : (t.document start).Holds (t.written.map (·.code)) [CodeUnit.lineFeed] t.state.cursor

/-- A step that inserts a text at the cursor, or nothing. -/
structure Inserts (t t' : Tracked) (text : String) (around : List Visit) : Prop where
  placed : t'.Placed start
  written : t'.written = t.written ++ (Utf16.encode text.toList).map (⟨·, around⟩)
  continues : Continues (t.attributes start) (t'.attributes start) t.written.length text
  listsCreated : t'.listsCreated start = t.listsCreated start

/-- A step that changes the attributes from position `first` on and makes some lists. -/
structure Closes (t t' : Tracked) (first : Nat) (f : ParagraphAttributes → ParagraphAttributes)
    (lists : Nat) : Prop where
  placed : t'.Placed start
  written : t'.written = t.written
  restyles : Restyles (t.attributes start) (t'.attributes start) first t.written.length f
  listsCreated : t'.listsCreated start = t.listsCreated start + lists

end Steps

variable {start : LocalDocument} {t t' : Tracked} {n : Node} {options : BuildOptions}

theorem document_eq {d : LocalDocument}
    (h : start.carryOut (t.emissions.map (·.operation)) = .ok d) : t.document start = d := by
  rw [document, h]

theorem Placed.length (h : t.Placed start) : t.state.cursor = t.written.length + 1 := by
  rw [h.holds.cursor, List.length_map]

theorem placed_start (documentId title : String) :
    ({} : Tracked).Placed (.new documentId title) where
  carried := rfl
  holds := ⟨rfl, rfl⟩

section Emitting

variable {around : List Visit} {op : Operation} {d : LocalDocument}

/-- A step that emits nothing leaves all as it is. -/
theorem Placed.idle (h : t.Placed start) (hemissions : t'.emissions = t.emissions)
    (hcursor : t'.state.cursor = t.state.cursor) :
    t'.Placed start ∧ t'.document start = t.document start ∧ t'.written = t.written := by
  have hdocument : t'.document start = t.document start := by rw [document, document, hemissions]
  have hwritten : t'.written = t.written := by rw [written, written, hemissions]
  refine ⟨⟨?_, ?_⟩, hdocument, hwritten⟩
  · rw [hemissions, hdocument]
    exact h.carried
  · rw [hdocument, hwritten, hcursor]
    exact h.holds

/-- A step that emits one operation applies it to the document. -/
theorem Placed.emit (h : t.Placed start) (hemissions : t'.emissions = t.emissions ++ [⟨op, around⟩])
    (hd : (t.document start).apply (.ofOperation op) = .ok d) :
    start.carryOut (t'.emissions.map (·.operation)) = .ok d ∧ t'.document start = d := by
  have hcarried : start.carryOut (t'.emissions.map (·.operation)) = .ok d := by
    rw [hemissions, List.map_append, LocalDocument.carryOut_append, h.carried]
    exact ((t.document start).carryOut_singleton op).trans hd
  exact ⟨hcarried, document_eq hcarried⟩

/-- What is emitted in a step is carried out on the document. -/
theorem Placed.carryOut_step (h : t.Placed start) (h' : t'.Placed start)
    {operations : List Operation}
    (hemissions : t'.emissions = t.emissions ++ operations.map (⟨·, around⟩)) :
    (t.document start).carryOut operations = .ok (t'.document start) := by
  have hcarried := h'.carried
  rw [hemissions, List.map_append, List.map_map, LocalDocument.carryOut_append, h.carried] at hcarried
  have hmap : operations.map ((·.operation) ∘ (Emission.mk · around)) = operations := List.map_id _
  rwa [hmap] at hcarried

theorem written_emit (hemissions : t'.emissions = t.emissions ++ [⟨op, around⟩]) :
    t'.written = Emission.place t.written ⟨op, around⟩ := by
  rw [written, hemissions, List.foldl_append]
  rfl

theorem Placed.inserts (h : t.Placed start) {text : String}
    (hemissions : t'.emissions =
      t.emissions ++ (insertions text t.state.cursor).map (⟨·, around⟩))
    (hcursor : t'.state.cursor = t.state.cursor + Utf16.length text) :
    Inserts start t t' text around := by
  by_cases htext : text = ""
  · subst htext
    obtain ⟨hplaced, hdocument, hwritten⟩ := h.idle (hemissions.trans (List.append_nil _)) hcursor
    refine ⟨hplaced, hwritten.trans (List.append_nil _).symm, ?_, ?_⟩
    · rw [attributes, attributes, hdocument]
      exact continues_nothing _ _
    · rw [listsCreated, listsCreated, hdocument]
  · have hone : insertions text t.state.cursor = [.insertText text t.state.cursor] :=
      if_neg (by simpa using htext)
    rw [hone] at hemissions
    obtain ⟨d, hd, hholds⟩ := h.holds.insertText (by decide) (by decide) htext
    obtain ⟨hcarried, hdocument⟩ := h.emit hemissions hd
    have hwritten : t'.written = t.written ++ (Utf16.encode text.toList).map (⟨·, around⟩) := by
      have hplace : t.state.cursor - 1 = t.written.length := by rw [h.length, Nat.add_sub_cancel]
      rw [written_emit hemissions]
      change t.written.take (t.state.cursor - 1) ++ _ ++ t.written.drop (t.state.cursor - 1) = _
      rw [hplace, List.take_length, List.drop_length, List.append_nil]
    have hcodes : t'.written.map (·.code) = t.written.map (·.code) ++ Utf16.encode text.toList := by
      rw [hwritten, List.map_append, List.map_map]
      exact congrArg _ (List.map_id _)
    refine ⟨⟨hdocument ▸ hcarried, ?_⟩, hwritten, ?_, ?_⟩
    · rw [hdocument, hcodes, hcursor]
      exact hholds
    · have hcontinues := h.holds.continues hd
      rw [List.length_map] at hcontinues
      rw [attributes, attributes, hdocument]
      exact hcontinues
    · rw [listsCreated, listsCreated, hdocument]
      obtain ⟨-, -, -, rfl⟩ := LocalDocument.insertText_eq_ok_iff.mp hd
      rfl

/-- A step that emits one operation, which inserts nothing and restyles what the document holds. -/
theorem Placed.closes_of_emit (h : t.Placed start) (hinserts : op.insertedText? = none)
    (hemissions : t'.emissions = t.emissions ++ [⟨op, around⟩])
    (hcursor : t'.state.cursor = t.state.cursor) {first lists : Nat}
    {f : ParagraphAttributes → ParagraphAttributes}
    (hop : ∃ d, (t.document start).apply (.ofOperation op) = .ok d
      ∧ d.Holds (t.written.map (·.code)) [CodeUnit.lineFeed] t.state.cursor
      ∧ Restyles (t.attributes start) d.attributes first (t.written.map (·.code)).length f
      ∧ d.listsCreated = t.listsCreated start + lists) :
    Closes start t t' first f lists := by
  obtain ⟨d, hd, hholds, hrestyles, hlists⟩ := hop
  obtain ⟨hcarried, hdocument⟩ := h.emit hemissions hd
  have hwritten : t'.written = t.written := by
    rw [written_emit hemissions]
    cases op with
    | insertText text index => cases hinserts
    | setParagraphStyle range name | setBulletList range preset | setLink range url => rfl
  rw [List.length_map] at hrestyles
  refine ⟨⟨hdocument ▸ hcarried, ?_⟩, hwritten, ?_, ?_⟩
  · rw [hdocument, hwritten, hcursor]
    exact hholds
  · rw [show t'.attributes start = d.attributes from congrArg LocalDocument.attributes hdocument]
    exact hrestyles
  · rw [listsCreated, hdocument]
    exact hlists

theorem Placed.closes_of_idle (h : t.Placed start) (hemissions : t'.emissions = t.emissions)
    (hcursor : t'.state.cursor = t.state.cursor) (first : Nat) : Closes start t t' first id 0 := by
  obtain ⟨hplaced, hdocument, hwritten⟩ := h.idle hemissions hcursor
  refine ⟨hplaced, hwritten, ?_, ?_⟩
  · rw [attributes, attributes, hdocument]
    exact restyles_nothing _ _ _
  · rw [listsCreated, listsCreated, hdocument, Nat.add_zero]

end Emitting

/-! ### Entering and leaving -/

/-- Whether a paragraph begins at a position of the written units. -/
def BeginsAt (units : List WrittenUnit) (position : Nat) : Prop :=
  position = 0 ∨ (units[position - 1]?).map (·.code) = some CodeUnit.lineFeed

theorem Placed.enter (h : t.Placed start) (n : Node) :
    Inserts start t (t.enter n) (breakAt t.state.cursor n) (⟨t.entered, n⟩ :: t.around) :=
  h.inserts (emissions_enter t n) (cursor_enter t.state n)

theorem Placed.exit_text (h : t.Placed start) (options : BuildOptions) (content : String) :
    Inserts start t (t.exit options (.text content)) content t.around :=
  h.inserts (emissions_exit options t (.text content)) (cursor_exit t.state (.text content) options)

/-- Leaving a node that inserts no text. -/
theorem Placed.exit (h : t.Placed start) (hpresets : ∀ ordered, options.preset ordered ≠ "")
    (htext : n.isText = false) {first : Nat} (hfirst : first ≤ t.written.length)
    (hstart : opensRange n = true → t.state.popStart.1 = first + 1)
    (hbegins : (n.isStyled || n.isList) = true → BeginsAt t.written first) :
    Closes start t (t.exit options n) first (restyle (t.listsCreated start + 1) n)
      (if n.isList then 1 else 0) := by
  have hemissions := emissions_exit options t n
  have hcursor : (t.exit options n).state.cursor = t.state.cursor := by
    refine (cursor_exit t.state n options).trans ?_
    cases n with
    | text content => cases htext
    | _ => rfl
  have hwithin : first ≤ (t.written.map (·.code)).length := by rwa [List.length_map]
  have hcodes : (n.isStyled || n.isList) = true →
      first = 0 ∨ (t.written.map (·.code))[first - 1]? = some CodeUnit.lineFeed := by
    rw [List.getElem?_map]
    exact hbegins
  cases n with
  | text content => cases htext
  | heading level anchor cs =>
    rw [hstart rfl] at hemissions
    exact h.closes_of_emit rfl hemissions hcursor
      (h.holds.setParagraphStyle hwithin (hcodes rfl) (NamedStyle.isStandard_ofLevel level))
  | paragraph cs =>
    rw [hstart rfl] at hemissions
    have hstandard : NamedStyle.normalText.isStandard = true := rfl
    exact h.closes_of_emit rfl hemissions hcursor
      (h.holds.setParagraphStyle hwithin (hcodes rfl) hstandard)
  | list ordered tight items =>
    rw [hstart rfl] at hemissions
    exact h.closes_of_emit rfl hemissions hcursor
      (h.holds.setBulletList hwithin (hcodes rfl) (hpresets ordered))
  | link destination cs =>
    rw [hstart rfl, leaving] at hemissions
    by_cases hempty : t.state.cursor - (first + 1) = 0
    · rw [if_pos hempty] at hemissions
      exact h.closes_of_idle (hemissions.trans (List.append_nil _)) hcursor first
    · rw [if_neg hempty] at hemissions
      have hsome : first < (t.written.map (·.code)).length := by
        rw [h.length] at hempty
        rw [List.length_map]
        omega
      obtain ⟨d, hd, hholds, hsame, hlists⟩ := h.holds.setLink hsome destination
      refine h.closes_of_emit rfl hemissions hcursor ⟨d, hd, hholds, ?_, hlists⟩
      rw [hsame]
      exact restyles_nothing _ _ _
  | document cs | textBlock cs | listItem cs | other name cs =>
    exact h.closes_of_idle (hemissions.trans (List.append_nil _)) hcursor first

/-! ### Whole nodes -/

/-- From `t` to `t'` units were written that lie in some of the nodes within `base`, and what was
    written before kept its attributes. -/
structure Grows (start : LocalDocument) (base : List Visit) (nodes : List Node) (t t' : Tracked) :
    Prop where
  placed : t'.Placed start
  written : ∃ new, t'.written = t.written ++ new
    ∧ ∀ u ∈ new, ∃ inner, u.around = inner ++ base ∧ ∀ v ∈ inner, v.node ∈ nodes
  attributes : ∀ i < t.written.length, t'.attributes start i = t.attributes start i
  listsCreated : t.listsCreated start ≤ t'.listsCreated start
  entered : t.entered ≤ t'.entered

namespace Grows

variable {base inner : List Visit} {nodes nodes' : List Node} {t₁ t₂ : Tracked}

theorem refl (h : t.Placed start) (base : List Visit) (nodes : List Node) :
    Grows start base nodes t t where
  placed := h
  written := ⟨[], (List.append_nil _).symm, List.forall_mem_nil _⟩
  attributes := fun _ _ => rfl
  listsCreated := le_refl _
  entered := le_refl _

theorem length_le (h : Grows start base nodes t t') : t.written.length ≤ t'.written.length := by
  obtain ⟨new, hwritten, -⟩ := h.written
  rw [hwritten, List.length_append]
  exact Nat.le_add_right ..

/-- What was written stays where it is. -/
theorem getElem?_written (h : Grows start base nodes t t') {i : Nat} (hi : i < t.written.length) :
    t'.written[i]? = t.written[i]? := by
  obtain ⟨new, hwritten, -⟩ := h.written
  rw [hwritten, List.getElem?_append_left hi]

/-- What was not written yet lies within `base`. -/
theorem exists_around (h : Grows start base nodes t t') {i : Nat} (hi : t.written.length ≤ i)
    {u : WrittenUnit} (hu : t'.written[i]? = some u) :
    ∃ inner, u.around = inner ++ base ∧ ∀ v ∈ inner, v.node ∈ nodes := by
  obtain ⟨new, hwritten, hnew⟩ := h.written
  rw [hwritten, List.getElem?_append_right hi] at hu
  exact hnew u (List.mem_of_getElem? hu)

theorem trans (h : Grows start base nodes t t₁) (h' : Grows start base nodes t₁ t₂) :
    Grows start base nodes t t₂ where
  placed := h'.placed
  written := by
    obtain ⟨new, hwritten, hnew⟩ := h.written
    obtain ⟨new', hwritten', hnew'⟩ := h'.written
    refine ⟨new ++ new', ?_, ?_⟩
    · rw [hwritten', hwritten, List.append_assoc]
    · intro u hu
      exact (List.mem_append.mp hu).elim (hnew u) (hnew' u)
  attributes := fun i hi =>
    (h'.attributes i (hi.trans_le h.length_le)).trans (h.attributes i hi)
  listsCreated := h.listsCreated.trans h'.listsCreated
  entered := h.entered.trans h'.entered

theorem mono (h : Grows start base nodes t t') (hnodes : nodes ⊆ nodes') :
    Grows start base nodes' t t' where
  placed := h.placed
  written := by
    obtain ⟨new, hwritten, hnew⟩ := h.written
    refine ⟨new, hwritten, fun u hu => ?_⟩
    obtain ⟨inner, haround, hinner⟩ := hnew u hu
    exact ⟨inner, haround, fun v hv => hnodes (hinner v hv)⟩
  attributes := h.attributes
  listsCreated := h.listsCreated
  entered := h.entered

/-- What lies within a node that lies within `base` lies within `base` as well. -/
theorem within (h : Grows start (inner ++ base) nodes t t') (hinner : ∀ v ∈ inner, v.node ∈ nodes) :
    Grows start base nodes t t' where
  placed := h.placed
  written := by
    obtain ⟨new, hwritten, hnew⟩ := h.written
    refine ⟨new, hwritten, fun u hu => ?_⟩
    obtain ⟨deeper, haround, hdeeper⟩ := hnew u hu
    refine ⟨deeper ++ inner, ?_, ?_⟩
    · rw [haround, List.append_assoc]
    · intro v hv
      exact (List.mem_append.mp hv).elim (hdeeper v) (hinner v)
  attributes := h.attributes
  listsCreated := h.listsCreated
  entered := h.entered

end Grows

theorem Inserts.grows {text : String} (inner : List Visit) {base : List Visit} {nodes : List Node}
    (h : Inserts start t t' text (inner ++ base)) (hinner : ∀ v ∈ inner, v.node ∈ nodes)
    (hentered : t.entered ≤ t'.entered) : Grows start base nodes t t' where
  placed := h.placed
  written := by
    refine ⟨_, h.written, fun u hu => ?_⟩
    obtain ⟨code, -, rfl⟩ := List.mem_map.mp hu
    exact ⟨inner, rfl, hinner⟩
  attributes := h.continues.before
  listsCreated := h.listsCreated.ge
  entered := hentered

/-- Every written unit and the attributes of the paragraph it lies in satisfy `Q`. -/
def Each (start : LocalDocument) (Q : WrittenUnit → ParagraphAttributes → Prop) (t : Tracked) : Prop :=
  ∀ i u, t.written[i]? = some u → Q u (t.attributes start i)

section Each

variable {Q : WrittenUnit → ParagraphAttributes → Prop} {base : List Visit} {nodes : List Node}

theorem Each.of_grows (h : t.Each start Q) (hgrows : Grows start base nodes t t')
    (hnew : ∀ i u, t.written.length ≤ i → t'.written[i]? = some u → Q u (t'.attributes start i)) :
    t'.Each start Q := by
  intro i u hu
  by_cases hi : i < t.written.length
  · rw [hgrows.attributes i hi]
    rw [hgrows.getElem?_written hi] at hu
    exact h i u hu
  · exact hnew i u (Nat.le_of_not_lt hi) hu

theorem Each.of_closes {first lists : Nat} {f : ParagraphAttributes → ParagraphAttributes}
    (h : t.Each start Q) (hcloses : Closes start t t' first f lists)
    (hf : ∀ u a, Q u a → Q u (f a)) : t'.Each start Q := by
  intro i u hu
  rw [hcloses.written] at hu
  have hlength : i < t.written.length := (List.getElem?_eq_some_iff.mp hu).1
  by_cases hi : i < first
  · rw [hcloses.restyles.before i hi]
    exact h i u hu
  · rw [hcloses.restyles.within i (Nat.le_of_not_lt hi) hlength]
    exact hf u _ (h i u hu)

end Each

theorem BeginsAt.of_grows {base : List Visit} {nodes : List Node} {position : Nat}
    (h : BeginsAt t.written position) (hposition : position ≤ t.written.length)
    (hgrows : Grows start base nodes t t') : BeginsAt t'.written position := by
  rcases h with hzero | hline
  · exact Or.inl hzero
  · by_cases hzero : position = 0
    · exact Or.inl hzero
    · refine Or.inr ?_
      rw [hgrows.getElem?_written (by omega)]
      exact hline

theorem Placed.grows_enter (h : t.Placed start) (n : Node) :
    Grows start t.around [n] t (t.enter n) := by
  refine (h.enter n).grows [⟨t.entered, n⟩] (fun v hv => ?_) (Nat.le_succ _)
  cases List.mem_singleton.mp hv
  exact List.mem_singleton.mpr rfl

/-- Leaving a text inserts it, within the nodes around the text. -/
theorem Placed.grows_exit_text (h : t.Placed start) (options : BuildOptions) (content : String)
    {number : Nat} {base : List Visit} (haround : t.around = ⟨number, .text content⟩ :: base) :
    Grows start base [.text content] t (t.exit options (.text content)) := by
  have hinserts := h.exit_text options content
  rw [haround] at hinserts
  refine hinserts.grows [⟨number, .text content⟩] (fun v hv => ?_) (le_refl _)
  cases List.mem_singleton.mp hv
  exact List.mem_singleton.mpr rfl

/-- Only where nothing is written yet a node that styles what it holds needs no break. -/
theorem Placed.written_eq_nil (h : t.Placed start) (hn : (n.isStyled || n.isList) = true)
    (hbreaks : breaksAt t.state.cursor n = false) : t.written = [] := by
  have hcursor : ¬initialCursor < t.state.cursor := by
    cases n with
    | heading level anchor cs | list ordered tight items => simpa [breaksAt] using hbreaks
    | paragraph cs => cases hbreaks
    | _ => cases hn
  rw [h.length, initialCursor] at hcursor
  exact List.eq_nil_of_length_eq_zero (by omega)

/-- A node that is set off by a break has a paragraph of its own. -/
theorem Placed.beginsAt_of_breaks (h : t.Placed start) (hbreaks : breaksAt t.state.cursor n = true) :
    BeginsAt (t.enter n).written (t.enter n).written.length := by
  have hwritten := (h.enter n).written
  rw [breakAt, if_pos hbreaks] at hwritten
  right
  rw [hwritten]
  simp [Utf16.encode, Utf16.encodeChar, CodeUnit.lineFeed]

/-- So has a node that will style what it holds. -/
theorem Placed.beginsAt_enter (h : t.Placed start) (hn : (n.isStyled || n.isList) = true) :
    BeginsAt (t.enter n).written (t.enter n).written.length := by
  cases hbreaks : breaksAt t.state.cursor n with
  | true => exact h.beginsAt_of_breaks hbreaks
  | false =>
    have hwritten := (h.enter n).written
    rw [breakAt, hbreaks, h.written_eq_nil hn hbreaks] at hwritten
    exact Or.inl (congrArg List.length hwritten)

theorem grows_walkAll {ns : List Node} (h : ∀ n ∈ ns, ∀ {t : Tracked}, t.Placed start →
      Grows start t.around n.nodes t (t.run options n.walk)) (ht : t.Placed start) :
    Grows start t.around (Node.nodesAll ns) t (t.run options (Node.walkAll ns)) := by
  refine (run_walkAll_within (R := fun base => Grows start base (Node.nodesAll ns)) ?_ ?_ ?_ ht).2
  · exact fun t ht => Grows.refl ht _ _
  · exact fun _ _ _ _ _ hfirst hnext => hfirst.trans hnext
  · intro n hn t ht
    have hgrows := h n hn ht
    exact ⟨hgrows.placed, hgrows.mono (Node.nodes_subset_nodesAll hn)⟩

variable (hpresets : ∀ ordered, options.preset ordered ≠ "")

include hpresets

/-- Leaving a node after its children closes the range that it opened. -/
theorem Placed.leave (h : t.Placed start) (htext : n.isText = false) {nodes : List Node}
    (hchildren : Grows start (t.enter n).around nodes (t.enter n)
      ((t.enter n).run options (Node.walkAll n.children))) :
    Closes start ((t.enter n).run options (Node.walkAll n.children)) (t.run options n.walk)
      (t.enter n).written.length
      (restyle (((t.enter n).run options (Node.walkAll n.children)).listsCreated start + 1) n)
      (if n.isList then 1 else 0) := by
  rw [run_walk]
  refine hchildren.placed.exit hpresets htext hchildren.length_le ?_ ?_
  · intro hopens
    rw [popStart_runAll hopens]
    exact (h.enter n).placed.length
  · intro hn
    exact (h.beginsAt_enter hn).of_grows (le_refl _) hchildren

/-- Over a whole node nothing that was written before it changes. -/
theorem Placed.run (h : t.Placed start) (n : Node) :
    Grows start t.around n.nodes t (t.run options n.walk) := by
  induction n using Node.induction_children generalizing t with
  | node n ih =>
    have hself : [n] ⊆ n.nodes := fun m hm => List.mem_singleton.mp hm ▸ Node.mem_nodes_self n
    have hvisit : ∀ v ∈ [Visit.mk t.entered n], v.node ∈ n.nodes := fun v hv =>
      List.mem_singleton.mp hv ▸ Node.mem_nodes_self n
    have henter : Grows start t.around n.nodes t (t.enter n) := (h.grows_enter n).mono hself
    have hchildren := grows_walkAll ih henter.placed
    have hinside : Grows start t.around n.nodes t
        ((t.enter n).run options (Node.walkAll n.children)) :=
      henter.trans ((hchildren.mono (Node.nodesAll_children_subset n)).within hvisit)
    have hentered : ((t.enter n).run options (Node.walkAll n.children)).entered =
        (t.run options n.walk).entered := by
      rw [run_walk]
      rfl
    by_cases htext : n.isText = true
    · obtain ⟨content, rfl⟩ := Node.exists_eq_text htext
      exact henter.trans ((henter.placed.grows_exit_text options content rfl).mono hself)
    · have hleave := h.leave hpresets (by simpa using htext) hchildren
      refine ⟨hleave.placed, ?_, fun i hi => ?_, ?_, hentered ▸ hinside.entered⟩
      · rw [hleave.written]
        exact hinside.written
      · exact (hleave.restyles.before i (hi.trans_le henter.length_le)).trans
          (hinside.attributes i hi)
      · rw [hleave.listsCreated]
        exact hinside.listsCreated.trans (Nat.le_add_right ..)

theorem Placed.runAll (h : t.Placed start) (ns : List Node) :
    Grows start t.around (Node.nodesAll ns) t (t.run options (Node.walkAll ns)) :=
  grows_walkAll (fun n _ _ ht => ht.run hpresets n) h

theorem Placed.entered_lt (h : t.Placed start) (n : Node) : t.entered < (t.run options n.walk).entered := by
  have hchildren := ((h.enter n).placed.runAll hpresets n.children).entered
  rw [run_walk]
  exact hchildren

/-- A text that was written for a node lies within the node, after its break, and so within the range
    that the node closes. -/
theorem Placed.exists_inner (h : t.Placed start) (htext : n.isText = false) {i : Nat}
    (hi : t.written.length ≤ i) {u : WrittenUnit}
    (hu : (t.run options n.walk).written[i]? = some u) (hisText : u.isText = true) :
    ∃ inner, u.around = inner ++ ⟨t.entered, n⟩ :: t.around
      ∧ (∀ v ∈ inner, v.node ∈ Node.nodesAll n.children)
      ∧ (t.enter n).written.length ≤ i
      ∧ (t.run options n.walk).attributes start i =
        restyle (((t.enter n).run options (Node.walkAll n.children)).listsCreated start + 1) n
          (((t.enter n).run options (Node.walkAll n.children)).attributes start i) := by
  have henter := h.enter n
  have hinside := henter.placed.runAll hpresets n.children
  have hleave := h.leave hpresets htext hinside
  rw [hleave.written] at hu
  by_cases hbreak : i < (t.enter n).written.length
  · -- The unit is the break, which is no text.
    rw [hinside.getElem?_written hbreak, henter.written, List.getElem?_append_right hi] at hu
    obtain ⟨code, -, rfl⟩ := List.mem_map.mp (List.mem_of_getElem? hu)
    change n.isText = true at hisText
    rw [htext] at hisText
    cases hisText
  · have hfirst := Nat.le_of_not_lt hbreak
    obtain ⟨inner, haround, hinner⟩ := hinside.exists_around hfirst hu
    exact ⟨inner, haround, hinner, hfirst,
      hleave.restyles.within i hfirst (List.getElem?_eq_some_iff.mp hu).1⟩

end Tracked

end Edit.Builder

/-! ## Whole builds -/

section Builds

variable {options : BuildOptions} (hpresets : ∀ ordered, options.preset ordered ≠ "")

include hpresets

/-- A build is carried out on a new document, where the written units then stand. -/
theorem placed_build (documentId title : String) (root : Node) :
    (Tracked.run options {} root.walk).Placed (.new documentId title) :=
  ((Tracked.placed_start documentId title).run hpresets root).placed

theorem submit_build_document (documentId title : String) (root : Node) (policy : Policy)
    {token : Cancellation} (ht : token.NeverCancelled) :
    ∃ report s, (LocalDocument.new documentId title).submit documentId (build root options).operations
        policy token = (.ok report, s)
      ∧ s.document.units =
        ((Tracked.run options {} root.walk).document (.new documentId title)).units := by
  have hcarried := (placed_build hpresets documentId title root).carried
  rw [operations_track] at hcarried
  obtain ⟨report, s, hsubmit, -, hdocument⟩ := LocalDocument.submit_of_ok policy ht hcarried
  exact ⟨report, s, hsubmit, by rw [hdocument]⟩

theorem submit_build_units (documentId title : String) (root : Node) (policy : Policy)
    {token : Cancellation} (ht : token.NeverCancelled) :
    ∃ report s, (LocalDocument.new documentId title).submit documentId (build root options).operations
        policy token = (.ok report, s)
      ∧ s.document.codes = (writtenUnits root options).map (·.code) ++ [CodeUnit.lineFeed]
      ∧ s.document.attributes =
        (Tracked.run options {} root.walk).attributes (.new documentId title) := by
  obtain ⟨report, s, hsubmit, hunits⟩ :=
    submit_build_document hpresets documentId title root policy ht
  refine ⟨report, s, hsubmit, ?_, ?_⟩
  · rw [LocalDocument.codes, hunits]
    exact (placed_build hpresets documentId title root).holds.codes
  · funext position
    rw [LocalDocument.attributes, hunits]
    rfl

end Builds

end DocMark
