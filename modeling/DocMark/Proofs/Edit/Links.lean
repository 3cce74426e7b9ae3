-- SUMMARY: Every unit carries the link of the outermost link node around it, and no other unit carries one.
import Mathlib
import DocMark.Proofs.Edit.Placement

/-!
# Where links land

A link is set when its node is left, on all units that were inserted since it was entered. The links
of inner nodes are set first and then overwritten, so that in the end a unit has the destination of the
outermost link around it. Nothing else sets links: inserted units have none, styles and bullets leave
them alone, and the last terminator stands after every range that a link covers.
-/
namespace DocMark

open Document Edit Edit.Builder Markdown Service Text

/-! ## Links of a document -/

/-- The unit as part of a link. -/
def Service.CodeUnit.linkTo (url : String) (u : CodeUnit) : CodeUnit := { u with link := some url }

namespace Service.LocalDocument

variable {d d' : LocalDocument}

/-- The links of the units, in order. -/
def links (d : LocalDocument) : List (Option String) := d.units.map (·.link)

theorem links_of_mapParagraphs {range : Range} {first last : Nat}
    (hcheck : d.checkRange range = .ok (first, last)) (f : ParagraphAttributes → ParagraphAttributes)
    (hd : d'.units = mapParagraphs first last f d.units) : d'.links = d.links := by
  have hordered : first ≤ last := by
    obtain ⟨hrange, rfl, rfl⟩ := checkRange_eq_ok_iff.mp hcheck
    omega
  rw [links, hd]
  refine map_mapBetween (fun u => ?_) ((terminatorFrom_mono _ hordered).trans (Nat.le_succ _)) _
  split <;> rfl

/-- Styles and bullets are no links. -/
theorem links_of_style {op : Operation} (hinserts : op.insertedText? = none)
    (hlink : ∀ range url, op ≠ .setLink range url) (hd : d.apply (.ofOperation op) = .ok d') :
    d'.links = d.links := by
  cases op with
  | insertText text index => cases hinserts
  | setParagraphStyle range name =>
    obtain ⟨named, first, last, -, hcheck, rfl⟩ := updateParagraphStyle_eq_ok_iff.mp hd
    exact links_of_mapParagraphs hcheck ({ · with style := named }) rfl
  | setBulletList range preset =>
    obtain ⟨-, first, last, hcheck, rfl⟩ := createParagraphBullets_eq_ok_iff.mp hd
    exact links_of_mapParagraphs hcheck ({ · with bullet := some (listBullet (d.listsCreated + 1)) }) rfl
  | setLink range url => exact absurd rfl (hlink range url)

namespace Holds

variable {written : List UInt16} {cursor : Nat} {ls : List (Option String)}

/-- Inserted units have no link. -/
theorem links_insertText (h : d.Holds written [CodeUnit.lineFeed] cursor)
    (hlinks : d.links = ls ++ [none]) {text : String}
    (hd : d.apply (.insertText text cursor) = .ok d') :
    d'.links = ls ++ (Utf16.encode text.toList).map (fun _ => none) ++ [none] := by
  obtain ⟨pre, t, hunits, rfl, ht⟩ := h.exists_units
  obtain ⟨-, -, -, rfl⟩ := insertText_eq_ok_iff.mp hd
  have hcursor : cursor - 1 = pre.length := by
    rw [h.cursor, List.length_map, Nat.add_sub_cancel]
  rw [links, hunits, List.map_append] at hlinks
  obtain ⟨hpre, hlast⟩ := List.append_inj' hlinks rfl
  have hlink : t.link = none := List.singleton_inj.mp hlast
  have hreset : (if text.toList.contains '\n' then { t with paragraph := some {} } else t).link =
      none := by
    split <;> exact hlink
  rw [links, hunits, hcursor, insertedAt_concat text pre ht, List.map_append, List.map_append, hpre,
    List.map_singleton, hreset, insertedUnits, List.map_map]
  rfl

/-- A link covers all units from its first one up to the last terminator. -/
theorem links_setLink (h : d.Holds written [CodeUnit.lineFeed] cursor)
    {inside : List (Option String)} (hlinks : d.links = ls ++ (inside ++ [none]))
    (hinside : inside ≠ []) {url : String}
    (hd : d.apply (.ofOperation (.setLink ⟨ls.length + 1, cursor - 1⟩ url)) = .ok d') :
    d'.links = ls ++ (inside.map (fun _ => some url) ++ [none]) := by
  obtain ⟨pre, rest, hunits, rfl, hrest⟩ := List.map_eq_append_iff.mp hlinks
  obtain ⟨mid, post, rfl, rfl, hpost⟩ := List.map_eq_append_iff.mp hrest
  have hmid : 0 < mid.length := List.length_pos_iff.mpr fun hnil => hinside (by rw [hnil, List.map_nil])
  have hone : post.length = 1 := by simpa using congrArg List.length hpost
  have hend : d.endIndex = pre.length + mid.length + 1 := by
    rw [LocalDocument.endIndex, hunits, List.length_append, List.length_append, hone, Nat.add_assoc]
  have hcursor : cursor = pre.length + mid.length + 1 := by
    rw [← hend, h.endIndex_eq, h.cursor]
    rfl
  rw [List.length_map] at hd
  have hcheck : d.checkRange (StyleRange.mk (pre.length + 1) (cursor - 1)).toRange =
      .ok (pre.length, cursor - 2) :=
    checkRange_toRange (Nat.le_add_left ..) (by dsimp only; omega) (by dsimp only; omega)
  obtain ⟨first, last, hplaces, rfl⟩ := updateTextStyle_eq_ok_iff.mp hd
  cases hplaces.symm.trans hcheck
  rw [if_pos (by decide)]
  change (mapBetween pre.length (cursor - 2) (.linkTo url) d.units).map (·.link) = _
  have hlast : cursor - 2 + 1 = pre.length + mid.length := by omega
  rw [hunits, mapBetween_append (CodeUnit.linkTo url) pre mid post rfl hlast, List.map_append,
    List.map_append, List.map_map, List.map_map, hpost]
  rfl

end Holds

end Service.LocalDocument

/-! ## Links of a tree -/

namespace Markdown.Node

/-- Where a link leads; other nodes lead nowhere. -/
def destination? : Node → Option String
  | .link destination _ => some destination
  | _ => none

end Markdown.Node

namespace Edit

def Visit.destination? (v : Visit) : Option String := v.node.destination?

/-- The destination of the outermost link among nodes, of which the innermost comes first. -/
def outermostDestination? (around : List Visit) : Option String :=
  (around.filterMap Visit.destination?).getLast?

/-- The destination of the outermost link around the unit. -/
def WrittenUnit.destination? (u : WrittenUnit) : Option String := outermostDestination? u.around

theorem outermostDestination?_concat_of_none {v : Visit} (h : v.destination? = none)
    (inner : List Visit) :
    outermostDestination? (inner ++ [v]) = outermostDestination? inner := by
  rw [outermostDestination?, List.filterMap_append, List.filterMap_cons_none h]
  exact congrArg _ (List.append_nil _)

theorem outermostDestination?_concat_of_some {v : Visit} {url : String}
    (h : v.destination? = some url) (inner : List Visit) :
    outermostDestination? (inner ++ [v]) = some url := by
  rw [outermostDestination?, List.filterMap_append, List.filterMap_cons_some h]
  exact List.getLast?_concat

/-- A unit that lies within `base` has this link, as far as the nodes inside of `base` say. -/
def LinkedWithin (base : List Visit) (u : WrittenUnit) (link : Option String) : Prop :=
  ∃ inner, u.around = inner ++ base ∧ link = outermostDestination? inner

theorem LinkedWithin.of_cons {base : List Visit} {v : Visit} (hv : v.destination? = none)
    {u : WrittenUnit} {link : Option String} (h : LinkedWithin (v :: base) u link) :
    LinkedWithin base u link := by
  obtain ⟨inner, haround, rfl⟩ := h
  refine ⟨inner ++ [v], ?_, (outermostDestination?_concat_of_none hv inner).symm⟩
  rw [haround, List.append_assoc]
  rfl

/-- A link that is left takes over all that lies in it. -/
theorem LinkedWithin.of_link {base : List Visit} {v : Visit} {url : String}
    (hv : v.destination? = some url) {u : WrittenUnit} {link : Option String}
    (h : LinkedWithin (v :: base) u link) : LinkedWithin base u (some url) := by
  obtain ⟨inner, haround, -⟩ := h
  refine ⟨inner ++ [v], ?_, (outermostDestination?_concat_of_some hv inner).symm⟩
  rw [haround, List.append_assoc]
  rfl

theorem eq_map_destination? {units : List WrittenUnit} {links : List (Option String)}
    (h : List.Forall₂ (LinkedWithin []) units links) : links = units.map (·.destination?) := by
  induction h with
  | nil => rfl
  | cons hu _ ih =>
    obtain ⟨inner, haround, rfl⟩ := hu
    rw [ih, List.map_cons, WrittenUnit.destination?, haround, List.append_nil]

end Edit

/-! ## Steps of a build -/

namespace Edit.Builder.Tracked

variable {start : LocalDocument} {t t' t₁ t₂ : Tracked} {options : BuildOptions} {n : Node}
  {base : List Visit}

/-- The written units have these links, and the last terminator has none. -/
def Linked (start : LocalDocument) (t : Tracked) (links : List (Option String)) : Prop :=
  (t.document start).links = links ++ [none]

/-- From `t` to `t'` units were written within `base`, and have the links of the nodes inside of it;
    what was written before kept its links. -/
def Links (start : LocalDocument) (base : List Visit) (t t' : Tracked) : Prop :=
  ∀ links, t.Linked start links → ∃ units new, t'.written = t.written ++ units
    ∧ List.Forall₂ (LinkedWithin base) units new ∧ t'.Linked start (links ++ new)

theorem Links.trans (h : Links start base t t₁) (h' : Links start base t₁ t₂) :
    Links start base t t₂ := by
  intro links hlinks
  obtain ⟨units, new, hwritten, hnew, hlinked⟩ := h links hlinks
  obtain ⟨units', new', hwritten', hnew', hlinked'⟩ := h' _ hlinked
  refine ⟨units ++ units', new ++ new', ?_, List.rel_append hnew hnew', ?_⟩
  · rw [hwritten', hwritten, List.append_assoc]
  · rwa [List.append_assoc] at hlinked'

theorem Links.of_cons {v : Visit} (hv : v.destination? = none)
    (h : Links start (v :: base) t t') : Links start base t t' := by
  intro links hlinks
  obtain ⟨units, new, hwritten, hnew, hlinked⟩ := h links hlinks
  exact ⟨units, new, hwritten, hnew.imp fun _ _ => LinkedWithin.of_cons hv, hlinked⟩

theorem Links.of_same (hwritten : t'.written = t.written)
    (hlinks : (t'.document start).links = (t.document start).links) (base : List Visit) :
    Links start base t t' := by
  intro links hlinked
  refine ⟨[], [], ?_, .nil, ?_⟩
  · rw [hwritten, List.append_nil]
  · rw [Linked, hlinks, List.append_nil]
    exact hlinked

theorem Linked.length_eq {links : List (Option String)} (h : t.Placed start)
    (hlinks : t.Linked start links) : links.length = t.written.length := by
  have hcodes := congrArg List.length h.holds.codes
  have hlinked := congrArg List.length hlinks
  simp only [LocalDocument.codes, LocalDocument.links, List.length_map, List.length_append,
    List.length_singleton] at hcodes hlinked
  omega

theorem Placed.links_inserts (h : t.Placed start) {text : String} (hinserts : Inserts start t t' text base)
    (hemissions : t'.emissions = t.emissions ++ (insertions text t.state.cursor).map (⟨·, base⟩)) :
    Links start base t t' := by
  have hcarried := h.carryOut_step hinserts.placed hemissions
  by_cases htext : text = ""
  · subst htext
    have hsame : t.document start = t'.document start := Except.ok.inj hcarried
    exact Links.of_same (hinserts.written.trans (List.append_nil _)) (by rw [hsame]) base
  · rw [insertions, if_neg (by simpa using htext), LocalDocument.carryOut_singleton] at hcarried
    intro links hlinks
    refine ⟨_, (Utf16.encode text.toList).map fun _ => none, hinserts.written, ?_,
      h.holds.links_insertText hlinks hcarried⟩
    rw [List.forall₂_map_left_iff, List.forall₂_map_right_iff]
    exact List.forall₂_same.mpr fun _ _ => ⟨[], rfl, rfl⟩

/-- Leaving a node that is neither a text nor a link changes no links. -/
theorem Placed.links_exit (h : t.Placed start) (htext : n.isText = false)
    (hlink : n.destination? = none) (hexit : (t.exit options n).Placed start)
    (hwritten : (t.exit options n).written = t.written) (base : List Visit) :
    Links start base t (t.exit options n) := by
  have hcarried := h.carryOut_step hexit (emissions_exit options t n)
  refine Links.of_same hwritten ?_ base
  cases n with
  | heading level anchor cs | paragraph cs | list ordered tight items =>
    rw [leaving, LocalDocument.carryOut_singleton] at hcarried
    exact LocalDocument.links_of_style rfl (fun _ _ heq => by cases heq) hcarried
  | document cs | textBlock cs | listItem cs | other name cs =>
    exact congrArg LocalDocument.links (Except.ok.inj hcarried).symm
  | text content => cases htext
  | link destination cs => cases hlink

/-- A link that is left covers all that was written since it was entered. -/
theorem Linked.exit_link {links inside : List (Option String)} {destination : String} {cs : List Node}
    (hlinks : t.Linked start (links ++ inside)) (h : t.Placed start)
    (hstart : t.state.popStart.1 = links.length + 1)
    (hexit : (t.exit options (.link destination cs)).Placed start) :
    (t.exit options (.link destination cs)).Linked start
      (links ++ inside.map fun _ => some destination) := by
  have hcarried := h.carryOut_step hexit (emissions_exit options t (.link destination cs))
  have hcursor : t.state.cursor = links.length + inside.length + 1 := by
    rw [h.length, ← hlinks.length_eq h, List.length_append]
  rw [leaving, hstart] at hcarried
  by_cases hnil : inside = []
  · subst hnil
    rw [if_pos (by simp [hcursor])] at hcarried
    rw [Linked, ← Except.ok.inj hcarried]
    exact hlinks
  · have hsome : ¬t.state.cursor - (links.length + 1) = 0 := by
      have hpos := List.length_pos_iff.mpr hnil
      omega
    rw [if_neg hsome, LocalDocument.carryOut_singleton] at hcarried
    have hlinked := h.holds.links_setLink (hlinks.trans (List.append_assoc ..)) hnil hcarried
    exact hlinked.trans (List.append_assoc ..).symm

theorem links_walkAll {ns : List Node} (h : ∀ n ∈ ns, ∀ {t : Tracked}, t.Placed start →
      (t.run options n.walk).Placed start ∧ Links start t.around t (t.run options n.walk))
    (ht : t.Placed start) : Links start t.around t (t.run options (Node.walkAll ns)) := by
  refine (run_walkAll_within (R := Links start) ?_ ?_ ?_ ht).2
  · exact fun t _ => Links.of_same rfl rfl _
  · exact fun _ _ _ _ _ hfirst hnext => hfirst.trans hnext
  · exact fun n hn t ht => h n hn ht

section Nodes

variable (hpresets : ∀ ordered, options.preset ordered ≠ "")

include hpresets

/-- A link that is left passes its destination to all that lies in it. -/
theorem Placed.links_leave (h : t.Placed start) {url : String} (hurl : n.destination? = some url)
    (hchildren : Links start (⟨t.entered, n⟩ :: t.around) t
      ((t.enter n).run options (Node.walkAll n.children))) :
    Links start t.around t (t.run options n.walk) := by
  cases n with
  | link destination cs =>
    intro links hlinks
    obtain ⟨units, new, hwritten, hnew, hlinked⟩ := hchildren links hlinks
    have hinside := (h.enter (.link destination cs)).placed.runAll hpresets
      (Node.link destination cs).children
    have hleave := h.leave hpresets rfl hinside
    have hstart : ((t.enter (.link destination cs)).run options
        (Node.walkAll (Node.link destination cs).children)).state.popStart.1 = links.length + 1 := by
      rw [popStart_runAll rfl, hlinks.length_eq h, ← h.length]
      exact cursor_enter t.state (.link destination cs)
    refine ⟨units, _, hleave.written.trans hwritten,
      List.forall₂_map_right_iff.mpr (hnew.imp fun _ _ => LinkedWithin.of_link rfl), ?_⟩
    rw [run_walk] at hleave ⊢
    exact hlinked.exit_link hinside.placed hstart hleave.placed
  | _ => cases hurl

/-- Over a whole node, what is written gets the links of the nodes that it lies in. -/
theorem Placed.links_run (h : t.Placed start) (n : Node) :
    Links start t.around t (t.run options n.walk) := by
  induction n using Node.induction_children generalizing t with
  | node n ih =>
    have henter := h.enter n
    have hinside := henter.placed.runAll hpresets n.children
    have hchildren : Links start (⟨t.entered, n⟩ :: t.around) t
        ((t.enter n).run options (Node.walkAll n.children)) :=
      (h.links_inserts henter (emissions_enter t n)).trans
        (links_walkAll (fun m hm t ht => ⟨(ht.run hpresets m).placed, ih m hm ht⟩) henter.placed)
    by_cases htext : n.isText = true
    · obtain ⟨content, rfl⟩ := Node.exists_eq_text htext
      exact (hchildren.trans (hinside.placed.links_inserts (hinside.placed.exit_text options content)
        (emissions_exit options _ _))).of_cons rfl
    · have htext' : n.isText = false := by simpa using htext
      have hleave := h.leave hpresets htext' hinside
      cases hdestination : n.destination? with
      | none =>
        rw [run_walk] at hleave ⊢
        have hexit := hinside.placed.links_exit htext' hdestination hleave.placed hleave.written
        exact (hchildren.trans (hexit _)).of_cons (v := ⟨t.entered, n⟩) hdestination
      | some url => exact h.links_leave hpresets hdestination hchildren

end Nodes

end Edit.Builder.Tracked

/-- Submitting a build to a new document gives every inserted unit the destination of the outermost
    link around it, if there is one, and no other unit a link. -/
theorem Service.LocalDocument.submit_build_links (documentId title : String) (root : Node)
    {options : BuildOptions} (hpresets : ∀ ordered, options.preset ordered ≠ "") (policy : Policy)
    {token : Cancellation} (ht : token.NeverCancelled) :
    ∃ report s, (LocalDocument.new documentId title).submit documentId (build root options).operations
        policy token = (.ok report, s)
      ∧ s.document.codes = (writtenUnits root options).map (·.code) ++ [CodeUnit.lineFeed]
      ∧ s.document.links = (writtenUnits root options).map (·.destination?) ++ [none] := by
  obtain ⟨report, s, hsubmit, hunits⟩ := submit_build_document hpresets documentId title root policy ht
  have hstart := Tracked.placed_start documentId title
  obtain ⟨units, new, hwritten, hnew, hlinked⟩ := hstart.links_run hpresets root [] rfl
  have hunitsWritten : writtenUnits root options = units := hwritten
  refine ⟨report, s, hsubmit, ?_, ?_⟩
  · rw [LocalDocument.codes, hunits]
    exact (placed_build hpresets documentId title root).holds.codes
  · rw [LocalDocument.links, hunits, hunitsWritten, ← eq_map_destination? hnew]
    exact hlinked

/-- A link around a paragraph with another link in it, an empty one, and one after plain text. -/
theorem Service.LocalDocument.submit_build_links_nested :
    let root := Node.document [.link "outer" [.paragraph [.text "a", .link "inner" [.text "😀"]]],
      .link "empty" [], .paragraph [.text "b", .link "last" [.text "c"]]]
    ∃ report s, (LocalDocument.new "doc" "T").submit "doc" (build root {}).operations (.sequential 5) {} =
        (.ok report, s)
      ∧ s.document.text = "\na😀\nbc\n"
      ∧ s.document.links = List.replicate 4 (some "outer") ++ [none, none, some "last", none] := by
  intro root
  obtain ⟨report, s, hsubmit, hcodes, hlinks⟩ := submit_build_links "doc" "T" root
    (show ∀ ordered, BuildOptions.preset {} ordered ≠ "" by decide) (.sequential 5)
    Cancellation.neverCancelled_default
  have hwritten : (writtenUnits root {}).map (·.code) = Utf16.encode "\na😀\nbc".toList := by decide
  refine ⟨report, s, hsubmit, ?_, ?_⟩
  · rw [text, hcodes, hwritten]
    decide
  · rw [hlinks]
    decide

end DocMark
