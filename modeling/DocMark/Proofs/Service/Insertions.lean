-- SUMMARY: What an inserted text makes of the paragraph it goes into, line by line.
import Mathlib
import DocMark.Proofs.Service.Attributes
import DocMark.Proofs.Service.StoredParagraphs

/-!
# Insertions into a paragraph

Inserted lines break a paragraph into as many paragraphs as there are lines. The first line continues
what stood before the insertion, the last one is continued by what stood behind it and keeps the old
terminator. All of them have the attributes of the paragraph, except that a last paragraph with nothing
of the old body in it starts afresh.
-/
namespace DocMark.Service

open Text

/-- The units of an inserted line. -/
def CodeUnit.ofLine (line : List Char) : List CodeUnit := (Utf16.encode line).map .plain

namespace StoredParagraph

/-- The bodies that lines make behind `pre`, which the first of them continues. -/
def bodiesBehind (pre : List CodeUnit) (lines : List (List Char)) : List (List CodeUnit) :=
  (lines.map CodeUnit.ofLine).modifyHead (pre ++ ·)

/-- What becomes of a paragraph when lines are inserted between `pre` and `post`. -/
def broken (p : StoredParagraph) (pre post : List CodeUnit) (lines : List (List Char)) :
    List StoredParagraph :=
  let bodies := bodiesBehind pre lines
  bodies.dropLast.map (fun body => { attributes := p.attributes, body }) ++
    [{ p with
      attributes := if 1 < lines.length ∧ post = [] then {} else p.attributes
      body := bodies.getLastD [] ++ post }]

/-- Two lines behind a heading: the first one continues it, the second one starts afresh. -/
example :
    let heading : StoredParagraph :=
      { attributes := { style := .heading 2 }, body := [.plain 97], link := some "u" }
    heading.broken [.plain 97] [] [['x'], ['y']] =
      [{ attributes := { style := .heading 2 }, body := [.plain 97, .plain 120] },
       { body := [.plain 121], link := some "u" }] := by
  decide

/-! ## Inserted lines -/

section Lines

variable {a : ParagraphAttributes} {line : List Char} {lines : List (List Char)} {pre post : List CodeUnit}

theorem isText_ofLine (h : '\n' ∉ line) : ∀ u ∈ CodeUnit.ofLine line, u.IsText := by
  intro u hu
  obtain ⟨code, hcode, rfl⟩ := List.mem_map.mp hu
  have hne : code ≠ CodeUnit.lineFeed := fun heq =>
    PlainParagraph.lineFeed_notMem_encode h (heq ▸ hcode)
  exact ⟨beq_eq_false_iff_ne.mpr hne, rfl⟩

theorem insertedUnits_line (h : '\n' ∉ line) (a : ParagraphAttributes) :
    LocalDocument.insertedUnits (String.ofList line) a = CodeUnit.ofLine line := by
  have hline : '\n' ∉ (String.ofList line).toList := by rwa [String.toList_ofList]
  rw [LocalDocument.insertedUnits_eq_plain hline, String.toList_ofList, CodeUnit.ofLine]

@[simp] theorem bodiesBehind_nil (lines : List (List Char)) :
    bodiesBehind [] lines = lines.map CodeUnit.ofLine := by
  cases lines <;> rfl

theorem isText_bodiesBehind (hlines : ∀ l ∈ lines, '\n' ∉ l) (hpre : ∀ u ∈ pre, u.IsText) :
    ∀ body ∈ bodiesBehind pre lines, ∀ u ∈ body, u.IsText := by
  cases lines with
  | nil => simp [bodiesBehind]
  | cons line lines =>
    rw [List.forall_mem_cons] at hlines
    refine List.forall_mem_cons.mpr ⟨?_, ?_⟩
    · exact List.forall_mem_append.mpr ⟨hpre, isText_ofLine hlines.1⟩
    · intro body hbody
      obtain ⟨l, hl, rfl⟩ := List.mem_map.mp hbody
      exact isText_ofLine (hlines.2 l hl)

/-- Every inserted line feed ends the body before it. -/
theorem append_insertedUnits_intercalate (hsome : lines ≠ []) (hlines : ∀ l ∈ lines, '\n' ∉ l)
    (pre : List CodeUnit) (a : ParagraphAttributes) :
    pre ++ LocalDocument.insertedUnits (String.ofList (['\n'].intercalate lines)) a =
      (bodiesBehind pre lines).dropLast.flatMap (· ++ [.terminator a])
        ++ (bodiesBehind pre lines).getLastD [] := by
  induction lines generalizing pre with
  | nil => exact absurd rfl hsome
  | cons line lines ih =>
    rw [List.forall_mem_cons] at hlines
    cases lines with
    | nil =>
      rw [List.intercalate_singleton, insertedUnits_line hlines.1]
      rfl
    | cons next lines =>
      have hrest := ih (List.cons_ne_nil next lines) hlines.2 []
      rw [List.nil_append, bodiesBehind_nil] at hrest
      have hbreak : LocalDocument.insertedUnits (String.ofList ['\n']) a = [.terminator a] := rfl
      have htext : ['\n'].intercalate (line :: next :: lines) =
          line ++ (['\n'] ++ ['\n'].intercalate (next :: lines)) := by
        rw [List.intercalate_cons_cons, List.append_assoc]
      rw [htext, String.ofList_append, String.ofList_append, LocalDocument.insertedUnits_append,
        LocalDocument.insertedUnits_append, insertedUnits_line hlines.1, hbreak, hrest]
      simp [bodiesBehind]

end Lines

/-! ## The broken paragraph -/

section Broken

variable {p : StoredParagraph} {pre post : List CodeUnit} {lines : List (List Char)}

theorem isLine_broken (hbody : p.body = pre ++ post) (hp : p.IsLine) (hlines : ∀ l ∈ lines, '\n' ∉ l) :
    ∀ q ∈ p.broken pre post lines, q.IsLine := by
  unfold IsLine at hp
  rw [hbody, List.forall_mem_append] at hp
  have hbodies := isText_bodiesBehind hlines hp.1
  refine List.forall_mem_append.mpr ⟨?_, List.forall_mem_singleton.mpr ?_⟩
  · intro q hq
    obtain ⟨body, hmem, rfl⟩ := List.mem_map.mp hq
    exact hbodies body (List.dropLast_subset _ hmem)
  · refine List.forall_mem_append.mpr ⟨?_, hp.2⟩
    rw [List.getLastD_eq_getLast?]
    cases hlast : (bodiesBehind pre lines).getLast? with
    | none => exact List.forall_mem_nil _
    | some body => exact hbodies body (List.mem_of_getLast? hlast)

/-- Laid out, the paragraphs are the old body with the text in it and a terminator behind. -/
theorem layout_broken (p : StoredParagraph) (pre post : List CodeUnit) (hsome : lines ≠ [])
    (hlines : ∀ l ∈ lines, '\n' ∉ l) :
    layout (p.broken pre post lines) =
      pre ++ LocalDocument.insertedUnits (String.ofList (['\n'].intercalate lines)) p.attributes ++ post
        ++ [{ p.terminator with
              paragraph := some (if 1 < lines.length ∧ post = [] then {} else p.attributes) }] := by
  have hclosed (bodies : List (List CodeUnit)) :
      layout (bodies.map fun body => { attributes := p.attributes, body }) =
        bodies.flatMap (· ++ [.terminator p.attributes]) := List.flatMap_map ..
  rw [broken, layout_append, layout_singleton, hclosed, append_insertedUnits_intercalate hsome hlines]
  simp only [units, List.append_assoc]
  rfl

end Broken

end StoredParagraph

namespace LocalDocument

open StoredParagraph (layout)

variable {d d' : LocalDocument}

theorem insertedAt_layout (text : String) (before after : List StoredParagraph) {p : StoredParagraph}
    {pre post : List CodeUnit} (hp : p.IsLine) (hbody : p.body = pre ++ post) :
    insertedAt text ((layout before).length + pre.length) (layout (before ++ p :: after)) =
      layout (before ++ p.broken pre post (text.toList.splitOn '\n') ++ after) := by
  have hattributes : attributesAt (layout (before ++ p :: after))
      ((layout before).length + pre.length) = p.attributes := by
    rw [StoredParagraph.layout_around]
    refine attributesAt_append _ _ hp.isTerminator p.isTerminator_terminator ?_
    rw [hbody, List.length_append]
    exact Nat.le_add_right ..
  have hcut : layout (before ++ p :: after) =
      (layout before ++ pre) ++ (post ++ p.terminator :: layout after) := by
    simp only [StoredParagraph.layout_around, hbody, List.append_assoc]
  have hlength : (layout before).length + pre.length = (layout before ++ pre).length :=
    List.length_append.symm
  have hat : (layout (before ++ p :: after))[(layout before).length + pre.length]?.any (·.isTerminator) =
      decide (post = []) := by
    rw [hcut, hlength, List.getElem?_append_right (le_refl _), Nat.sub_self]
    cases post with
    | nil => rfl
    | cons u post =>
      have hu : u.isTerminator = false := hp.isTerminator u (by simp [hbody])
      simp [hu]
  have hlines : text.toList.contains '\n' = decide (1 < (text.toList.splitOn '\n').length) := by
    rw [Bool.eq_iff_iff, List.contains_iff_mem, decide_eq_true_iff, one_lt_length_splitOn_iff]
  have hsplit : String.ofList (['\n'].intercalate (text.toList.splitOn '\n')) = text := by
    rw [List.intercalate_splitOn, String.ofList_toList]
  have hbroken := StoredParagraph.layout_broken p pre post
    (List.splitOn_ne_nil '\n' text.toList) (notMem_of_mem_splitOn _)
  rw [hsplit] at hbroken
  have hparts (ps : List StoredParagraph) :
      layout (before ++ ps ++ after) = layout before ++ layout ps ++ layout after := by
    rw [StoredParagraph.layout_append, StoredParagraph.layout_append]
  rw [hparts, hbroken, insertedAt, hattributes, hat, hlines, hcut, hlength, List.take_left, List.drop_left]
  -- The old terminator starts afresh just where the last paragraph does.
  by_cases hreset : 1 < (text.toList.splitOn '\n').length ∧ post = []
  · obtain ⟨hlong, rfl⟩ := hreset
    simp [hlong, resetFirst]
  · rw [if_neg (by simpa [and_comm] using hreset), if_neg hreset]
    simp [StoredParagraph.terminator, CodeUnit.terminator]

/-- An insertion breaks the paragraph that it goes into by the lines of the text, and changes nothing else
    of the document. -/
theorem insertText_paragraphs {text : String} {index : Nat} (h : Reachable d)
    (hok : d.apply (.insertText text index) = .ok d') :
    Nonempty (d.Place index) ∧ ∀ place : d.Place index,
      let paragraphs := place.before
        ++ place.paragraph.broken place.pre place.post (text.toList.splitOn '\n') ++ place.after
      d' = { d with units := layout paragraphs } ∧ d'.storedParagraphs = paragraphs := by
  obtain ⟨-, ⟨hpos, hend⟩, -, rfl⟩ := insertText_eq_ok_iff.mp hok
  refine ⟨h.consistent.nonempty_place hpos hend, fun place => ?_⟩
  have hstores := h.consistent.stores
  have hlines := hstores.lines
  rw [place.paragraphs_eq, List.forall_mem_append, List.forall_mem_cons] at hlines
  obtain ⟨hbefore, hparagraph, hafter⟩ := hlines
  have hunits : insertedAt text (index - 1) d.units = layout (place.before
      ++ place.paragraph.broken place.pre place.post (text.toList.splitOn '\n') ++ place.after) := by
    have hposition : index - 1 = (layout place.before).length + place.pre.length := by
      rw [Nat.sub_eq_of_eq_add place.index_eq]
    rw [hstores.units, place.paragraphs_eq, hposition, insertedAt_layout _ _ _ hparagraph place.body_eq]
  refine ⟨by rw [hunits], Stores.storedParagraphs_eq ⟨hunits, ?_⟩⟩
  have hbroken := StoredParagraph.isLine_broken place.body_eq hparagraph
    (notMem_of_mem_splitOn (a := '\n') text.toList)
  exact List.forall_mem_append.mpr ⟨List.forall_mem_append.mpr ⟨hbefore, hbroken⟩, hafter⟩

/-- An insertion before a terminator with a link, the end of a heading with another paragraph behind it. -/
theorem insertText_paragraphs_behindHeading :
    let d := (LocalDocument.new "doc" "T").perform (.update "doc"
      [.insertText "ab\ncd" 1, .updateParagraphStyle ⟨"HEADING_2"⟩ ⟨1, 2⟩ "namedStyleType",
       .updateTextStyle (.ofLink "u") ⟨2, 5⟩ "link"])
    let d' := d.perform (.apply (.insertText "x\n😀" 3))
    (Reachable d ∧ d.apply (.insertText "x\n😀" 3) = .ok d')
      ∧ Nonempty (d.Place 3) ∧ ∀ place : d.Place 3,
        let paragraphs := place.before
          ++ place.paragraph.broken place.pre place.post ("x\n😀".toList.splitOn '\n') ++ place.after
        d' = { d with units := layout paragraphs } ∧ d'.storedParagraphs = paragraphs := by
  intro d d'
  have hreachable : Reachable d := .perform _ (.new _ _)
  have hok : d.apply (.insertText "x\n😀" 3) = .ok d' := by decide
  exact ⟨⟨hreachable, hok⟩, insertText_paragraphs hreachable hok⟩

end LocalDocument

end DocMark.Service
