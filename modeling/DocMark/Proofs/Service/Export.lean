-- SUMMARY: The visible lines of a rendered document of plain paragraphs.
import Mathlib
import DocMark.Document.Render
import DocMark.Proofs.Service.PlainParagraphs
import DocMark.Proofs.Text.Lines

/-!
# Rendering plain paragraphs

Each plain paragraph becomes a paragraph with one text run, and a paragraph that is not blank becomes
one visible line: the Markdown start of its style, a marker if it is an item, and its trimmed
text. A blank paragraph shows nothing as long as its style has no start of its own.
-/
namespace DocMark.Service

open Document Text

namespace PlainParagraph

/-- The lines that a paragraph shows, one or none. -/
def lines (p : PlainParagraph) : List String :=
  if trim p.text = [] then []
  else [markdownMarker p.attributes.style.name
    ++ (if p.attributes.bullet.isSome then bulletMarker else "") ++ String.ofList (trim p.text)]

/-- Whether a blank paragraph has a style that shows nothing. -/
def Tidy (p : PlainParagraph) : Prop := trim p.text = [] → p.attributes.style = .normalText

variable {p : PlainParagraph}

theorem tidy_fresh : fresh.Tidy := fun _ => rfl

theorem Tidy.withBullet (h : p.Tidy) (bullet : Bullet) : (p.withBullet bullet).Tidy := h

theorem decode_codes_units (p : PlainParagraph) :
    Utf16.decode (p.units.map (·.code)) = p.text ++ ['\n'] := by
  have hcodes : p.units.map (·.code) = Utf16.encode (p.text ++ ['\n']) := by
    rw [units, body, List.map_append, List.map_map, Utf16.encode_append]
    exact congrArg (· ++ _) (List.map_id _)
  rw [hcodes, Utf16.decode_encode]

theorem units_ne_nil (p : PlainParagraph) : p.units ≠ [] := by
  simp [units]

theorem link_of_mem_units {u : CodeUnit} (h : u ∈ p.units) : u.link = none := by
  rcases List.mem_append.mp h with hbody | hlast
  · obtain ⟨code, -, rfl⟩ := List.mem_map.mp hbody
    rfl
  · cases List.mem_singleton.mp hlast
    rfl

end PlainParagraph

namespace LocalDocument

open PlainParagraph (layout)

variable {d : LocalDocument} {ps : List PlainParagraph}

theorem paragraphsAfter_body {body : List CodeUnit} (h : ∀ u ∈ body, u.isTerminator = false)
    {t : CodeUnit} (ht : t.isTerminator = true) (current rest : List CodeUnit) :
    paragraphsAfter current (body ++ [t] ++ rest) =
      (current ++ (body ++ [t])) :: paragraphsAfter [] rest := by
  induction body generalizing current with
  | nil => simp [paragraphsAfter, ht]
  | cons u body ih =>
    have hu : u.isTerminator = false := h u (List.mem_cons_self ..)
    have hrest : ∀ v ∈ body, v.isTerminator = false := fun v hv => h v (List.mem_cons_of_mem _ hv)
    simp only [List.cons_append, paragraphsAfter, hu, Bool.false_eq_true, if_false]
    rw [ih hrest, List.append_assoc]
    rfl

theorem paragraphsAfter_layout (ps : List PlainParagraph) :
    paragraphsAfter [] (layout ps) = ps.map (·.units) := by
  induction ps with
  | nil => rfl
  | cons p ps ih =>
    rw [PlainParagraph.layout_cons, PlainParagraph.units,
      paragraphsAfter_body (fun u => PlainParagraph.isTerminator_of_mem_body)
        (CodeUnit.isTerminator_terminator _), ih]
    rfl

theorem flatMap_stretches (us : List CodeUnit) : (stretches us).flatMap (·.2) = us := by
  induction us with
  | nil => rfl
  | cons u us ih =>
    rw [stretches]
    split
    · rename_i hnone
      rw [hnone] at ih
      simp [← ih]
    · rename_i hsome
      rw [hsome] at ih
      split_ifs <;> simp [← ih]

/-- No stretch is empty, and all its units have its link. -/
theorem link_of_mem_stretches (us : List CodeUnit) :
    ∀ s ∈ stretches us, s.2 ≠ [] ∧ ∀ u ∈ s.2, u.link = s.1 := by
  induction us with
  | nil => exact List.forall_mem_nil _
  | cons u us ih =>
    rw [stretches]
    split
    · simp
    · rename_i link stretch rest hsome
      rw [hsome, List.forall_mem_cons] at ih
      split_ifs with hlink
      · refine List.forall_mem_cons.mpr ⟨⟨List.cons_ne_nil _ _, ?_⟩, ih.2⟩
        exact List.forall_mem_cons.mpr ⟨hlink, ih.1.2⟩
      · refine List.forall_mem_cons.mpr ⟨⟨List.cons_ne_nil _ _, by simp⟩, ?_⟩
        exact List.forall_mem_cons.mpr ih

/-- A stretch ends where the link changes. -/
theorem isChain_stretches (us : List CodeUnit) : ((stretches us).map (·.1)).IsChain (· ≠ ·) := by
  induction us with
  | nil => exact .nil
  | cons u us ih =>
    rw [stretches]
    split
    · exact .singleton _
    · rename_i link stretch rest hsome
      rw [hsome, List.map_cons] at ih
      split_ifs with hlink
      · exact ih
      · exact .cons_cons hlink ih

/-- Units without links are one stretch. -/
theorem stretches_of_no_link {us : List CodeUnit} (h : ∀ u ∈ us, u.link = none) (hne : us ≠ []) :
    stretches us = [(none, us)] := by
  induction us with
  | nil => exact absurd rfl hne
  | cons u us ih =>
    have hu : u.link = none := h u (List.mem_cons_self ..)
    cases us with
    | nil => simp [stretches, hu]
    | cons v us =>
      rw [stretches, ih (fun w hw => h w (List.mem_cons_of_mem _ hw)) (by simp)]
      simp [hu]

/-- A plain paragraph is exported with one run. -/
theorem exportParagraph_units (index : Nat) (p : PlainParagraph) :
    (exportParagraph index p.units).paragraph = some
      { elements := [⟨some index, some (index + p.units.length),
          some ⟨String.ofList (p.text ++ ['\n']), {}⟩⟩]
        paragraphStyle := ⟨p.attributes.style.name⟩
        bullet := p.attributes.bullet } := by
  have hlast : p.units.getLast? = some (.terminator p.attributes) := by
    simp [PlainParagraph.units]
  have hstretches := stretches_of_no_link (fun u => PlainParagraph.link_of_mem_units) p.units_ne_nil
  simp only [exportParagraph, hlast, hstretches, runElements, p.decode_codes_units]
  rfl

/-! ## Rendering -/

/-- The line that is rendered for a paragraph, be it blank or not. -/
def renderedLine (p : PlainParagraph) : String :=
  if p.attributes.bullet.isSome && !(trim p.text).isEmpty then
    markdownMarker p.attributes.style.name ++ bulletMarker ++ String.ofList (trim p.text)
  else markdownMarker p.attributes.style.name ++ String.ofList (trim p.text)

theorem renderElement_units (index : Nat) (p : PlainParagraph) :
    renderElement (exportParagraph index p.units) =
      if p.attributes.bullet.isSome then [renderedLine p] else [renderedLine p] ++ ["\n"] := by
  have hrun : renderRun ⟨String.ofList (p.text ++ ['\n']), {}⟩ = String.ofList (trim p.text) := by
    have htrim : trim (p.text ++ ['\n']) = trim p.text := trim_concat_of_isWhiteSpace (by decide)
    simp [renderRun, htrim]
  have hempty : (String.ofList (trim p.text)).isEmpty = (trim p.text).isEmpty := by
    cases trim p.text <;> simp
  simp only [renderElement, StructuralElement.block, exportParagraph_units, renderParagraph,
    Paragraph.runs, ParagraphElement.inline, Paragraph.isListItem, List.filterMap_cons,
    List.filterMap_nil, List.map_cons, List.map_nil, hrun, hempty, renderedLine]

/-- The starts that styles have in Markdown begin with no white space and stay on their line. -/
theorem markdownMarker_plain (name : String) :
    (∀ c ∈ (markdownMarker name).toList.head?, isWhiteSpace c = false)
      ∧ '\n' ∉ (markdownMarker name).toList := by
  have htable : markdownMarkers.all (fun entry =>
      entry.2.toList.head?.all (!isWhiteSpace ·) && !entry.2.toList.contains '\n') = true := by
    decide
  unfold markdownMarker
  cases hfound : markdownMarkers.lookup name with
  | none => simp
  | some marker =>
    obtain ⟨l₁, l₂, hsplit, -⟩ := List.lookup_eq_some_iff.mp hfound
    have hmem : (name, marker) ∈ markdownMarkers := by
      rw [hsplit]
      exact List.mem_append_right _ (List.mem_cons_self ..)
    simpa [Option.all_eq_true] using List.all_eq_true.mp htable _ hmem

theorem visibleLines_marked {start : String}
    (hhead : ∀ c ∈ start.toList.head?, isWhiteSpace c = false) (hstart : '\n' ∉ start.toList)
    {cs : List Char} (hcs : '\n' ∉ cs) (hsome : trim cs ≠ []) :
    visibleLines (start ++ String.ofList (trim cs)) = [start ++ String.ofList (trim cs)] := by
  have hwhole : start ++ String.ofList (trim cs) = String.ofList (start.toList ++ trim cs) := by
    rw [String.ofList_append, String.ofList_toList]
  have hline : '\n' ∉ start.toList ++ trim cs := by
    rw [List.mem_append]
    rintro (h | h)
    · exact hstart h
    · exact hcs (mem_of_mem_trim h)
  rw [hwhole, visibleLines_of_single hline, trim_append_trim hhead hsome, if_neg (by simp [hsome])]

theorem visibleLines_renderedLine {p : PlainParagraph} (h : p.Tidy) :
    visibleLines (renderedLine p) = p.lines := by
  obtain ⟨hhead, hline⟩ := markdownMarker_plain p.attributes.style.name
  unfold renderedLine PlainParagraph.lines
  by_cases hblank : trim p.text = []
  · have hmarker : markdownMarker p.attributes.style.name = "" := by
      rw [h hblank]
      decide
    simp [hblank, hmarker]
  · rw [if_neg hblank]
    cases hitem : p.attributes.bullet.isSome with
    | true =>
      rw [if_pos (by simpa using hblank), if_pos rfl]
      refine visibleLines_marked ?_ ?_ p.singleLine hblank
      · rw [String.toList_append, List.head?_append]
        intro c hc
        cases hmarker : (markdownMarker p.attributes.style.name).toList.head? with
        | none =>
          rw [hmarker] at hc
          cases hc
          decide
        | some first =>
          rw [hmarker] at hc
          cases hc
          exact hhead _ hmarker
      · rw [String.toList_append, List.mem_append]
        rintro (hm | hm)
        · exact hline hm
        · exact absurd hm (by decide)
    | false =>
      rw [if_neg (by simp), if_neg (by simp), String.append_empty]
      exact visibleLines_marked hhead hline p.singleLine hblank

theorem visibleLines_exportParagraphs (htidy : ∀ p ∈ ps, p.Tidy) (index : Nat) :
    ((exportParagraphs index (ps.map (·.units))).flatMap renderElement).flatMap visibleLines =
      ps.flatMap (·.lines) := by
  induction ps generalizing index with
  | nil => rfl
  | cons p ps ih =>
    have hp : (renderElement (exportParagraph index p.units)).flatMap visibleLines = p.lines := by
      rw [← visibleLines_renderedLine (htidy p (List.mem_cons_self ..)), renderElement_units]
      split <;> simp
    rw [List.map_cons, exportParagraphs, List.flatMap_cons, List.flatMap_append, hp,
      ih fun q hq => htidy q (List.mem_cons_of_mem _ hq)]
    rfl

/-- What one sees of a rendered document are its title and its paragraphs. -/
theorem visibleLines_render (h : d.Shows ps) (htidy : ∀ p ∈ ps, p.Tidy) :
    visibleLines (render d.toDocument) =
      visibleLines ("# " ++ d.title) ++ ps.flatMap (·.lines) := by
  have hcontent : d.toDocument.body.content = exportParagraphs 1 (ps.map (·.units)) := by
    change exportParagraphs 1 d.paragraphs = _
    rw [paragraphs, h, paragraphsAfter_layout]
  rw [render, visibleLines_intercalate, List.flatMap_cons, hcontent,
    visibleLines_exportParagraphs htidy]
  rfl

end LocalDocument

end DocMark.Service
