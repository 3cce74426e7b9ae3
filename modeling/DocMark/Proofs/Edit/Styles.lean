-- SUMMARY: The text of headings and paragraphs lies in paragraphs of their style, whatever stands around them.
import Mathlib
import DocMark.Proofs.Edit.Placement

/-!
# Where named styles land

A style is set when its heading or paragraph is left, on all paragraphs from the one that the node
began in. These are the paragraphs of its text, since a line feed in the text makes paragraphs that
the range reaches as well. What comes later changes no attributes of what was written before; and the
lists that may be closed around it change bullets only.
-/
namespace DocMark

open Document Edit Edit.Builder Markdown Service Text

namespace Markdown.Node

/-- The style that a node gives its text. -/
def style? : Node → Option NamedStyle
  | .heading level _ _ => some (.ofLevel level)
  | .paragraph _ => some .normalText
  | _ => none

theorem style?_eq_none {n : Node} (h : n.isStyled = false) : n.style? = none := by
  cases n with
  | heading level anchor cs | paragraph cs => cases h
  | _ => rfl

end Markdown.Node

namespace Edit.Builder

theorem style_restyle_of_isStyled {n : Node} {style : NamedStyle} (h : n.style? = some style)
    (number : Nat) (a : ParagraphAttributes) : (restyle number n a).style = style := by
  cases n with
  | heading level anchor cs | paragraph cs => exact Option.some.inj h
  | _ => cases h

theorem style_restyle {n : Node} (h : n.isStyled = false) (number : Nat) (a : ParagraphAttributes) :
    (restyle number n a).style = a.style := by
  cases n with
  | heading level anchor cs | paragraph cs => cases h
  | _ => rfl

namespace Tracked

variable {start : LocalDocument} {t t' : Tracked} {options : BuildOptions}

/-- A text unit in a paragraph with these attributes has the style of every heading or paragraph
    around it. -/
def HasStyle (u : WrittenUnit) (a : ParagraphAttributes) : Prop :=
  u.isText = true → ∀ v ∈ u.around, ∀ style, v.node.style? = some style → a.style = style

theorem hasStyle_of_outside {u : WrittenUnit} (h : ∀ v ∈ u.around, v.node.isStyled = false)
    (a : ParagraphAttributes) : HasStyle u a := by
  intro _ v hv style hstyle
  rw [Node.style?_eq_none (h v hv)] at hstyle
  cases hstyle

/-- Outside headings and paragraphs: the styles of all text written so far are as they should be. -/
structure Styled (start : LocalDocument) (t : Tracked) : Prop where
  placed : t.Placed start
  outside : ∀ v ∈ t.around, v.node.isStyled = false
  each : t.Each start HasStyle

/-- What is written outside headings and paragraphs needs no style. -/
theorem Styled.of_grows {base : List Visit} {nodes : List Node} (h : t.Styled start)
    (hgrows : Grows start base nodes t t') (hbase : ∀ v ∈ base, v.node.isStyled = false)
    (hnodes : ∀ n ∈ nodes, n.isStyled = false) (houtside : ∀ v ∈ t'.around, v.node.isStyled = false) :
    t'.Styled start where
  placed := hgrows.placed
  outside := houtside
  each := by
    refine h.each.of_grows hgrows fun i u hi hu => ?_
    obtain ⟨inner, haround, hinner⟩ := hgrows.exists_around hi hu
    refine hasStyle_of_outside (fun v hv => ?_) _
    rw [haround] at hv
    rcases List.mem_append.mp hv with hnew | hold
    · exact hnodes _ (hinner v hnew)
    · exact hbase v hold

section Nodes

variable (hpresets : ∀ ordered, options.preset ordered ≠ "") {n : Node}

theorem Styled.enter (h : t.Styled start) (hn : n.isStyled = false) : (t.enter n).Styled start := by
  refine h.of_grows (h.placed.grows_enter n) h.outside ?_ ?_
  · intro m hm
    cases List.mem_singleton.mp hm
    exact hn
  · intro v hv
    rcases List.mem_cons.mp hv with rfl | hold
    · exact hn
    · exact h.outside v hold

include hpresets

/-- A node other than a heading or a paragraph is left with the styles as they are. -/
theorem Styled.leave (h : t.Styled start) (hn : n.isStyled = false)
    (hchildren : ((t.enter n).run options (Node.walkAll n.children)).Styled start) :
    (t.run options n.walk).Styled start := by
  have houtside : ∀ v ∈ (t.run options n.walk).around, v.node.isStyled = false := by
    rw [around_run]
    exact h.outside
  by_cases htext : n.isText = true
  · obtain ⟨content, rfl⟩ := Node.exists_eq_text htext
    refine hchildren.of_grows (hchildren.placed.grows_exit_text options content rfl) h.outside ?_
      houtside
    intro m hm
    cases List.mem_singleton.mp hm
    rfl
  · have hgrows := (h.placed.enter n).placed.runAll hpresets n.children
    have hleave := h.placed.leave hpresets (by simpa using htext) hgrows
    refine ⟨hleave.placed, houtside, hchildren.each.of_closes hleave fun u a hu => ?_⟩
    intro hisText v hv style hstyle
    rw [style_restyle hn]
    exact hu hisText v hv style hstyle

/-- A heading or a paragraph styles all the text in it. -/
theorem Styled.run_styled (h : t.Styled start) (hn : n.isStyled = true)
    (hinline : ∀ m ∈ Node.nodesAll n.children, m.isInline = true) :
    (t.run options n.walk).Styled start := by
  have hwhole := h.placed.run hpresets n
  have htext : n.isText = false := by
    cases n with
    | text content => cases hn
    | _ => rfl
  refine ⟨hwhole.placed, ?_, h.each.of_grows hwhole fun i u hi hu hisText => ?_⟩
  · rw [around_run]
    exact h.outside
  obtain ⟨inner, haround, hinner, -, hrestyled⟩ :=
    h.placed.exists_inner hpresets htext hi hu hisText
  intro v hv style hstyle
  rw [haround] at hv
  rcases List.mem_append.mp hv with hv | hv
  · have hnone := Node.isStyled_eq_false_of_isInline (hinline _ (hinner v hv))
    rw [Node.style?_eq_none hnone] at hstyle
    cases hstyle
  · rcases List.mem_cons.mp hv with rfl | hv
    · rw [hrestyled]
      exact style_restyle_of_isStyled hstyle _ _
    · rw [Node.style?_eq_none (h.outside v hv)] at hstyle
      cases hstyle

theorem Styled.run (h : t.Styled start) (hn : n.StylesInlines) :
    (t.run options n.walk).Styled start := by
  induction n using Node.induction_children generalizing t with
  | node n ih =>
    by_cases hstyled : n.isStyled = true
    · exact h.run_styled hpresets hstyled (hn n (Node.mem_nodes_self n) hstyled)
    · have hother : n.isStyled = false := by simpa using hstyled
      refine h.leave hpresets hother ?_
      exact run_walkAll_keeps (fun m hm t ht => ih m hm ht (hn.of_mem_children hm)) (h.enter hother)

end Nodes

end Tracked

end Edit.Builder

/-- Submitting a build to a new document puts every text below a heading into paragraphs of the
    heading's style, and every text below a paragraph into paragraphs of normal text. -/
theorem Service.LocalDocument.submit_build_styles (documentId title : String) {root : Node}
    (hroot : root.StylesInlines) {options : BuildOptions}
    (hpresets : ∀ ordered, options.preset ordered ≠ "") (policy : Policy) {token : Cancellation}
    (ht : token.NeverCancelled) :
    ∃ report s, (LocalDocument.new documentId title).submit documentId (build root options).operations
        policy token = (.ok report, s)
      ∧ s.document.codes = (writtenUnits root options).map (·.code) ++ [CodeUnit.lineFeed]
      ∧ ∀ i u, (writtenUnits root options)[i]? = some u → u.isText = true →
        (∀ level anchor cs, .heading level anchor cs ∈ u.nodes →
            (s.document.attributes i).style = .ofLevel level)
          ∧ ∀ cs, .paragraph cs ∈ u.nodes → (s.document.attributes i).style = .normalText := by
  obtain ⟨report, s, hsubmit, hcodes, hattributes⟩ :=
    submit_build_units hpresets documentId title root policy ht
  have hstart : ({} : Tracked).Styled (.new documentId title) :=
    ⟨Tracked.placed_start documentId title, List.forall_mem_nil _, fun i u hu => by cases hu⟩
  have hstyled := hstart.run hpresets hroot
  refine ⟨report, s, hsubmit, hcodes, fun i u hu hisText => ?_⟩
  have hstyle : ∀ n ∈ u.nodes, ∀ style, n.style? = some style →
      (s.document.attributes i).style = style := by
    intro n hn style hnstyle
    obtain ⟨v, hv, rfl⟩ := List.mem_map.mp hn
    rw [hattributes]
    exact hstyled.each i u hu hisText v hv style hnstyle
  exact ⟨fun level anchor cs hmem => hstyle _ hmem _ rfl, fun cs hmem => hstyle _ hmem _ rfl⟩

/-- A heading of two lines after a list, and a paragraph that nothing with a meaning holds. -/
theorem Service.LocalDocument.submit_build_styles_afterList :
    let root := Node.document [.list true false [.listItem [.paragraph [.text "a"]]],
      .heading 9 "" [.text "b\nc", .link "u" [.text "d"]], .other "quote" [.paragraph [.text "e"]]]
    ∃ report s, (LocalDocument.new "doc" "T").submit "doc" (build root {}).operations .atomic {} =
        (.ok report, s)
      ∧ s.document.text = "\n\na\nb\ncd\ne\n"
      ∧ (s.document.attributes 2).style = .normalText ∧ (s.document.attributes 4).style = .heading 6
      ∧ (s.document.attributes 7).style = .heading 6 ∧ (s.document.attributes 9).style = .normalText := by
  intro root
  obtain ⟨report, s, hsubmit, hcodes, hstyles⟩ := submit_build_styles "doc" "T"
    (show root.StylesInlines by decide) (show ∀ ordered, BuildOptions.preset {} ordered ≠ "" by decide)
    .atomic Cancellation.neverCancelled_default
  have hwritten : (writtenUnits root {}).map (·.code) =
      Utf16.encode "\n\na\nb\ncd\ne".toList := by decide
  refine ⟨report, s, hsubmit, ?_, ?_, ?_, ?_, ?_⟩
  · rw [text, hcodes, hwritten]
    decide
  · exact (hstyles 2 _ rfl rfl).2 _ (.tail _ (.head _))
  · exact (hstyles 4 _ rfl rfl).1 9 _ _ (.tail _ (.head _))
  · exact (hstyles 7 _ rfl rfl).1 9 _ _ (.tail _ (.tail _ (.head _)))
  · exact (hstyles 9 _ rfl rfl).2 _ (.tail _ (.head _))

end DocMark
