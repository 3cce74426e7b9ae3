-- SUMMARY: An exported document covers the units with paragraphs, and each paragraph with text runs, without gaps.
import Mathlib
import DocMark.Proofs.Service.StoredParagraphs

/-!
# The export as a partition

The elements of an exported document are paragraphs, one for each line feed of the text, and their
intervals follow each other from the first index to the one behind the last unit. So do the intervals of
the runs of a paragraph. A run has the link of all its units, the next run has another one, and its content
is as long as its interval, even where halves of a surrogate pair were replaced.
-/
namespace DocMark.Document

/-- Intervals that follow each other without a gap from one index to another, none of them empty. -/
inductive Tiles {α : Type} (start stop : α → Option Nat) : Nat → List α → Nat → Prop where
  | nil (i : Nat) : Tiles start stop i [] i
  | cons {i j k : Nat} {x : α} {xs : List α} (hstart : start x = some i) (hstop : stop x = some j)
      (hsome : i < j) (hrest : Tiles start stop j xs k) : Tiles start stop i (x :: xs) k

/-- The link of a text run. -/
def ParagraphElement.url? (e : ParagraphElement) : Option String :=
  e.textRun.bind fun run => run.textStyle.link.map (·.url)

end DocMark.Document

namespace DocMark.Service.LocalDocument

open Document Text

/-- A text run over an interval of units: their codes decoded, as long as the interval and with the link
    of each unit. -/
def ExportsRun (d : LocalDocument) (e : ParagraphElement) : Prop :=
  ∃ start stop run, e = ⟨some start, some stop, some run⟩
    ∧ run.content = String.ofList (Utf16.decode ((d.codes.drop (start - 1)).take (stop - start)))
    ∧ Utf16.length run.content = stop - start
    ∧ ∀ index, start ≤ index → index < stop → d.units[index - 1]?.map (·.link) = some e.url?

/-- A paragraph over an interval of units, of which the last and no other is a terminator. -/
structure ExportsParagraph (d : LocalDocument) (e : StructuralElement) (start stop : Nat)
    (p : Document.Paragraph) : Prop where
  element : e = ⟨some start, some stop, some p, none⟩
  ends : ∀ index, start ≤ index → index < stop →
    (d.units[index - 1]?.any (·.isTerminator) = true ↔ index + 1 = stop)
  tiles : Tiles (·.startIndex) (·.endIndex) start p.elements stop
  runs : ∀ x ∈ p.elements, d.ExportsRun x
  maximal : (p.elements.map (·.url?)).IsChain (· ≠ ·)
  /-- The style and the bullet are those of the terminator. -/
  attributes : ∃ a, d.units[stop - 2]?.bind (·.paragraph) = some a
    ∧ p.paragraphStyle.namedStyleType = a.style.name ∧ p.bullet = a.bullet

variable {d : LocalDocument} {pre post : List CodeUnit}

/-! ## Runs -/

section Runs

variable {ss : List (Option String × List CodeUnit)}

theorem urls_runElements (index : Nat) (ss : List (Option String × List CodeUnit)) :
    (runElements index ss).map (·.url?) = ss.map (·.1) := by
  induction ss generalizing index with
  | nil => rfl
  | cons s ss ih =>
    obtain ⟨link, units⟩ := s
    exact congrArg₂ List.cons (by cases link <;> rfl) (ih _)

theorem tiles_runElements (h : ∀ s ∈ ss, s.2 ≠ []) (index : Nat) :
    Tiles (·.startIndex) (·.endIndex) index (runElements index ss)
      (index + (ss.flatMap (·.2)).length) := by
  induction ss generalizing index with
  | nil => exact .nil index
  | cons s ss ih =>
    obtain ⟨link, units⟩ := s
    rw [List.forall_mem_cons] at h
    have hsome : 0 < units.length := List.length_pos_of_ne_nil h.1
    rw [List.flatMap_cons, List.length_append, ← Nat.add_assoc]
    exact .cons rfl rfl (Nat.lt_add_of_pos_right hsome) (ih h.2 _)

theorem exportsRun_of_mem (hunits : d.units = pre ++ (ss.flatMap (·.2) ++ post))
    (hlinks : ∀ s ∈ ss, ∀ u ∈ s.2, u.link = s.1) :
    ∀ e ∈ runElements (pre.length + 1) ss, d.ExportsRun e := by
  induction ss generalizing pre with
  | nil => exact List.forall_mem_nil _
  | cons s ss ih =>
    obtain ⟨link, units⟩ := s
    rw [List.forall_mem_cons] at hlinks
    have hparts : d.units = pre ++ (units ++ (ss.flatMap (·.2) ++ post)) := by
      rw [hunits, List.flatMap_cons, List.append_assoc]
    have hrest := ih (hparts.trans (List.append_assoc ..).symm) hlinks.2
    rw [List.length_append, Nat.add_right_comm] at hrest
    refine List.forall_mem_cons.mpr ⟨⟨_, _, _, rfl, ?_, ?_, fun index hstart hstop => ?_⟩, hrest⟩
    · have hcodes : (d.codes.drop pre.length).take units.length = units.map (·.code) := by
        rw [codes, hparts, ← List.map_drop, List.drop_left, ← List.map_take, List.take_left]
      rw [Nat.add_sub_cancel, Nat.add_sub_cancel_left, hcodes]
    · rw [← Utf16.length_encode, String.toList_ofList, Utf16.length_encode_decode, List.length_map,
        Nat.add_sub_cancel_left]
    · have hwithin : index - 1 - pre.length < units.length := by omega
      have hat : d.units[index - 1]? = some units[index - 1 - pre.length] := by
        rw [hparts, List.getElem?_append_right (by omega), List.getElem?_append_left hwithin,
          List.getElem?_eq_getElem hwithin]
      rw [hat, Option.map_some, hlinks.1 _ (List.getElem_mem hwithin)]
      cases link <;> rfl

end Runs

/-! ## Paragraphs -/

theorem exportsParagraph_units {p : StoredParagraph} (hp : p.IsLine)
    (hunits : d.units = pre ++ (p.units ++ post)) :
    ∃ q, d.ExportsParagraph (exportParagraph (pre.length + 1) p.units) (pre.length + 1)
      (pre.length + 1 + p.units.length) q := by
  have hlast : p.units.getLast? = some p.terminator := List.getLast?_concat
  have hend : d.units[pre.length + p.body.length]? = some p.terminator := by
    simp [hunits, StoredParagraph.units]
  have hstretches := link_of_mem_stretches p.units
  refine ⟨_, rfl, fun index hstart hstop => ?_, ?_, ?_, ?_, p.attributes, ?_, ?_, ?_⟩
  · rw [StoredParagraph.length_units] at hstop ⊢
    by_cases hterm : index + 1 = pre.length + 1 + (p.body.length + 1)
    · have hposition : index - 1 = pre.length + p.body.length := by omega
      rw [hposition, hend]
      exact iff_of_true rfl hterm
    · have hwithin : index - 1 - pre.length < p.body.length := by omega
      have hat : d.units[index - 1]? = some p.body[index - 1 - pre.length] := by
        rw [hunits, StoredParagraph.units, List.append_assoc, List.getElem?_append_right (by omega),
          List.getElem?_append_left hwithin, List.getElem?_eq_getElem hwithin]
      have htext := hp.isTerminator _ (List.getElem_mem hwithin)
      rw [hat, Option.any_some, htext]
      exact iff_of_false Bool.false_ne_true hterm
  · have htiles := tiles_runElements (fun s hs => (hstretches s hs).1) (pre.length + 1)
    rwa [flatMap_stretches] at htiles
  · have hparts : d.units = pre ++ ((stretches p.units).flatMap (·.2) ++ post) := by
      rwa [flatMap_stretches]
    exact exportsRun_of_mem hparts fun s hs => (hstretches s hs).2
  · rw [urls_runElements]
    exact isChain_stretches p.units
  · have hposition : pre.length + 1 + p.units.length - 2 = pre.length + p.body.length := by
      rw [StoredParagraph.length_units]
      omega
    rw [hposition, hend]
    rfl
  · rw [hlast]
    rfl
  · rw [hlast]
    rfl

/-! ## The document -/

/-- What follows some paragraphs is exported paragraph by paragraph. -/
theorem exportParagraphs_layout (before : List StoredParagraph) {ps : List StoredParagraph}
    (hps : ∀ p ∈ ps, p.IsLine)
    (hunits : d.units = StoredParagraph.layout before ++ StoredParagraph.layout ps) :
    let content := exportParagraphs ((StoredParagraph.layout before).length + 1) (ps.map (·.units))
    Tiles (·.startIndex) (·.endIndex) ((StoredParagraph.layout before).length + 1) content
        (d.endIndex + 1)
      ∧ content.length = ps.length
      ∧ ∀ e ∈ content, ∃ start stop p, d.ExportsParagraph e start stop p := by
  induction ps generalizing before with
  | nil =>
    rw [StoredParagraph.layout_nil, List.append_nil] at hunits
    rw [endIndex, hunits]
    exact ⟨.nil _, rfl, List.forall_mem_nil _⟩
  | cons p ps ih =>
    rw [List.forall_mem_cons] at hps
    rw [StoredParagraph.layout_cons] at hunits
    have hbefore : StoredParagraph.layout (before ++ [p]) = StoredParagraph.layout before ++ p.units := by
      rw [StoredParagraph.layout_append, StoredParagraph.layout_singleton]
    have hlength : (StoredParagraph.layout (before ++ [p])).length + 1 =
        (StoredParagraph.layout before).length + 1 + p.units.length := by
      rw [hbefore, List.length_append, Nat.add_right_comm]
    obtain ⟨htiles, hcount, hrest⟩ := ih (before ++ [p]) hps.2 (by rw [hbefore, hunits, List.append_assoc])
    rw [hlength] at htiles hcount hrest
    obtain ⟨q, hq⟩ := exportsParagraph_units hps.1 hunits
    have hsome : 0 < p.units.length := by
      rw [StoredParagraph.length_units]
      exact Nat.succ_pos _
    exact ⟨.cons rfl rfl (Nat.lt_add_of_pos_right hsome) htiles, congrArg (· + 1) hcount,
      List.forall_mem_cons.mpr ⟨⟨_, _, q, hq⟩, hrest⟩⟩

theorem count_lineFeed_encode (cs : List Char) :
    (Utf16.encode cs).count CodeUnit.lineFeed = cs.count '\n' := by
  induction cs with
  | nil => rfl
  | cons c cs ih =>
    rw [Utf16.encode_cons, List.count_append, ih, List.count_cons, Nat.add_comm]
    congr 1
    by_cases hc : c = '\n'
    · subst hc
      rfl
    · have hnone : CodeUnit.lineFeed ∉ Utf16.encode [c] :=
        PlainParagraph.lineFeed_notMem_encode (by simpa using Ne.symm hc)
      rw [Utf16.encode_cons, Utf16.encode_nil, List.append_nil] at hnone
      rw [List.count_eq_zero.mpr hnone, if_neg (by simpa using hc)]

/-- Every paragraph has one line feed, its terminator. -/
theorem count_lineFeed_layout {ps : List StoredParagraph} (hps : ∀ p ∈ ps, p.IsLine) :
    ((StoredParagraph.layout ps).map (·.code)).count CodeUnit.lineFeed = ps.length := by
  induction ps with
  | nil => rfl
  | cons p ps ih =>
    rw [List.forall_mem_cons] at hps
    have hbody : (p.body.map (·.code)).count CodeUnit.lineFeed = 0 := by
      refine List.count_eq_zero.mpr fun hmem => ?_
      obtain ⟨u, hu, hcode⟩ := List.mem_map.mp hmem
      exact beq_eq_false_iff_ne.mp (hps.1.isTerminator u hu) hcode
    have hunits : (p.units.map (·.code)).count CodeUnit.lineFeed = 1 := by
      rw [StoredParagraph.units, List.map_append, List.count_append, hbody]
      rfl
    rw [StoredParagraph.layout_cons, List.map_append, List.count_append, hunits, ih hps.2, List.length_cons,
      Nat.add_comm]

/-- The export of a document is a partition of its indices into paragraphs, one for each line feed, and of
    each paragraph into runs. -/
theorem toDocument_partition (h : Reachable d) :
    let content := d.toDocument.body.content
    Tiles (·.startIndex) (·.endIndex) 1 content (d.endIndex + 1)
      ∧ content.length = d.text.toList.count '\n'
      ∧ ∀ e ∈ content, ∃ start stop p, d.ExportsParagraph e start stop p := by
  obtain ⟨hunits, hlines⟩ := h.consistent.stores
  have hparagraphs : d.paragraphs = d.storedParagraphs.map (·.units) := by
    rw [paragraphs, hunits, StoredParagraph.paragraphsAfter_layout hlines]
  have hcount : d.text.toList.count '\n' = d.storedParagraphs.length := by
    rw [← count_lineFeed_encode, h.consistent.encode_text, codes, hunits, count_lineFeed_layout hlines]
  have hcontent : d.toDocument.body.content = exportParagraphs 1 (d.storedParagraphs.map (·.units)) := by
    rw [← hparagraphs]
    rfl
  rw [hcontent, hcount]
  exact exportParagraphs_layout [] hlines hunits

/-- A document in which a link ends inside a surrogate pair. -/
theorem toDocument_partition_splitPair :
    let d := (LocalDocument.new "doc" "T").perform (.update "doc"
      [.insertText "a😀\nb" 1, .updateParagraphStyle ⟨"HEADING_1"⟩ ⟨1, 2⟩ "namedStyleType",
       .updateTextStyle (.ofLink "u") ⟨1, 3⟩ "link"])
    let content := d.toDocument.body.content
    Reachable d ∧ Tiles (·.startIndex) (·.endIndex) 1 content (d.endIndex + 1)
      ∧ content.length = d.text.toList.count '\n'
      ∧ ∀ e ∈ content, ∃ start stop p, d.ExportsParagraph e start stop p := by
  intro d content
  have hreachable : Reachable d := .perform _ (.new _ _)
  exact ⟨hreachable, toDocument_partition hreachable⟩

end DocMark.Service.LocalDocument
