-- SUMMARY: Documents are read back from their JSON, compact or indented, whatever they hold.
import Mathlib
import DocMark.Document.Layout
import DocMark.Proofs.Json.Reading

/-!
# Documents in JSON, read back

The content of a document determines the document, and it fits the layout when its indices are within
bounds. So a document is read back from every text that spells its JSON value, up to the depth at which
the reader gives up.
-/
namespace DocMark.Document

open Json

-- ---------------------------------------------------------------------------
-- Contents determine what they are the contents of
-- ---------------------------------------------------------------------------

theorem optionalOf_optionalDatum {α : Type} {write : α → Datum} {read : Datum → α}
    (hread : ∀ a, read (write a) = a) (hpresent : ∀ a, write a ≠ .absent) (a : Option α) :
    optionalOf read (optionalDatum write a) = a := by
  cases a with
  | none => rfl
  | some a =>
    rw [optionalDatum, optionalOf, hread]
    exact hpresent a

theorem optionalIndex (n : Option Nat) : optionalOf indexOf (optionalDatum .index n) = n := by
  cases n <;> rfl

theorem Link.ofDatum_toDatum (l : Link) : Link.ofDatum l.toDatum = l := rfl

theorem TextStyle.ofDatum_toDatum (s : TextStyle) : TextStyle.ofDatum s.toDatum = s := by
  have hlink := optionalOf_optionalDatum Link.ofDatum_toDatum (fun _ => nofun) s.link
  simp [TextStyle.toDatum, TextStyle.ofDatum, flagOf, hlink]

theorem TextRun.ofDatum_toDatum (r : TextRun) : TextRun.ofDatum r.toDatum = r := by
  simp [TextRun.toDatum, TextRun.ofDatum, textOf, TextStyle.ofDatum_toDatum]

theorem ParagraphElement.ofDatum_toDatum (e : ParagraphElement) :
    ParagraphElement.ofDatum e.toDatum = e := by
  have hrun := optionalOf_optionalDatum TextRun.ofDatum_toDatum (fun _ => nofun) e.textRun
  simp [ParagraphElement.toDatum, ParagraphElement.ofDatum, optionalIndex, hrun]

theorem Bullet.ofDatum_toDatum (b : Bullet) : Bullet.ofDatum b.toDatum = b := by
  simp [Bullet.toDatum, Bullet.ofDatum, textOf, optionalIndex]

theorem Paragraph.ofDatum_toDatum (p : Paragraph) : Paragraph.ofDatum p.toDatum = p := by
  have hbullet := optionalOf_optionalDatum Bullet.ofDatum_toDatum (fun _ => nofun) p.bullet
  have helements : (p.elements.map ParagraphElement.toDatum).map ParagraphElement.ofDatum = p.elements := by
    simp [Function.comp_def, ParagraphElement.ofDatum_toDatum]
  simp [Paragraph.toDatum, Paragraph.ofDatum, elementsOf, helements, hbullet, ParagraphStyle.toDatum,
    ParagraphStyle.ofDatum, textOf]

theorem optionalParagraph (p : Option Paragraph) :
    optionalOf Paragraph.ofDatum (optionalDatum Paragraph.toDatum p) = p :=
  optionalOf_optionalDatum Paragraph.ofDatum_toDatum (fun _ => nofun) p

mutual

theorem StructuralElement.ofDatum_toDatum :
    ∀ e : StructuralElement, StructuralElement.ofDatum e.toDatum = e
  | ⟨start, stop, paragraph, none⟩ => by
    rw [StructuralElement.toDatum, StructuralElement.ofDatum, optionalIndex, optionalIndex,
      optionalParagraph, tableOfMember]
  | ⟨start, stop, paragraph, some ⟨rows⟩⟩ => by
    rw [StructuralElement.toDatum, StructuralElement.ofDatum, optionalIndex, optionalIndex,
      optionalParagraph, Table.toDatum, tableOfMember, rowsOfData_rowsToData rows]

theorem rowsOfData_rowsToData : ∀ rows : List TableRow, rowsOfData (rowsToData rows) = rows
  | [] => rfl
  | ⟨cells⟩ :: rows => by
    rw [rowsToData, rowsOfData, cellsOfData_cellsToData cells, rowsOfData_rowsToData rows]

theorem cellsOfData_cellsToData : ∀ cells : List TableCell, cellsOfData (cellsToData cells) = cells
  | [] => rfl
  | ⟨content⟩ :: cells => by
    rw [cellsToData, cellsOfData, contentOfData_contentToData content, cellsOfData_cellsToData cells]

theorem contentOfData_contentToData :
    ∀ es : List StructuralElement, contentOfData (contentToData es) = es
  | [] => rfl
  | e :: es => by
    rw [contentToData, contentOfData, e.ofDatum_toDatum, contentOfData_contentToData es]

end

theorem ofDatum_toDatum (d : Document) : ofDatum d.toDatum = d := by
  rw [toDatum, ofDatum, contentOfData_contentToData]
  rfl

-- ---------------------------------------------------------------------------
-- The layout
-- ---------------------------------------------------------------------------

theorem lossless_layout : layout.Lossless where
  nodup_members {part typeName members} hpart := by
    cases part <;> cases hpart <;> decide
  restores {part typeName members} hpart := by
    cases part <;> cases hpart <;>
      simp [Schema.restores_of_never, Schema.restores_optional, Schema.restores_setFlag,
        Schema.restores_text, Member.defaulted]
  nodup_alternatives {part alternatives} hpart := by
    cases part <;> cases hpart

-- ---------------------------------------------------------------------------
-- Indices within bounds
-- ---------------------------------------------------------------------------

def ParagraphElement.indices (e : ParagraphElement) : List Nat :=
  e.startIndex.toList ++ e.endIndex.toList

def Bullet.indices (b : Bullet) : List Nat := b.nestingLevel.toList

def Paragraph.indices (p : Paragraph) : List Nat :=
  p.elements.flatMap ParagraphElement.indices ++ p.bullet.toList.flatMap Bullet.indices

mutual

/-- All indices and nesting levels in an element. -/
def StructuralElement.indices : StructuralElement → List Nat
  | ⟨start, stop, paragraph, none⟩ =>
    start.toList ++ stop.toList ++ paragraph.toList.flatMap Paragraph.indices
  | ⟨start, stop, paragraph, some ⟨rows⟩⟩ =>
    start.toList ++ stop.toList ++ paragraph.toList.flatMap Paragraph.indices ++ rowsIndices rows

def rowsIndices : List TableRow → List Nat
  | [] => []
  | ⟨cells⟩ :: rows => cellsIndices cells ++ rowsIndices rows

def cellsIndices : List TableCell → List Nat
  | [] => []
  | ⟨content⟩ :: cells => contentIndices content ++ cellsIndices cells

def contentIndices : List StructuralElement → List Nat
  | [] => []
  | e :: es => e.indices ++ contentIndices es

end

def indices (d : Document) : List Nat := contentIndices d.body.content

/-- Numbers that 64 bits can hold. -/
def InBounds (ns : List Nat) : Prop := ∀ n ∈ ns, n < 2 ^ 64

theorem inBounds_append {ms ns : List Nat} : InBounds (ms ++ ns) ↔ InBounds ms ∧ InBounds ns :=
  List.forall_mem_append

theorem inBounds_flatMap {α : Type} {f : α → List Nat} {as : List α} :
    InBounds (as.flatMap f) ↔ ∀ a ∈ as, InBounds (f a) := List.forall_mem_flatMap

theorem fitsMember_optional {K α : Type} {schema : Schema K} {write : α → Datum} {name : String}
    {shape : Shape K} {a : Option α} (h : ∀ x ∈ a, schema.Fits shape (write x)) :
    schema.FitsMember (.optional name shape) (optionalDatum write a) := by
  cases a with
  | none => exact .absent rfl
  | some x => exact .present (h x rfl)

theorem fitsMember_index {name : String} {n : Option Nat} (h : InBounds n.toList) :
    layout.FitsMember (.optional name .index) (optionalDatum .index n) := by
  refine fitsMember_optional fun x hx => .index ?_
  have hbound := h x (Option.mem_toList.mpr hx)
  exact Nat.le_of_lt_succ hbound

theorem TextStyle.fits (s : TextStyle) : layout.Fits (.one .textStyle) s.toDatum :=
  .record rfl <| .cons (.present (.flag _)) <| .cons (.present (.flag _)) <|
    .cons (.present (.flag _)) <| .cons (.present (.flag _)) <|
    .cons (fitsMember_optional fun _ _ => .record rfl (.cons (.present (.text _)) .nil)) .nil

theorem TextRun.fits (r : TextRun) : layout.Fits (.one .textRun) r.toDatum :=
  .record rfl (.cons (.present (.text _)) (.cons (.present r.textStyle.fits) .nil))

theorem ParagraphElement.fits {e : ParagraphElement} (h : InBounds e.indices) :
    layout.Fits (.one .paragraphElement) e.toDatum := by
  rw [indices, inBounds_append] at h
  exact .record rfl (.cons (fitsMember_index h.1) (.cons (fitsMember_index h.2)
    (.cons (fitsMember_optional fun r _ => r.fits) .nil)))

theorem ParagraphStyle.fits (s : ParagraphStyle) : layout.Fits (.one .paragraphStyle) s.toDatum :=
  .record rfl (.cons (.present (.text _)) .nil)

theorem Bullet.fits {b : Bullet} (h : InBounds b.indices) : layout.Fits (.one .bullet) b.toDatum :=
  .record rfl (.cons (.present (.text _)) (.cons (fitsMember_index h) .nil))

theorem Paragraph.fits {p : Paragraph} (h : InBounds p.indices) :
    layout.Fits (.one .paragraph) p.toDatum := by
  rw [indices, inBounds_append, inBounds_flatMap, inBounds_flatMap] at h
  obtain ⟨helements, hbullet⟩ := h
  refine .record rfl (.cons (.present (.many fun d hd => ?_))
    (.cons (.present p.paragraphStyle.fits) (.cons ?_ .nil)))
  · obtain ⟨e, he, rfl⟩ := List.mem_map.mp hd
    exact ParagraphElement.fits (helements e he)
  · exact fitsMember_optional fun b hb => Bullet.fits (hbullet b (Option.mem_toList.mpr hb))

theorem fitsMember_paragraph {p : Option Paragraph}
    (h : InBounds (p.toList.flatMap Paragraph.indices)) :
    layout.FitsMember (.optional "paragraph" (.one .paragraph)) (optionalDatum Paragraph.toDatum p) := by
  rw [inBounds_flatMap] at h
  exact fitsMember_optional fun x hx => Paragraph.fits (h x (Option.mem_toList.mpr hx))

mutual

theorem StructuralElement.fits :
    ∀ e : StructuralElement, InBounds e.indices → layout.Fits (.one .structuralElement) e.toDatum
  | ⟨start, stop, paragraph, none⟩, h => by
    rw [StructuralElement.indices, inBounds_append, inBounds_append] at h
    obtain ⟨⟨hstart, hstop⟩, hparagraph⟩ := h
    rw [StructuralElement.toDatum]
    exact .record rfl (.cons (fitsMember_index hstart) (.cons (fitsMember_index hstop)
      (.cons (fitsMember_paragraph hparagraph) (.cons (.absent rfl) .nil))))
  | ⟨start, stop, paragraph, some ⟨rows⟩⟩, h => by
    rw [StructuralElement.indices, inBounds_append, inBounds_append, inBounds_append] at h
    obtain ⟨⟨⟨hstart, hstop⟩, hparagraph⟩, hrows⟩ := h
    have htable : layout.Fits (.one .table) (.record [.list (rowsToData rows)]) :=
      .record rfl (.cons (.present (.many (rows_fit rows hrows))) .nil)
    rw [StructuralElement.toDatum, Table.toDatum]
    exact .record rfl (.cons (fitsMember_index hstart) (.cons (fitsMember_index hstop)
      (.cons (fitsMember_paragraph hparagraph) (.cons (.present htable) .nil))))

theorem rows_fit : ∀ rows : List TableRow, InBounds (rowsIndices rows) →
    ∀ d ∈ rowsToData rows, layout.Fits (.one .tableRow) d
  | [], _ => by simp [rowsToData]
  | ⟨cells⟩ :: rows, h => by
    rw [rowsIndices, inBounds_append] at h
    rw [rowsToData, List.forall_mem_cons]
    exact ⟨.record rfl (.cons (.present (.many (cells_fit cells h.1))) .nil), rows_fit rows h.2⟩

theorem cells_fit : ∀ cells : List TableCell, InBounds (cellsIndices cells) →
    ∀ d ∈ cellsToData cells, layout.Fits (.one .tableCell) d
  | [], _ => by simp [cellsToData]
  | ⟨content⟩ :: cells, h => by
    rw [cellsIndices, inBounds_append] at h
    rw [cellsToData, List.forall_mem_cons]
    exact ⟨.record rfl (.cons (.present (.many (content_fits content h.1))) .nil), cells_fit cells h.2⟩

theorem content_fits : ∀ es : List StructuralElement, InBounds (contentIndices es) →
    ∀ d ∈ contentToData es, layout.Fits (.one .structuralElement) d
  | [], _ => by simp [contentToData]
  | e :: es, h => by
    rw [contentIndices, inBounds_append] at h
    rw [contentToData, List.forall_mem_cons]
    exact ⟨StructuralElement.fits e h.1, content_fits es h.2⟩

end

theorem fits {d : Document} (h : InBounds d.indices) : layout.Fits (.one .document) d.toDatum := by
  refine .record rfl (.cons (.present (.text _)) (.cons (.present (.text _)) (.cons (.present ?_) .nil)))
  exact .record rfl (.cons (.present (.many (content_fits _ h))) .nil)

-- ---------------------------------------------------------------------------
-- Depth
-- ---------------------------------------------------------------------------

theorem depth_optional_le {K α : Type} {schema : Schema K} {write : α → Datum} {shape : Shape K} {a : Option α}
    {n : Nat} (h : ∀ x ∈ a, (schema.writeShape shape (write x)).depth ≤ n) :
    (schema.writeShape shape (optionalDatum write a)).depth ≤ n := by
  cases a with
  | none => cases shape <;> exact Nat.zero_le n
  | some x => exact h x rfl

theorem depth_optionalIndex_le {K : Type} (schema : Schema K) (a : Option Nat) (n : Nat) :
    (schema.writeShape .index (optionalDatum .index a)).depth ≤ n :=
  depth_optional_le fun _ _ => Nat.zero_le n

theorem Link.depth_le (l : Link) : (layout.write .link l.toDatum).depth ≤ 1 :=
  Schema.depth_record_le rfl (.cons (Nat.le_refl 0) .nil)

theorem TextStyle.depth_le (s : TextStyle) : (layout.write .textStyle s.toDatum).depth ≤ 2 :=
  Schema.depth_record_le rfl <| .cons (Nat.zero_le 1) <| .cons (Nat.zero_le 1) <|
    .cons (Nat.zero_le 1) <| .cons (Nat.zero_le 1) <|
    .cons (depth_optional_le fun l _ => l.depth_le) .nil

theorem TextRun.depth_le (r : TextRun) : (layout.write .textRun r.toDatum).depth ≤ 3 :=
  Schema.depth_record_le rfl (.cons (Nat.zero_le 2) (.cons r.textStyle.depth_le .nil))

theorem ParagraphElement.depth_le (e : ParagraphElement) :
    (layout.write .paragraphElement e.toDatum).depth ≤ 4 :=
  Schema.depth_record_le rfl (.cons (depth_optionalIndex_le ..) (.cons (depth_optionalIndex_le ..)
    (.cons (depth_optional_le fun r _ => r.depth_le) .nil)))

theorem ParagraphStyle.depth_le (s : ParagraphStyle) :
    (layout.write .paragraphStyle s.toDatum).depth ≤ 1 :=
  Schema.depth_record_le rfl (.cons (Nat.le_refl 0) .nil)

theorem Bullet.depth_le (b : Bullet) : (layout.write .bullet b.toDatum).depth ≤ 1 :=
  Schema.depth_record_le rfl (.cons (Nat.le_refl 0) (.cons (depth_optionalIndex_le ..) .nil))

theorem Paragraph.depth_le (p : Paragraph) : (layout.write .paragraph p.toDatum).depth ≤ 6 := by
  refine Schema.depth_record_le rfl (.cons (Schema.depth_many_le (List.forall_mem_map.mpr ?_)) ?_)
  · exact fun e _ => e.depth_le
  · exact .cons (p.paragraphStyle.depth_le.trans (by decide))
      (.cons (depth_optional_le fun b _ => b.depth_le.trans (by decide)) .nil)

/-- Elements that hold no table are nested as deep as their paragraphs. -/
theorem StructuralElement.depth_le {e : StructuralElement} (h : e.table = none) :
    (layout.write .structuralElement e.toDatum).depth ≤ 7 := by
  obtain ⟨start, stop, paragraph, table⟩ := e
  subst h
  rw [toDatum]
  exact Schema.depth_record_le rfl (.cons (depth_optionalIndex_le ..) (.cons (depth_optionalIndex_le ..)
    (.cons (depth_optional_le fun p _ => p.depth_le) (.cons (Nat.zero_le 6) .nil))))

theorem depth_content_le {es : List StructuralElement} (h : ∀ e ∈ es, e.table = none) :
    ∀ d ∈ contentToData es, (layout.write .structuralElement d).depth ≤ 7 := by
  induction es with
  | nil => simp [contentToData]
  | cons e es ih =>
    rw [List.forall_mem_cons] at h
    rw [contentToData, List.forall_mem_cons]
    exact ⟨StructuralElement.depth_le h.1, ih h.2⟩

/-- A document without tables is not nested deep. -/
theorem depth_toJson_le {d : Document} (h : ∀ e ∈ d.body.content, e.table = none) : d.toJson.depth ≤ 10 := by
  refine Schema.depth_record_le rfl (.cons (Nat.zero_le 9) (.cons (Nat.zero_le 9) (.cons ?_ .nil)))
  exact Schema.depth_record_le rfl (.cons (Schema.depth_many_le (depth_content_le h)) .nil)

-- ---------------------------------------------------------------------------
-- Texts
-- ---------------------------------------------------------------------------

/-- A document is read from every text that spells its value, with whatever blanks. -/
theorem fromJson?_of_spelledIn {d : Document} {text : String} (hindices : InBounds d.indices)
    (hdepth : d.toJson.depth ≤ maxDepth) (htext : SpelledIn d.toJson text) :
    fromJson? text = .ok d := by
  rw [fromJson?, Schema.read_of_spelledIn lossless_layout (fits hindices) hdepth htext]
  exact congrArg Except.ok d.ofDatum_toDatum

/-- A document is read back from its compact and from its indented text. -/
theorem fromJson?_toJson {d : Document} (hindices : ∀ n ∈ d.indices, n < 2 ^ 64)
    (hdepth : d.toJson.depth ≤ 127) :
    fromJson? d.toJson.compactText = .ok d ∧ fromJson? d.toJson.prettyText = .ok d :=
  ⟨fromJson?_of_spelledIn hindices hdepth (spelledIn_compactText _),
    fromJson?_of_spelledIn hindices hdepth (spelledIn_prettyText _)⟩

/-- A table in a cell of a table, around text that has to be escaped and the greatest index. -/
theorem fromJson?_toJson_nestedTables :
    let run : TextRun := ⟨"\"\\\x01\n😀", ⟨true, false, false, false, some ⟨""⟩⟩⟩
    let paragraph : Paragraph :=
      ⟨[⟨none, some 18446744073709551615, some run⟩, {}], ⟨"TITLE"⟩, some ⟨"l", some 0⟩⟩
    let inner : StructuralElement := ⟨some 1, none, some paragraph, some ⟨[⟨[⟨[]⟩]⟩]⟩⟩
    let outer : StructuralElement := .ofTable ⟨[⟨[⟨[inner, default]⟩]⟩, ⟨[]⟩]⟩
    let d := Document.ofContent "\x7f" [outer]
    d.indices = [1, 18446744073709551615, 0] ∧ d.toJson.depth = 17
      ∧ fromJson? d.toJson.compactText = .ok d ∧ fromJson? d.toJson.prettyText = .ok d := by
  intro run paragraph inner outer d
  have hindices : d.indices = [1, 18446744073709551615, 0] := by decide +kernel
  have hdepth : d.toJson.depth = 17 := by decide +kernel
  exact ⟨hindices, hdepth, fromJson?_toJson (by simp [hindices]) (by simp [hdepth])⟩

end DocMark.Document
