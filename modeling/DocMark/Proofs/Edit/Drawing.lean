-- SUMMARY: What the operations of a block tree draw, paragraph by paragraph, and what one sees of it.
import Mathlib
import DocMark.Proofs.Edit.Compilation
import DocMark.Proofs.Markdown.Outline
import DocMark.Proofs.Service.Export

/-!
# Drawing block trees

A new document is one fresh paragraph, and every block is drawn at the end of what is there. It adds
paragraphs with the lines of its outline, the last of which is not blank; only the first block of a
document takes over the paragraph it finds. A list first adds a fresh paragraph, and
so does every item, but these stay blank and keep the style of normal text. When a list closes, its
bullets reach from its fresh paragraph to the end, so that they turn every paragraph that it added
into an item, those of inner lists included.
-/
namespace DocMark.Edit

open Document Markdown Service Text
open Service.PlainParagraph (fresh layout layout_append layout_singleton withBullet)

variable {ps before new : List PlainParagraph} {last : PlainParagraph}

/-! ## Paragraphs and lines -/

/-- Paragraphs that show the lines, and all of them with a marker once they are items of a list. -/
structure Shown (lines : Bool → List String) (new : List PlainParagraph) : Prop where
  plain : new.flatMap (·.lines) = lines false
  bulleted : ∀ bullet, (new.map (withBullet bullet)).flatMap (·.lines) = lines true
  tidy : ∀ p ∈ new, p.Tidy

/-- Whether there is a last paragraph, and it is not blank. -/
def EndsVisibly (new : List PlainParagraph) : Prop :=
  ∃ init last, new = init ++ [last] ∧ trim last.text ≠ []

section Shown

variable {xs ys : List PlainParagraph} {f g : Bool → List String}

theorem shown_fresh : Shown (fun _ => []) [fresh] where
  plain := rfl
  bulleted := fun _ => rfl
  tidy := by
    simp [PlainParagraph.tidy_fresh]

theorem Shown.append (hx : Shown f xs) (hy : Shown g ys) :
    Shown (fun inList => f inList ++ g inList) (xs ++ ys) where
  plain := by rw [List.flatMap_append, hx.plain, hy.plain]
  bulleted := fun bullet => by
    rw [List.map_append, List.flatMap_append, hx.bulleted, hy.bulleted]
  tidy := fun p hp => (List.mem_append.mp hp).elim (hx.tidy p) (hy.tidy p)

/-- Paragraphs that are items already become items of the new list. -/
theorem Shown.withBullet (h : Shown f xs) (bullet : Bullet) :
    Shown (fun _ => f true) (xs.map (withBullet bullet)) where
  plain := h.bulleted bullet
  bulleted := fun outer => by
    rw [List.map_map]
    exact h.bulleted outer
  tidy := fun p hp => by
    obtain ⟨q, hq, rfl⟩ := List.mem_map.mp hp
    exact (h.tidy q hq).withBullet bullet

theorem shown_line {cs : List Node} (hcs : Node.holdLine cs = true) {style : NamedStyle}
    {start : String} (hstart : markdownMarker style.name = start)
    (hline : '\n' ∉ (Node.plainTextAll cs).toList) :
    Shown (fun inList => [Node.outlineLine inList start cs])
      [(fresh.append (Node.plainTextAll cs).toList hline).withStyle style] := by
  obtain ⟨-, -, hsome⟩ := Node.holdLine_iff.mp hcs
  constructor
  · simp [PlainParagraph.lines, PlainParagraph.withStyle, PlainParagraph.mapAttributes,
      PlainParagraph.append, fresh, hsome, hstart, Node.outlineLine]
  · intro bullet
    simp [PlainParagraph.lines, PlainParagraph.withStyle, PlainParagraph.withBullet,
      PlainParagraph.mapAttributes, PlainParagraph.append, fresh, hsome, hstart, Node.outlineLine,
      bulletMarker]
  · intro p hp
    cases List.mem_singleton.mp hp
    exact fun hblank => absurd hblank hsome

theorem EndsVisibly.append_left (h : EndsVisibly ys) (xs : List PlainParagraph) :
    EndsVisibly (xs ++ ys) := by
  obtain ⟨init, last, rfl, hlast⟩ := h
  exact ⟨xs ++ init, last, (List.append_assoc ..).symm, hlast⟩

theorem EndsVisibly.withBullet (h : EndsVisibly xs) (bullet : Bullet) :
    EndsVisibly (xs.map (withBullet bullet)) := by
  obtain ⟨init, last, rfl, hlast⟩ := h
  exact ⟨init.map (withBullet bullet), last.withBullet bullet, by simp, hlast⟩

theorem endsVisibly_line {cs : List Node} (hcs : Node.holdLine cs = true) (style : NamedStyle)
    (hline : '\n' ∉ (Node.plainTextAll cs).toList) :
    EndsVisibly [(fresh.append (Node.plainTextAll cs).toList hline).withStyle style] :=
  ⟨[], _, rfl, (Node.holdLine_iff.mp hcs).2.2⟩

end Shown

/-! ## Pieces of a build at the end of a document -/

/-- The cursor at the end of a document of these paragraphs. -/
def cursorAt (ps : List PlainParagraph) : Nat := (layout ps).length

/-- Carried out on a document of paragraphs, a piece gives one whose paragraphs satisfy `Q`, and
    leaves the cursor at its end. -/
def Compiled.Draws (ps : List PlainParagraph) (c : Compiled) (Q : List PlainParagraph → Prop) :
    Prop :=
  ∀ d : LocalDocument, d.Shows ps →
    ∃ d' ps', d.carryOut c.operations = .ok d' ∧ d'.Shows ps' ∧ c.cursor = cursorAt ps' ∧ Q ps'

theorem cursorAt_pos (before : List PlainParagraph) (last : PlainParagraph) :
    0 < cursorAt (before ++ [last]) := by
  rw [cursorAt, layout_append, layout_singleton, List.length_append, PlainParagraph.length_units]
  omega

theorem cursorAt_concat_fresh (ps : List PlainParagraph) :
    cursorAt (ps ++ [fresh]) = cursorAt ps + 1 := by
  rw [cursorAt, layout_append, List.length_append]
  rfl

theorem cursorAt_map (f : ParagraphAttributes → ParagraphAttributes)
    (before new : List PlainParagraph) :
    cursorAt (before ++ new.map (.mapAttributes f)) = cursorAt (before ++ new) := by
  rw [cursorAt, layout_append, ← PlainParagraph.map_mapAttributes_layout, List.length_append,
    List.length_map, ← List.length_append, ← layout_append, cursorAt]

theorem EndsVisibly.one_lt_cursorAt (h : EndsVisibly new) (before : List PlainParagraph) :
    1 < cursorAt (before ++ new) := by
  obtain ⟨init, last, rfl, hlast⟩ := h
  have hbody : 0 < last.body.length := by
    rw [PlainParagraph.body, List.length_map, List.length_pos_iff]
    refine mt Utf16.encode_eq_nil_iff.mp ?_
    rintro hnil
    rw [hnil] at hlast
    exact hlast rfl
  rw [← List.append_assoc, cursorAt, layout_append, layout_singleton, List.length_append,
    PlainParagraph.length_units]
  omega

namespace Compiled.Draws

variable {a c : Compiled} {Q R : List PlainParagraph → Prop}

theorem mono (h : c.Draws ps Q) (hQR : ∀ ps', Q ps' → R ps') : c.Draws ps R := by
  intro d hd
  obtain ⟨d', ps', hd', hshows, hcursor, hQ⟩ := h d hd
  exact ⟨d', ps', hd', hshows, hcursor, hQR ps' hQ⟩

theorem nothing : (Compiled.nothing (cursorAt ps)).Draws ps (· = ps) :=
  fun d hd => ⟨d, ps, rfl, hd, rfl, rfl⟩

theorem andThen {f : Nat → Compiled} (ha : a.Draws ps Q)
    (hf : ∀ ps', Q ps' → (f (cursorAt ps')).Draws ps' R) : (a.andThen f).Draws ps R := by
  intro d hd
  obtain ⟨d₁, ps₁, hd₁, hshows₁, hcursor₁, hQ⟩ := ha d hd
  obtain ⟨d₂, ps₂, hd₂, hshows₂, hcursor₂, hR⟩ := hf ps₁ hQ d₁ hshows₁
  refine ⟨d₂, ps₂, ?_, hshows₂, ?_, hR⟩
  · change d.carryOut (a.operations ++ (f a.cursor).operations) = _
    rw [LocalDocument.carryOut_append, hd₁, hcursor₁]
    exact hd₂
  · change (f a.cursor).cursor = _
    rw [hcursor₁]
    exact hcursor₂

/-- A closing operation changes attributes, so the cursor stays at the end. -/
theorem andStyle {op : Nat → Operation} (hc : c.Draws ps Q)
    (hop : ∀ ps', Q ps' → ∀ d : LocalDocument, d.Shows ps' → ∃ d' ps'',
      d.apply (.ofOperation (op (cursorAt ps'))) = .ok d' ∧ d'.Shows ps''
        ∧ cursorAt ps'' = cursorAt ps' ∧ R ps'') :
    (c.andStyle fun stop => [op stop]).Draws ps R := by
  intro d hd
  obtain ⟨d₁, ps₁, hd₁, hshows₁, hcursor₁, hQ⟩ := hc d hd
  obtain ⟨d₂, ps₂, hd₂, hshows₂, hcursor₂, hR⟩ := hop ps₁ hQ d₁ hshows₁
  refine ⟨d₂, ps₂, ?_, hshows₂, hcursor₁.trans hcursor₂.symm, hR⟩
  change d.carryOut (c.operations ++ [op c.cursor]) = _
  rw [LocalDocument.carryOut_append, hd₁, hcursor₁]
  exact (d₁.carryOut_singleton _).trans hd₂

theorem style {style : NamedStyle} (hstyle : style.isStandard = true)
    (hc : c.Draws ps (· = before ++ [last])) :
    (c.andStyle fun stop =>
        [.setParagraphStyle (closedRange (cursorAt before + 1) stop) style.name]).Draws ps
      (· = before ++ [last.withStyle style]) := by
  refine hc.andStyle ?_
  rintro _ rfl d hd
  obtain ⟨d', hd', hshows⟩ := hd.setStyle hstyle
  exact ⟨d', _, hd', hshows, cursorAt_map _ before [last], rfl⟩

end Compiled.Draws

theorem draws_break : (compileBreak (cursorAt (before ++ [last]))).Draws (before ++ [last])
    (· = before ++ [last] ++ [fresh]) := by
  intro d hd
  obtain ⟨d', hd', hshows⟩ := hd.insertBreak
  rw [hd.endIndex_eq] at hd'
  exact ⟨d', _, (d.carryOut_singleton _).trans hd', hshows, (cursorAt_concat_fresh _).symm, rfl⟩

theorem draws_insertion {text : String} (htext : text ≠ "") (hline : '\n' ∉ text.toList) :
    (Compiled.insertion text (cursorAt (before ++ [last]))).Draws (before ++ [last])
      (· = before ++ [last.append text.toList hline]) := by
  intro d hd
  obtain ⟨d', hd', hshows⟩ := hd.insertText htext hline
  rw [hd.endIndex_eq] at hd'
  refine ⟨d', _, (d.carryOut_singleton _).trans hd', hshows, ?_, rfl⟩
  change cursorAt _ + _ = _
  simp only [cursorAt, layout_append, layout_singleton, List.length_append,
    PlainParagraph.length_units, PlainParagraph.body_append, List.length_map, Utf16.length_encode]
  omega

/-! ## Where blocks begin -/

/-- A new document, or one in which something was written. -/
def Ready (ps : List PlainParagraph) : Prop := ps = [fresh] ∨ 1 < cursorAt ps

/-- The paragraphs that a block leaves alone. In a new document it begins in the paragraph there. -/
def kept (ps : List PlainParagraph) : List PlainParagraph := if 1 < cursorAt ps then ps else []

theorem ne_nil_of_one_lt_cursorAt (h : 1 < cursorAt ps) : ps ≠ [] := by
  rintro rfl
  exact absurd h (by decide)

theorem Ready.ne_nil (h : Ready ps) : ps ≠ [] := by
  rcases h with rfl | hwritten
  · simp
  · exact ne_nil_of_one_lt_cursorAt hwritten

theorem exists_eq_concat (h : ps ≠ []) : ∃ before last, ps = before ++ [last] :=
  ⟨_, _, (List.dropLast_append_getLast h).symm⟩

theorem draws_breakUnlessFirst (h : Ready ps) :
    (compileBreakUnlessFirst (cursorAt ps)).Draws ps (· = kept ps ++ [fresh]) := by
  rcases h with rfl | hwritten
  · exact Compiled.Draws.nothing
  · obtain ⟨before, last, rfl⟩ := exists_eq_concat (ne_nil_of_one_lt_cursorAt hwritten)
    have hkept : kept (before ++ [last]) = before ++ [last] := if_pos hwritten
    have hbreak : compileBreakUnlessFirst (cursorAt (before ++ [last])) =
        compileBreak (cursorAt (before ++ [last])) := if_pos hwritten
    rw [hkept, hbreak]
    exact draws_break

/-! ## Trees -/

variable (options : BuildOptions)

theorem append_append (p : PlainParagraph) {xs ys : List Char} (hxs : '\n' ∉ xs) (hys : '\n' ∉ ys)
    (h : '\n' ∉ xs ++ ys) : (p.append xs hxs).append ys hys = p.append (xs ++ ys) h := by
  simp [PlainParagraph.append]

mutual

/-- Plain text continues the last paragraph. -/
theorem draws_inline {before : List PlainParagraph} {last : PlainParagraph} (n : Node)
    (h : n.isPlainInline = true) (hline : '\n' ∉ n.plainText.toList) :
    (compileNode options n (cursorAt (before ++ [last]))).Draws (before ++ [last])
      (· = before ++ [last.append n.plainText.toList hline]) := by
  cases n with
  | text content =>
    simp only [compileNode]
    split
    · rename_i hempty
      have hcontent : content = "" := by simpa using hempty
      subst hcontent
      refine Compiled.Draws.nothing.mono ?_
      rintro _ rfl
      simp [PlainParagraph.append, Node.plainText]
    · rename_i hcontent
      have hsome : content ≠ "" := by simpa using hcontent
      exact draws_insertion hsome hline
  | other kind cs => exact draws_inlines cs h hline
  | document cs => cases h
  | heading level anchor cs => cases h
  | paragraph cs => cases h
  | textBlock cs => cases h
  | list ordered tight items => cases h
  | listItem cs => cases h
  | link destination cs => cases h

theorem draws_inlines {before : List PlainParagraph} {last : PlainParagraph} (ns : List Node)
    (h : Node.arePlainInline ns = true) (hline : '\n' ∉ (Node.plainTextAll ns).toList) :
    (compileAll options ns (cursorAt (before ++ [last]))).Draws (before ++ [last])
      (· = before ++ [last.append (Node.plainTextAll ns).toList hline]) := by
  cases ns with
  | nil =>
    refine Compiled.Draws.nothing.mono ?_
    rintro _ rfl
    simp [PlainParagraph.append, Node.plainTextAll]
  | cons n ns =>
    simp only [Node.arePlainInline, Bool.and_eq_true] at h
    have hsplit : (Node.plainTextAll (n :: ns)).toList =
        n.plainText.toList ++ (Node.plainTextAll ns).toList := String.toList_append
    have hn : '\n' ∉ n.plainText.toList := fun hmem =>
      hline (hsplit ▸ List.mem_append_left _ hmem)
    have hns : '\n' ∉ (Node.plainTextAll ns).toList := fun hmem =>
      hline (hsplit ▸ List.mem_append_right _ hmem)
    simp only [compileAll]
    refine (draws_inline n h.1 hn).andThen ?_
    rintro _ rfl
    refine (draws_inlines ns h.2 hns).mono ?_
    rintro _ rfl
    simp only [hsplit]
    rw [append_append]

end

/-- What one line of text adds to a document that ends in a fresh paragraph. -/
theorem draws_line (before : List PlainParagraph) {cs : List Node} (h : Node.holdLine cs = true) :
    ∃ hline, (compileAll options cs (cursorAt (before ++ [fresh]))).Draws (before ++ [fresh])
      (· = before ++ [fresh.append (Node.plainTextAll cs).toList hline]) := by
  obtain ⟨hinline, hline, -⟩ := Node.holdLine_iff.mp h
  exact ⟨hline, draws_inlines options cs hinline hline⟩

/-! ## Blocks -/

/-- Paragraphs that stand after `ps`, show the lines and end visibly. -/
def Adds (ps : List PlainParagraph) (lines : Bool → List String) (ps' : List PlainParagraph) : Prop :=
  ∃ new, ps' = ps ++ new ∧ Shown lines new ∧ EndsVisibly new

/-- The same for the outline of several nodes; no nodes add nothing. -/
def AddsAll (ps : List PlainParagraph) (ns : List Node) (ps' : List PlainParagraph) : Prop :=
  Adds ps (Node.outlineAll · ns) ps' ∨ ns = [] ∧ ps' = ps

section Adds

variable {ps' ps'' : List PlainParagraph} {f g : Bool → List String}

theorem Adds.one_lt_cursorAt (h : Adds ps f ps') : 1 < cursorAt ps' := by
  obtain ⟨new, rfl, -, hends⟩ := h
  exact hends.one_lt_cursorAt ps

theorem Adds.append (h : Adds ps f ps') (h' : Adds ps' g ps'') :
    Adds ps (fun inList => f inList ++ g inList) ps'' := by
  obtain ⟨new, rfl, hshown, -⟩ := h
  obtain ⟨new', rfl, hshown', hends⟩ := h'
  exact ⟨new ++ new', List.append_assoc .., hshown.append hshown', hends.append_left new⟩

theorem Adds.appendAll {ns : List Node} (h : Adds ps f ps') (h' : AddsAll ps' ns ps'') :
    Adds ps (fun inList => f inList ++ Node.outlineAll inList ns) ps'' := by
  rcases h' with hadds | ⟨rfl, rfl⟩
  · exact h.append hadds
  · simpa [Node.outlineAll] using h

/-- A fresh paragraph before the others shows nothing. -/
theorem Adds.of_concat_fresh (h : Adds (ps ++ [fresh]) f ps') : Adds ps f ps' := by
  obtain ⟨new, rfl, hshown, hends⟩ := h
  exact ⟨[fresh] ++ new, List.append_assoc .., shown_fresh.append hshown, hends.append_left [fresh]⟩

theorem Adds.of_ready (hps : Ready ps) (h : Adds ps f ps') : Adds (kept ps) f ps' := by
  rcases hps with rfl | hwritten
  · exact Adds.of_concat_fresh h
  · rw [kept, if_pos hwritten]
    exact h

end Adds

/-- A line with its style, in the fresh paragraph that it finds. -/
theorem draws_styledLine {cs : List Node} (h : Node.holdLine cs = true) {style : NamedStyle}
    (hstyle : style.isStandard = true) {start : String}
    (hstart : markdownMarker style.name = start) :
    ((compileAll options cs (cursorAt (before ++ [fresh]))).andStyle fun stop =>
        [.setParagraphStyle (closedRange (cursorAt (before ++ [fresh])) stop) style.name]).Draws
      (before ++ [fresh]) (Adds before fun inList => [Node.outlineLine inList start cs]) := by
  obtain ⟨hline, hdraws⟩ := draws_line options before h
  have hstyled := hdraws.style hstyle
  rw [← cursorAt_concat_fresh] at hstyled
  refine hstyled.mono ?_
  rintro _ rfl
  exact ⟨_, rfl, shown_line h hstart hline, endsVisibly_line h style hline⟩

/-- The text of a tight item is a line of normal text. -/
theorem draws_itemText (n : Node) (h : n.isItemText = true) :
    (compileNode options n (cursorAt (before ++ [fresh]))).Draws (before ++ [fresh])
      (Adds before (n.outline ·)) := by
  cases n with
  | textBlock cs =>
    simp only [compileNode]
    have hstart : markdownMarker NamedStyle.normalText.name = "" := by decide
    obtain ⟨hline, hdraws⟩ := draws_line options before h
    refine hdraws.mono ?_
    rintro _ rfl
    exact ⟨_, rfl, shown_line h hstart hline, endsVisibly_line h .normalText hline⟩
  | document cs => cases h
  | heading level anchor cs => cases h
  | paragraph cs => cases h
  | text content => cases h
  | list ordered tight items => cases h
  | listItem cs => cases h
  | link destination cs => cases h
  | other kind cs => cases h

/-- When a list closes, its fresh paragraph and all that it added become items. -/
theorem Compiled.Draws.bullets {c : Compiled} {lines : Bool → List String} {preset : String}
    (hpreset : preset ≠ "") (hc : c.Draws ps (Adds (before ++ [fresh]) lines)) :
    (c.andStyle fun stop =>
        [.setBulletList (closedRange (cursorAt (before ++ [fresh])) stop) preset]).Draws ps
      (Adds before fun _ => lines true) := by
  refine hc.andStyle fun ps' hadds d hd => ?_
  obtain ⟨_, rfl, hshown, init, last, rfl, hlast⟩ := hadds.of_concat_fresh
  have hends : EndsVisibly (init ++ [last]) := ⟨init, last, rfl, hlast⟩
  have htext : last.text ≠ [] := by
    rintro hnil
    rw [hnil] at hlast
    exact hlast rfl
  obtain ⟨d', bullet, hd', hshows⟩ := hd.setBullets htext hpreset
  rw [cursorAt_concat_fresh]
  exact ⟨d', _, hd', hshows, cursorAt_map _ before _, _, rfl, hshown.withBullet bullet,
    hends.withBullet bullet⟩

variable {options}

mutual

theorem draws_block (hpresets : ∀ ordered, options.preset ordered ≠ "") {ps : List PlainParagraph}
    (n : Node) (h : n.isBlock = true) (hps : Ready ps) :
    (compileNode options n (cursorAt ps)).Draws ps (Adds (kept ps) (n.outline ·)) := by
  cases n with
  | heading level anchor cs =>
    simp only [compileNode]
    refine (draws_breakUnlessFirst hps).andThen ?_
    rintro _ rfl
    exact draws_styledLine options h (NamedStyle.isStandard_ofLevel level)
      (NamedStyle.markdownMarker_name_ofLevel level)
  | paragraph cs =>
    simp only [compileNode]
    obtain ⟨before, last, rfl⟩ := exists_eq_concat hps.ne_nil
    refine draws_break.andThen ?_
    rintro _ rfl
    have hstart : markdownMarker NamedStyle.normalText.name = "" := by decide
    exact (draws_styledLine options h rfl hstart).mono fun ps' hadds => hadds.of_ready hps
  | list ordered tight items =>
    simp only [Node.isBlock, Bool.and_eq_true, Bool.not_eq_true', List.isEmpty_eq_false_iff] at h
    simp only [compileNode]
    refine (draws_breakUnlessFirst hps).andThen ?_
    rintro _ rfl
    have hne : kept ps ++ [fresh] ≠ [] := by simp
    have hitems := (draws_items hpresets items h.2 hne).mono
      fun ps' hadds => hadds.resolve_right fun hnone => h.1 hnone.1
    exact Compiled.Draws.bullets (hpresets ordered) hitems
  | document cs => cases h
  | textBlock cs => cases h
  | text content => cases h
  | listItem cs => cases h
  | link destination cs => cases h
  | other kind cs => cases h

theorem draws_blocks (hpresets : ∀ ordered, options.preset ordered ≠ "") {ps : List PlainParagraph}
    (ns : List Node) (h : Node.areBlocks ns = true) (hps : 1 < cursorAt ps) :
    (compileAll options ns (cursorAt ps)).Draws ps (AddsAll ps ns) := by
  cases ns with
  | nil => exact Compiled.Draws.nothing.mono fun ps' hps' => .inr ⟨rfl, hps'⟩
  | cons n ns =>
    simp only [Node.areBlocks, Bool.and_eq_true] at h
    simp only [compileAll]
    refine (draws_block hpresets n h.1 (.inr hps)).andThen fun ps' hadds => ?_
    rw [kept, if_pos hps] at hadds
    exact (draws_blocks hpresets ns h.2 hadds.one_lt_cursorAt).mono fun ps'' hall =>
      .inl (hadds.appendAll hall)

theorem draws_item (hpresets : ∀ ordered, options.preset ordered ≠ "") {ps : List PlainParagraph}
    (n : Node) (h : n.isItem = true) (hps : ps ≠ []) :
    (compileNode options n (cursorAt ps)).Draws ps (Adds ps (n.outline ·)) := by
  cases n with
  | listItem cs =>
    simp only [compileNode]
    obtain ⟨before, last, rfl⟩ := exists_eq_concat hps
    refine draws_break.andThen ?_
    rintro _ rfl
    exact draws_itemContent hpresets cs h
  | document cs => cases h
  | heading level anchor cs => cases h
  | paragraph cs => cases h
  | textBlock cs => cases h
  | text content => cases h
  | list ordered tight items => cases h
  | link destination cs => cases h
  | other kind cs => cases h

theorem draws_items (hpresets : ∀ ordered, options.preset ordered ≠ "") {ps : List PlainParagraph}
    (ns : List Node) (h : Node.areItems ns = true) (hps : ps ≠ []) :
    (compileAll options ns (cursorAt ps)).Draws ps (AddsAll ps ns) := by
  cases ns with
  | nil => exact Compiled.Draws.nothing.mono fun ps' hps' => .inr ⟨rfl, hps'⟩
  | cons n ns =>
    simp only [Node.areItems, Bool.and_eq_true] at h
    simp only [compileAll]
    refine (draws_item hpresets n h.1 hps).andThen fun ps' hadds => ?_
    exact (draws_items hpresets ns h.2 (ne_nil_of_one_lt_cursorAt hadds.one_lt_cursorAt)).mono
      fun ps'' hall => .inl (hadds.appendAll hall)

/-- The text of a tight item goes into the item's fresh paragraph; any other block breaks first. -/
theorem draws_itemContent (hpresets : ∀ ordered, options.preset ordered ≠ "")
    {before : List PlainParagraph} {last : PlainParagraph} (ns : List Node)
    (h : Node.holdItem ns = true) :
    (compileAll options ns (cursorAt (before ++ [last] ++ [fresh]))).Draws
      (before ++ [last] ++ [fresh]) (Adds (before ++ [last]) (Node.outlineAll · ns)) := by
  have hpos : 1 < cursorAt (before ++ [last] ++ [fresh]) := by
    have hlast := cursorAt_pos before last
    rw [cursorAt_concat_fresh]
    omega
  cases ns with
  | nil => cases h
  | cons n ns =>
    simp only [Node.holdItem, Bool.and_eq_true, Bool.or_eq_true] at h
    obtain ⟨hfirst, hrest⟩ := h
    simp only [compileAll]
    have hn : (compileNode options n (cursorAt (before ++ [last] ++ [fresh]))).Draws
        (before ++ [last] ++ [fresh]) (Adds (before ++ [last]) (n.outline ·)) := by
      rcases hfirst with htext | hblock
      · exact draws_itemText options n htext
      · refine (draws_block hpresets n hblock (.inr hpos)).mono fun ps' hadds => ?_
        rw [kept, if_pos hpos] at hadds
        exact hadds.of_concat_fresh
    refine hn.andThen fun ps' hadds => ?_
    exact (draws_blocks hpresets ns hrest hadds.one_lt_cursorAt).mono fun ps'' hall =>
      hadds.appendAll hall

end

/-! ## Documents -/

/-- A new document, with blocks drawn in it, shows their outline. -/
theorem carryOut_blocks (hpresets : ∀ ordered, options.preset ordered ≠ "") {blocks : List Node}
    (h : Node.areBlocks blocks = true) (documentId title : String) :
    ∃ d', (LocalDocument.new documentId title).carryOut
        (build (.document blocks) options).operations = .ok d'
      ∧ visibleLines (render d'.toDocument) =
        visibleLines ("# " ++ title) ++ Node.outlineAll false blocks := by
  have hdraws : (compileAll options blocks (cursorAt [fresh])).Draws [fresh] fun ps =>
      (∀ p ∈ ps, p.Tidy) ∧ ps.flatMap (·.lines) = Node.outlineAll false blocks := by
    cases blocks with
    | nil =>
      refine Compiled.Draws.nothing.mono ?_
      rintro _ rfl
      exact ⟨shown_fresh.tidy, rfl⟩
    | cons n ns =>
      simp only [Node.areBlocks, Bool.and_eq_true] at h
      simp only [compileAll]
      refine (draws_block hpresets n h.1 (.inl rfl)).andThen fun ps hadds => ?_
      refine (draws_blocks hpresets ns h.2 hadds.one_lt_cursorAt).mono fun ps' hall => ?_
      obtain ⟨new, rfl, hshown, -⟩ := hadds.appendAll hall
      exact ⟨hshown.tidy, hshown.plain⟩
  obtain ⟨d', ps, hd', hshows, -, htidy, hlines⟩ :=
    hdraws _ (LocalDocument.shows_new documentId title)
  refine ⟨d', ?_, ?_⟩
  · rw [build_eq_compile]
    exact hd'
  · have htitle : d'.title = title := (LocalDocument.carryOut_eq_ok hd').2.1
    rw [LocalDocument.visibleLines_render hshows htidy, hlines, htitle]

/-- Submitted under either policy, the blocks are drawn in the same way. -/
theorem submit_blocks {blocks : List Node} (h : Node.areBlocks blocks = true) (documentId title : String)
    {token : Cancellation} (ht : token.NeverCancelled) (policy : Policy) :
    ∃ report s, (LocalDocument.new documentId title).submit documentId
        (build (.document blocks)).operations policy token = (.ok report, s)
      ∧ visibleLines (render s.document.toDocument) =
        visibleLines ("# " ++ title) ++ Node.outlineAll false blocks := by
  have hpresets : ∀ ordered, BuildOptions.preset {} ordered ≠ "" := by decide
  obtain ⟨d', hd', hlines⟩ := carryOut_blocks hpresets h documentId title
  obtain ⟨report, s, hsubmit, -, hdocument⟩ := LocalDocument.submit_of_ok policy ht hd'
  refine ⟨report, s, hsubmit, ?_⟩
  -- Only the revision may differ, and the export does not depend on it.
  have hsame : s.document.toDocument = d'.toDocument := by
    rw [hdocument]
    rfl
  rw [hsame, hlines]

theorem visibleLines_title {title : String} (h : '\n' ∉ title.toList) :
    visibleLines ("# " ++ title) = [String.ofList (trim ("# " ++ title).toList)] := by
  have hline : '\n' ∉ ("# " ++ title).toList := by
    simpa [String.toList_append] using h
  have hsome : trim ("# " ++ title).toList ≠ [] := fun hnil =>
    absurd (trim_eq_nil_iff.mp hnil '#' (by simp [String.toList_append])) (by decide)
  have hlines := visibleLines_of_single hline
  rwa [String.ofList_toList, if_neg hsome] at hlines

/-- Submitting a block tree to a new document gives a document that shows its title and one line for
    every text of the tree. -/
theorem visibleLines_submit_blocks {blocks : List Node} (h : Node.areBlocks blocks = true)
    {title : String} (htitle : '\n' ∉ title.toList) {token : Cancellation}
    (ht : token.NeverCancelled) (documentId : String) (policy : Policy) :
    ∃ report s, (LocalDocument.new documentId title).submit documentId
        (build (.document blocks)).operations policy token = (.ok report, s)
      ∧ visibleLines (render s.document.toDocument) =
        String.ofList (trim ("# " ++ title).toList) :: Node.outlineAll false blocks := by
  obtain ⟨report, s, hsubmit, hlines⟩ := submit_blocks h documentId title ht policy
  refine ⟨report, s, hsubmit, ?_⟩
  rw [hlines, visibleLines_title htitle]
  rfl

/-- A heading within a list within an ordered list, between blocks without bullets. -/
theorem visibleLines_submit_nestedLists :
    let blocks : List Node :=
      [.heading 200 "a" [.text " a"],
       .list true false [.listItem [.textBlock [.other "emph" [.text "b"], .text " "],
         .list false true [.listItem [.heading 0 "c" [.text "c"], .paragraph [.text "d"]]]]],
       .paragraph [.text "e"]]
    ∃ report s, (LocalDocument.new "doc" "T ").submit "doc" (build (.document blocks)).operations
        .atomic {} = (.ok report, s)
      ∧ visibleLines (render s.document.toDocument) =
        ["# T", "###### a", "* b", "# * c", "* d", "e"] := by
  intro blocks
  have hlines : String.ofList (trim ("# " ++ "T ").toList) :: Node.outlineAll false blocks =
      ["# T", "###### a", "* b", "# * c", "* d", "e"] := by decide
  rw [← hlines]
  exact visibleLines_submit_blocks (by decide) (by decide) Cancellation.neverCancelled_default "doc"
    .atomic

end DocMark.Edit
