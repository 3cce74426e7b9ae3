-- SUMMARY: The operations of a build are accepted by every document, if and only if its lists have presets.
import Mathlib
import DocMark.Proofs.Document.NamedStyle
import DocMark.Proofs.Edit.Compilation
import DocMark.Proofs.Service.Consistency
import DocMark.Proofs.Service.Submission

/-!
# Which builds are accepted

The builder counts a cursor, the service counts the units of its document. While the operations of a
build are carried out, the document's codes are what was written so far and then `rest`, the codes it
had at the start, and the cursor is the index of the first code of `rest`. `rest` ends in a line feed,
so an index or a range up to the cursor lies within the document, and it begins with no low half, so
no insertion splits a pair. What is left to refuse is a list without a preset.
-/
namespace DocMark

open Document Edit Markdown Service Text

namespace Markdown.Node

mutual

/-- For every list of the tree, whether it is ordered. -/
def listKinds : Node → List Bool
  | .document cs => listKindsAll cs
  | .heading _ _ cs => listKindsAll cs
  | .paragraph cs => listKindsAll cs
  | .textBlock cs => listKindsAll cs
  | .text _ => []
  | .list ordered _ items => ordered :: listKindsAll items
  | .listItem cs => listKindsAll cs
  | .link _ cs => listKindsAll cs
  | .other _ cs => listKindsAll cs

def listKindsAll : List Node → List Bool
  | [] => []
  | n :: ns => n.listKinds ++ listKindsAll ns

end

end Markdown.Node

namespace Edit

/-- The text that an operation inserts. -/
def Operation.insertedText? : Operation → Option String
  | .insertText text _ => some text
  | .setParagraphStyle _ _ => none
  | .setBulletList _ _ => none
  | .setLink _ _ => none

/-- The texts that operations insert, joined. -/
def insertedText (operations : List Operation) : String :=
  String.join (operations.filterMap Operation.insertedText?)

@[simp] theorem insertedText_nil : insertedText [] = "" := rfl

@[simp] theorem insertedText_insertText (text : String) (index : Nat) :
    insertedText [.insertText text index] = text := by
  simp [insertedText, Operation.insertedText?]

theorem insertedText_append (xs ys : List Operation) :
    insertedText (xs ++ ys) = insertedText xs ++ insertedText ys := by
  simp [insertedText, List.filterMap_append]

/-- A style operation that a document accepts if it holds the indices up to `cursor`. -/
structure Operation.StylesWithin (cursor : Nat) (op : Operation) : Prop where
  range : ∃ r, op.range? = some r ∧ 1 ≤ r.start ∧ r.start ≤ r.last ∧ r.last ≤ cursor
  style : ∀ r name, op = .setParagraphStyle r name → (NamedStyle.parse? name).isSome = true
  preset : ∀ r preset, op = .setBulletList r preset → preset ≠ ""

theorem Operation.StylesWithin.insertedText?_eq_none {cursor : Nat} {op : Operation}
    (h : op.StylesWithin cursor) : op.insertedText? = none := by
  obtain ⟨r, hr, -⟩ := h.range
  cases op with
  | insertText text index => cases hr
  | setParagraphStyle range name => rfl
  | setBulletList range preset => rfl
  | setLink range url => rfl

theorem insertedText_styles {cursor : Nat} {operations : List Operation}
    (h : ∀ op ∈ operations, op.StylesWithin cursor) : insertedText operations = "" := by
  have hnone : operations.filterMap Operation.insertedText? = [] :=
    List.filterMap_eq_nil_iff.mpr fun op hop => (h op hop).insertedText?_eq_none
  rw [insertedText, hnone]
  rfl

end Edit

/-! ## A document in the middle of a build -/

namespace Service.LocalDocument

/-- The codes are those written so far and those to come after the cursor. -/
structure Holds (d : LocalDocument) (written rest : List UInt16) (cursor : Nat) : Prop where
  codes : d.codes = written ++ rest
  cursor : cursor = written.length + 1

namespace Holds

variable {d : LocalDocument} {written rest : List UInt16} {cursor : Nat}

theorem endIndex_eq (h : d.Holds written rest cursor) :
    d.endIndex = written.length + rest.length := by
  have hlength : d.codes.length = d.endIndex := List.length_map ..
  rw [← hlength, h.codes, List.length_append]

theorem insertText (h : d.Holds written rest cursor) (hrest : rest ≠ [])
    (hwhole : rest.head?.any Utf16.isLow = false) {text : String} (htext : text ≠ "") :
    ∃ d', d.apply (.insertText text cursor) = .ok d'
      ∧ d'.Holds (written ++ Utf16.encode text.toList) rest (cursor + Utf16.length text) := by
  have hindex : cursor - 1 = written.length := by rw [h.cursor, Nat.add_sub_cancel]
  have hwithin : 1 ≤ cursor ∧ cursor ≤ d.endIndex := by
    have hpos := List.length_pos_iff.mpr hrest
    rw [h.endIndex_eq, h.cursor]
    omega
  have hnotLow : d.units[cursor - 1]?.any (·.isLowHalf) = false := by
    have hat : (d.units[cursor - 1]?).map (·.code) = rest.head? := by
      rw [← List.getElem?_map, hindex]
      change d.codes[written.length]? = rest.head?
      rw [h.codes, List.getElem?_append_right (le_refl _), Nat.sub_self, List.head?_eq_getElem?]
    rw [← hat, Option.any_map] at hwhole
    exact hwhole
  refine ⟨_, insertText_eq_ok_iff.mpr ⟨htext, hwithin, hnotLow, rfl⟩, ?_, ?_⟩
  · change (insertedAt text (cursor - 1) d.units).map (·.code) = _
    rw [codes_insertedAt, hindex]
    change d.codes.take _ ++ _ ++ d.codes.drop _ = _
    rw [h.codes, List.take_left, List.drop_left]
  · rw [h.cursor, List.length_append, Utf16.length_encode]
    omega

theorem style (h : d.Holds written rest cursor) (hrest : rest ≠ []) {op : Operation}
    (hop : op.StylesWithin cursor) :
    ∃ d', d.apply (.ofOperation op) = .ok d' ∧ d'.Holds written rest cursor := by
  obtain ⟨r, hr, hstart, hordered, hlast⟩ := hop.range
  have hwithin : r.last ≤ d.endIndex := by
    have hpos := List.length_pos_iff.mpr hrest
    rw [h.cursor] at hlast
    rw [h.endIndex_eq]
    omega
  have hcheck := checkRange_toRange hstart hordered hwithin
  have hplaces : r.start - 1 ≤ r.last - 1 := by omega
  cases op with
  | insertText text index => cases hr
  | setParagraphStyle range name =>
    cases hr
    obtain ⟨named, hnamed⟩ := Option.isSome_iff_exists.mp (hop.style r name rfl)
    refine ⟨_, updateParagraphStyle_eq_ok_iff.mpr ⟨named, _, _, hnamed, hcheck, rfl⟩, ?_, h.cursor⟩
    rw [← h.codes, LocalDocument.codes, LocalDocument.codes]
    dsimp only
    exact codes_mapParagraphs hplaces _ d.units
  | setBulletList range preset =>
    cases hr
    refine ⟨_, createParagraphBullets_eq_ok_iff.mpr ⟨hop.preset r preset rfl, _, _, hcheck, rfl⟩,
      ?_, h.cursor⟩
    rw [← h.codes, LocalDocument.codes, LocalDocument.codes]
    dsimp only
    exact codes_mapParagraphs hplaces _ d.units
  | setLink range url =>
    cases hr
    refine ⟨_, updateTextStyle_eq_ok_iff.mpr ⟨_, _, hcheck, rfl⟩, ?_, h.cursor⟩
    split
    · rw [← h.codes, LocalDocument.codes, LocalDocument.codes]
      dsimp only
      refine codes_mapBetween ?_ (hplaces.trans (Nat.le_succ _)) d.units
      exact fun _ => rfl
    · exact h.codes

theorem styles (h : d.Holds written rest cursor) (hrest : rest ≠ []) {operations : List Operation}
    (hops : ∀ op ∈ operations, op.StylesWithin cursor) :
    ∃ d', d.carryOut operations = .ok d' ∧ d'.Holds written rest cursor := by
  induction operations generalizing d with
  | nil => exact ⟨d, rfl, h⟩
  | cons op operations ih =>
    obtain ⟨next, hnext, hholds⟩ := h.style hrest (hops op (List.mem_cons_self ..))
    obtain ⟨d', hd', hfinal⟩ := ih hholds fun op hop => hops op (List.mem_cons_of_mem _ hop)
    refine ⟨d', ?_, hfinal⟩
    rw [carryOut_cons, hnext]
    exact hd'

end Holds

end Service.LocalDocument

/-! ## Pieces of a build -/

namespace Edit

variable {rest : List UInt16} {cursor : Nat} {a c : Compiled}

/-- Carried out where it was compiled for, a piece writes its texts between the others. -/
def Compiled.Writes (rest : List UInt16) (cursor : Nat) (c : Compiled) : Prop :=
  ∀ (d : LocalDocument) (written : List UInt16), d.Holds written rest cursor →
    ∃ d', d.carryOut c.operations = .ok d'
      ∧ d'.Holds (written ++ Utf16.encode (insertedText c.operations).toList) rest c.cursor

namespace Compiled.Writes

theorem nothing : (Compiled.nothing cursor).Writes rest cursor := by
  intro d written h
  refine ⟨d, rfl, ?_⟩
  simpa [Compiled.nothing] using h

theorem insertion (hrest : rest ≠ []) (hwhole : rest.head?.any Utf16.isLow = false) {text : String}
    (htext : text ≠ "") : (Compiled.insertion text cursor).Writes rest cursor := by
  intro d written h
  obtain ⟨d', hd', hholds⟩ := h.insertText hrest hwhole htext
  refine ⟨d', (d.carryOut_singleton _).trans hd', ?_⟩
  rw [show insertedText (Compiled.insertion text cursor).operations = text from
    insertedText_insertText text cursor]
  exact hholds

theorem andThen {f : Nat → Compiled} (ha : a.Writes rest cursor)
    (hf : (f a.cursor).Writes rest a.cursor) : (a.andThen f).Writes rest cursor := by
  intro d written h
  obtain ⟨d₁, hd₁, hholds⟩ := ha d written h
  obtain ⟨d₂, hd₂, hfinal⟩ := hf d₁ _ hholds
  refine ⟨d₂, ?_, ?_⟩
  · change d.carryOut (a.operations ++ (f a.cursor).operations) = _
    rw [LocalDocument.carryOut_append, hd₁]
    exact hd₂
  · change d₂.Holds (written ++ Utf16.encode
      (insertedText (a.operations ++ (f a.cursor).operations)).toList) rest (f a.cursor).cursor
    rw [insertedText_append, String.toList_append, Utf16.encode_append, ← List.append_assoc]
    exact hfinal

/-- The closing operations of a piece see the cursor that it leaves, which is no smaller. -/
theorem andStyle {f : Nat → List Operation} (hrest : rest ≠ []) (hc : c.Writes rest cursor)
    (hf : ∀ stop, 1 ≤ cursor → cursor ≤ stop → ∀ op ∈ f stop, op.StylesWithin stop) :
    (c.andStyle f).Writes rest cursor := by
  intro d written h
  obtain ⟨d₁, hd₁, hholds⟩ := hc d written h
  have hstart : 1 ≤ cursor := by
    rw [h.cursor]
    omega
  have hgrown : cursor ≤ c.cursor := by
    rw [h.cursor, hholds.cursor, List.length_append]
    omega
  have hstyles := hf c.cursor hstart hgrown
  obtain ⟨d₂, hd₂, hfinal⟩ := hholds.styles hrest hstyles
  refine ⟨d₂, ?_, ?_⟩
  · change d.carryOut (c.operations ++ f c.cursor) = _
    rw [LocalDocument.carryOut_append, hd₁]
    exact hd₂
  · change d₂.Holds (written ++ Utf16.encode
      (insertedText (c.operations ++ f c.cursor)).toList) rest c.cursor
    rw [insertedText_append, insertedText_styles hstyles, String.append_empty]
    exact hfinal

end Compiled.Writes

theorem writes_break (hrest : rest ≠ []) (hwhole : rest.head?.any Utf16.isLow = false) :
    (compileBreak cursor).Writes rest cursor :=
  Compiled.Writes.insertion hrest hwhole (by decide)

theorem writes_breakUnlessFirst (hrest : rest ≠ []) (hwhole : rest.head?.any Utf16.isLow = false) :
    (compileBreakUnlessFirst cursor).Writes rest cursor := by
  unfold compileBreakUnlessFirst
  split
  · exact writes_break hrest hwhole
  · exact Compiled.Writes.nothing

/-! ## Closing operations -/

section Closing

variable {start stop : Nat}

theorem stylesWithin_paragraphStyle (hstart : 1 ≤ start) (hstop : start ≤ stop) {style : NamedStyle}
    (hstyle : style.isStandard = true) :
    (Operation.setParagraphStyle (closedRange start stop) style.name).StylesWithin stop where
  range := ⟨_, rfl, closedRange_within hstart hstop⟩
  style := by
    rintro r name ⟨⟩
    rw [NamedStyle.parse?_name hstyle]
    rfl
  preset := by
    rintro r preset ⟨⟩

theorem stylesWithin_bulletList (hstart : 1 ≤ start) (hstop : start ≤ stop) {preset : String}
    (hpreset : preset ≠ "") :
    (Operation.setBulletList (closedRange start stop) preset).StylesWithin stop where
  range := ⟨_, rfl, closedRange_within hstart hstop⟩
  style := by
    rintro r name ⟨⟩
  preset := by
    rintro r preset ⟨⟩
    exact hpreset

/-- A link is set only over text, so that its range is not empty. -/
theorem stylesWithin_link (hstart : 1 ≤ start) (hstop : start ≤ stop) (url : String)
    {op : Operation} (hop : op ∈ if stop - start = 0 then [] else [.setLink ⟨start, stop - 1⟩ url]) :
    op.StylesWithin stop := by
  split at hop
  · cases hop
  · cases List.mem_singleton.mp hop
    exact
      { range := ⟨_, rfl, hstart, by dsimp only; omega, by dsimp only; omega⟩
        style := by
          rintro r name ⟨⟩
        preset := by
          rintro r preset ⟨⟩ }

end Closing

/-! ## Whole trees -/

section Trees

variable {options : BuildOptions}

mutual

/-- Wherever a node is compiled for, its operations are accepted if its lists have presets. -/
theorem writes_compileNode (hrest : rest ≠ []) (hwhole : rest.head?.any Utf16.isLow = false)
    (n : Node) (cursor : Nat) (h : ∀ ordered ∈ n.listKinds, options.preset ordered ≠ "") :
    (compileNode options n cursor).Writes rest cursor := by
  cases n with
  | document cs =>
    simp only [compileNode]
    exact writes_compileAll hrest hwhole cs cursor h
  | textBlock cs =>
    simp only [compileNode]
    exact writes_compileAll hrest hwhole cs cursor h
  | heading level anchor cs =>
    simp only [compileNode]
    refine (writes_breakUnlessFirst hrest hwhole).andThen ?_
    refine (writes_compileAll hrest hwhole cs _ h).andStyle hrest fun stop hstart hstop op hop => ?_
    cases List.mem_singleton.mp hop
    exact stylesWithin_paragraphStyle hstart hstop (NamedStyle.isStandard_ofLevel level)
  | paragraph cs =>
    simp only [compileNode]
    refine (writes_break hrest hwhole).andThen ?_
    refine (writes_compileAll hrest hwhole cs _ h).andStyle hrest fun stop hstart hstop op hop => ?_
    cases List.mem_singleton.mp hop
    exact stylesWithin_paragraphStyle hstart hstop rfl
  | list ordered tight items =>
    simp only [compileNode]
    have hitems : ∀ o ∈ Node.listKindsAll items, options.preset o ≠ "" := fun o ho =>
      h o (List.mem_cons_of_mem _ ho)
    refine (writes_breakUnlessFirst hrest hwhole).andThen ?_
    refine (writes_compileAll hrest hwhole items _ hitems).andStyle hrest
      fun stop hstart hstop op hop => ?_
    cases List.mem_singleton.mp hop
    exact stylesWithin_bulletList hstart hstop (h ordered (List.mem_cons_self ..))
  | listItem cs =>
    simp only [compileNode]
    exact (writes_break hrest hwhole).andThen (writes_compileAll hrest hwhole cs _ h)
  | link destination cs =>
    simp only [compileNode]
    exact (writes_compileAll hrest hwhole cs cursor h).andStyle hrest
      fun stop hstart hstop op hop => stylesWithin_link hstart hstop destination hop
  | text content =>
    simp only [compileNode]
    split
    · exact Compiled.Writes.nothing
    · rename_i hcontent
      exact Compiled.Writes.insertion hrest hwhole (by simpa using hcontent)
  | other kind cs =>
    simp only [compileNode]
    exact writes_compileAll hrest hwhole cs cursor h

theorem writes_compileAll (hrest : rest ≠ []) (hwhole : rest.head?.any Utf16.isLow = false)
    (ns : List Node) (cursor : Nat)
    (h : ∀ ordered ∈ Node.listKindsAll ns, options.preset ordered ≠ "") :
    (compileAll options ns cursor).Writes rest cursor := by
  cases ns with
  | nil => exact Compiled.Writes.nothing
  | cons n ns =>
    simp only [compileAll]
    have hn : ∀ o ∈ n.listKinds, options.preset o ≠ "" := fun o ho =>
      h o (List.mem_append_left _ ho)
    have hns : ∀ o ∈ Node.listKindsAll ns, options.preset o ≠ "" := fun o ho =>
      h o (List.mem_append_right _ ho)
    exact (writes_compileNode hrest hwhole n cursor hn).andThen
      (writes_compileAll hrest hwhole ns _ hns)

end

variable (options)

mutual

/-- Every list closes with bullets of its preset. -/
theorem exists_setBulletList (n : Node) (cursor : Nat) {ordered : Bool}
    (h : ordered ∈ n.listKinds) :
    ∃ r, .setBulletList r (options.preset ordered) ∈ (compileNode options n cursor).operations := by
  cases n with
  | document cs => exact exists_setBulletList_all cs cursor h
  | textBlock cs => exact exists_setBulletList_all cs cursor h
  | heading level anchor cs =>
    obtain ⟨r, hr⟩ := exists_setBulletList_all cs (compileBreakUnlessFirst cursor).cursor h
    exact ⟨r, List.mem_append_right _ (List.mem_append_left _ hr)⟩
  | paragraph cs =>
    obtain ⟨r, hr⟩ := exists_setBulletList_all cs (compileBreak cursor).cursor h
    exact ⟨r, List.mem_append_right _ (List.mem_append_left _ hr)⟩
  | list kind tight items =>
    rcases List.mem_cons.mp h with rfl | hitems
    · exact ⟨_, List.mem_append_right _ (List.mem_append_right _ (List.mem_singleton.mpr rfl))⟩
    · obtain ⟨r, hr⟩ := exists_setBulletList_all items (compileBreakUnlessFirst cursor).cursor hitems
      exact ⟨r, List.mem_append_right _ (List.mem_append_left _ hr)⟩
  | listItem cs =>
    obtain ⟨r, hr⟩ := exists_setBulletList_all cs (compileBreak cursor).cursor h
    exact ⟨r, List.mem_append_right _ hr⟩
  | link destination cs =>
    obtain ⟨r, hr⟩ := exists_setBulletList_all cs cursor h
    exact ⟨r, List.mem_append_left _ hr⟩
  | text content => cases h
  | other kind cs => exact exists_setBulletList_all cs cursor h

theorem exists_setBulletList_all (ns : List Node) (cursor : Nat) {ordered : Bool}
    (h : ordered ∈ Node.listKindsAll ns) :
    ∃ r, .setBulletList r (options.preset ordered) ∈ (compileAll options ns cursor).operations := by
  cases ns with
  | nil => cases h
  | cons n ns =>
    rcases List.mem_append.mp h with hn | hns
    · obtain ⟨r, hr⟩ := exists_setBulletList n cursor hn
      exact ⟨r, List.mem_append_left _ hr⟩
    · obtain ⟨r, hr⟩ := exists_setBulletList_all ns (compileNode options n cursor).cursor hns
      exact ⟨r, List.mem_append_right _ hr⟩

end

end Trees

end Edit

/-! ## Whole builds -/

namespace Service.LocalDocument

variable {d d' : LocalDocument}

/-- No document accepts bullets without a preset. -/
theorem preset_ne_of_carryOut {operations : List Operation} (h : d.carryOut operations = .ok d')
    {range : StyleRange} {preset : String} (hmem : .setBulletList range preset ∈ operations) :
    preset ≠ "" := by
  induction operations generalizing d with
  | nil => cases hmem
  | cons op operations ih =>
    rw [carryOut_cons] at h
    cases hop : d.apply (.ofOperation op) with
    | error refusal => simp [hop, bind, Except.bind] at h
    | ok next =>
      rw [hop] at h
      rcases List.mem_cons.mp hmem with rfl | hrest
      · exact (createParagraphBullets_eq_ok_iff.mp hop).1
      · exact ih h hrest

/-- Nothing is written yet, and all that the document holds comes after the cursor. -/
theorem Consistent.holds (h : d.Consistent) :
    d.Holds [] d.codes Builder.initialCursor ∧ d.codes ≠ []
      ∧ d.codes.head?.any Utf16.isLow = false :=
  ⟨⟨rfl, rfl⟩, h.codes_ne_nil, Utf16.head_not_isLow h.wellFormed⟩

/-- What a build writes stands before what the document held. -/
theorem Consistent.carryOut_build (h : d.Consistent) (root : Node) (options : BuildOptions)
    (hpresets : ∀ ordered ∈ root.listKinds, options.preset ordered ≠ "") :
    ∃ d', d.carryOut (build root options).operations = .ok d'
      ∧ d'.text = insertedText (build root options).operations ++ d.text
      ∧ d'.endIndex = d.endIndex + ((build root options).endCursor - 1) := by
  obtain ⟨hholds, hrest, hwhole⟩ := h.holds
  rw [build_eq_compile]
  obtain ⟨d', hd', hfinal⟩ := writes_compileNode hrest hwhole root _ hpresets d [] hholds
  refine ⟨d', hd', ?_, ?_⟩
  · rw [text, hfinal.codes, List.nil_append, Utf16.decode_encode_append, String.ofList_append,
      String.ofList_toList]
    rfl
  · have hlength : d.codes.length = d.endIndex := List.length_map ..
    have hcursor : (compile root options).endCursor = _ := hfinal.cursor
    rw [hfinal.endIndex_eq, hlength, hcursor, Nat.add_sub_cancel, Nat.add_comm]

/-- Submitting a build succeeds, under either policy, if and only if the lists of the tree have
    presets; then the inserted texts stand before the old text and fill what the cursor counted. -/
theorem submit_build (h : d.Reachable) {token : Cancellation} (ht : token.NeverCancelled)
    (root : Node) (options : BuildOptions) (policy : Policy) :
    ((∃ report, (d.submit d.documentId (build root options).operations policy token).1 = .ok report)
        ↔ ∀ ordered ∈ root.listKinds, options.preset ordered ≠ "")
      ∧ ∀ report s,
        d.submit d.documentId (build root options).operations policy token = (.ok report, s) →
          s.document.text = insertedText (build root options).operations ++ d.text
            ∧ s.document.endIndex = d.endIndex + ((build root options).endCursor - 1) := by
  -- What success needs is found in the compiled operations.
  have hpresets : ∀ {d'}, d.carryOut (build root options).operations = .ok d' →
      ∀ ordered ∈ root.listKinds, options.preset ordered ≠ "" := by
    intro d' hd' ordered hmem
    obtain ⟨range, hrange⟩ := exists_setBulletList options root Builder.initialCursor hmem
    rw [build_eq_compile] at hd'
    exact preset_ne_of_carryOut hd' hrange
  cases hout : d.carryOut (build root options).operations with
  | error refusal =>
    obtain ⟨e, s, hsubmit⟩ := submit_of_error policy ht hout
    rw [hsubmit]
    constructor
    · constructor
      · rintro ⟨report, ⟨⟩⟩
      · intro hall
        obtain ⟨d', hd', -⟩ := h.consistent.carryOut_build root options hall
        rw [hout] at hd'
        cases hd'
    · rintro report s' ⟨⟩
  | ok d' =>
    obtain ⟨report, s, hsubmit, -, hdocument⟩ := submit_of_ok policy ht hout
    obtain ⟨d'', hd'', htext, hend⟩ := h.consistent.carryOut_build root options (hpresets hout)
    rw [hout] at hd''
    cases hd''
    rw [hsubmit]
    refine ⟨⟨fun _ => hpresets hout, fun _ => ⟨report, rfl⟩⟩, ?_⟩
    rintro report' s' ⟨⟩
    rw [hdocument]
    exact ⟨htext, hend⟩

/-- A document that refused a request, and a tree with a link and a list in it. -/
theorem submit_build_after_refusal :
    let d := ((LocalDocument.new "doc" "T").perform (.apply (.insertText "😀" 1))).perform
      (.apply (.insertText "x" 2))
    let root := Node.document [.heading 1 "a" [.link "u" [.text "a"]],
      .list true false [.listItem [.paragraph [.text "𝄞"]]]]
    let output := build root
    (∃ report, (d.submit d.documentId output.operations (.sequential 5) {}).1 = .ok report)
      ∧ ∀ report s, d.submit d.documentId output.operations (.sequential 5) {} = (.ok report, s) →
        s.document.text = "a\n\n\n𝄞" ++ "😀\n" ∧ s.document.endIndex = 3 + (output.endCursor - 1) := by
  intro d root output
  obtain ⟨haccepted, hwritten⟩ := submit_build (.perform (.apply (.insertText "x" 2))
    (.perform (.apply (.insertText "😀" 1)) (.new "doc" "T"))) Cancellation.neverCancelled_default
    root {} (.sequential 5)
  exact ⟨haccepted.mpr (by decide), hwritten⟩

end Service.LocalDocument

end DocMark
