-- SUMMARY: Reading blocks puts items into lists and nowhere else, and nothing else into lists.
import Mathlib
import DocMark.Markdown.BlockReader

/-!
# Where blocks stand

A block is opened in the innermost open block that accepts it. The document at the end of the spine accepts all
but items, and an item is only opened after its list. So throughout the reading of a text each open block stands
where it belongs, and so do the finished blocks in it.

Closing a block only adds a child to the block around it, and what else is done to an open block makes no
list or item of it. The proofs need no more of the reader than this.
-/
namespace DocMark.Markdown

/-! ## Blocks -/

namespace BlockKind

def isItem : BlockKind → Bool
  | .item _ => true
  | _ => false

/-- The child is an item if and only if the parent is a list. -/
def Suits (parent child : BlockKind) : Prop := child.isItem = parent.isList

theorem suits_of_accepts {parent child : BlockKind} (h : parent.accepts child = true) : parent.Suits child := by
  cases parent <;> cases child <;> first | rfl | cases h

theorem accepts_of_document {kind : BlockKind} (h : kind.isItem = false) :
    BlockKind.document.accepts kind = true := by
  cases kind <;> first | rfl | cases h

theorem eq_paragraph_of_isParagraph {kind : BlockKind} (h : kind.isParagraph = true) : kind = .paragraph := by
  cases kind <;> first | rfl | cases h

theorem accepts_item_of_isList {kind : BlockKind} (h : kind.isList = true) (indent : Nat) :
    kind.accepts (.item indent) = true := by
  cases kind <;> first | rfl | cases h

end BlockKind

/-- Throughout a finished block, items stand in lists and lists hold items. -/
inductive Block.Nested : Block → Prop where
  | mk {kind : BlockKind} {text : List Char} {blankEnd : Bool} {children : List Block}
    (kinds : ∀ c ∈ children, kind.Suits c.kind) (blocks : ∀ c ∈ children, c.Nested) :
    (Block.mk kind text blankEnd children).Nested

/-- The same of an open block, as far as it is finished. -/
structure Frame.Nested (f : Frame) : Prop where
  kinds : ∀ c ∈ f.children, f.kind.Suits c.kind
  blocks : ∀ c ∈ f.children, c.Nested

/-- What may take the place of an open block without that anything else has to move. -/
structure Frame.Replaces (f' f : Frame) : Prop where
  isItem : f'.kind.isItem = f.kind.isItem
  isList : f'.kind.isList = f.kind.isList
  document : f.kind = .document → f'.kind = .document
  nested : f.Nested → f'.Nested

/-- Which children a block may have depends on whether it is a list only. -/
theorem Frame.Nested.of_eq {f f' : Frame} (h : f.Nested) (hlist : f'.kind.isList = f.kind.isList)
    (hchildren : f'.children = f.children) : f'.Nested where
  kinds c hc := (h.kinds c (hchildren ▸ hc)).trans hlist.symm
  blocks c hc := h.blocks c (hchildren ▸ hc)

theorem Frame.Replaces.of_eq {f f' : Frame} (hkind : f'.kind = f.kind) (hchildren : f'.children = f.children) :
    f'.Replaces f where
  isItem := by rw [hkind]
  isList := by rw [hkind]
  document h := hkind.trans h
  nested h := h.of_eq (by rw [hkind]) hchildren

/-- A block of one kind may become one of another kind, if both are of the same sort. -/
theorem Frame.Replaces.of_kinds {f f' : Frame} {kind kind' : BlockKind} (hkind : f.kind = kind)
    (hkind' : f'.kind = kind') (hitem : kind'.isItem = kind.isItem) (hlist : kind'.isList = kind.isList)
    (hdocument : kind ≠ .document) (hnested : f.Nested → f'.Nested) : f'.Replaces f where
  isItem := by rw [hkind, hkind', hitem]
  isList := by rw [hkind, hkind', hlist]
  document h := absurd (hkind.symm.trans h) hdocument
  nested := hnested

theorem Frame.Replaces.all (spine : Spine) : List.Forall₂ Frame.Replaces spine spine :=
  List.forall₂_same.mpr fun _ _ => .of_eq rfl rfl

theorem Frame.Nested.cons {f : Frame} (h : f.Nested) {block : Block} (hkind : f.kind.Suits block.kind)
    (hblock : block.Nested) : Frame.Nested { f with children := block :: f.children } :=
  ⟨List.forall_mem_cons.mpr ⟨hkind, h.kinds⟩, List.forall_mem_cons.mpr ⟨hblock, h.blocks⟩⟩

/-- A finished block is an item if and only if it was one while it was open. -/
theorem Frame.Nested.finish {f : Frame} (h : f.Nested) {block : Block} (hfinish : f.finish.1 = some block) :
    block.Nested ∧ block.kind.isItem = f.kind.isItem := by
  have hchildren {kind : BlockKind} (hkind : kind.isList = f.kind.isList) (text : List Char) (blank : Bool) :
      (Block.mk kind text blank f.children.reverse).Nested := by
    refine .mk (fun c hc => ?_) fun c hc => h.blocks c (List.mem_reverse.mp hc)
    rw [BlockKind.Suits, hkind]
    exact h.kinds c (List.mem_reverse.mp hc)
  unfold Frame.finish at hfinish
  cases hkind : f.kind with
  | paragraph =>
    simp only [hkind] at hfinish
    split at hfinish
    · cases hfinish
    · cases hfinish
      exact ⟨hchildren (by rw [hkind]) .., rfl⟩
  | list marker tight =>
    simp only [hkind] at hfinish
    cases hfinish
    exact ⟨hchildren (by rw [hkind]; rfl) .., rfl⟩
  | _ =>
    simp only [hkind] at hfinish
    cases hfinish
    exact ⟨hchildren (by rw [hkind]) .., rfl⟩

/-! ## The spine -/

/-- The document is open at the end, and each open block stands where it belongs. -/
inductive Spine.Nested : Spine → Prop where
  | document {f : Frame} (hkind : f.kind = .document) (hf : f.Nested) : Spine.Nested [f]
  | inside {f parent : Frame} {above : Spine} (hkind : parent.kind.Suits f.kind) (hf : f.Nested)
    (h : Spine.Nested (parent :: above)) : Spine.Nested (f :: parent :: above)

namespace Spine.Nested

variable {spine above : Spine} {f : Frame}

theorem ne_nil (h : Spine.Nested spine) : spine ≠ [] := by
  cases h <;> exact List.cons_ne_nil _ _

/-- The document accepts all blocks but items. -/
theorem exists_accepts (h : Spine.Nested spine) {kind : BlockKind} (hkind : kind.isItem = false) :
    ∃ f ∈ spine.getLast?, f.kind.accepts kind = true := by
  induction h with
  | @document f hdocument hf =>
    refine ⟨f, rfl, ?_⟩
    rw [hdocument]
    exact BlockKind.accepts_of_document hkind
  | inside _ _ _ ih => rwa [List.getLast?_cons_cons]

theorem replace {spine' : Spine} (h : Spine.Nested spine) (hall : List.Forall₂ Frame.Replaces spine' spine) :
    Spine.Nested spine' := by
  induction h generalizing spine' with
  | document hkind hf =>
    cases hall with
    | cons hreplaces hnil =>
      cases hnil
      exact .document (hreplaces.document hkind) (hreplaces.nested hf)
  | inside hkind hf _ ih =>
    cases hall with
    | cons hreplaces hrest =>
      have habove := ih hrest
      cases hrest with
      | cons hparent _ =>
        refine .inside ?_ (hreplaces.nested hf) habove
        rw [BlockKind.Suits, hreplaces.isItem, hparent.isList]
        exact hkind

theorem of_append {inner : Spine} (h : Spine.Nested (inner ++ spine)) (hne : spine ≠ []) :
    Spine.Nested spine := by
  induction inner with
  | nil => exact h
  | cons f inner ih =>
    obtain ⟨g, rest, hrest⟩ := List.exists_cons_of_ne_nil (List.append_ne_nil_of_right_ne_nil inner hne)
    rw [List.cons_append, hrest] at h
    cases h with
    | inside _ _ h => exact ih (hrest ▸ h)

theorem suits {parent : Frame} (h : Spine.Nested (f :: parent :: above)) : parent.kind.Suits f.kind := by
  cases h with
  | inside hkind _ _ => exact hkind

theorem addChild (h : Spine.Nested (f :: above)) {block : Block} (hkind : f.kind.Suits block.kind)
    (hblock : block.Nested) : Spine.Nested ({ f with children := block :: f.children } :: above) :=
  h.replace (.cons ⟨rfl, rfl, id, fun hf => hf.cons hkind hblock⟩ (Frame.Replaces.all above))

/-! ### Closing blocks -/

variable (references : List Reference)

theorem closeOne (h : Spine.Nested spine) : Spine.Nested (closeOne spine references).1 := by
  cases h with
  | document hkind hf => exact .document hkind hf
  | inside hkind hf h =>
    rename_i f parent above
    rw [Markdown.closeOne]
    cases hfinish : f.finish.1 with
    | none => simpa [hfinish] using h
    | some block =>
      obtain ⟨hnested, hitem⟩ := hf.finish hfinish
      have hsuits : parent.kind.Suits block.kind := by
        rw [BlockKind.Suits, hitem]
        exact hkind
      simpa [hfinish] using h.addChild hsuits hnested

theorem closeMany (h : Spine.Nested spine) (n : Nat) : Spine.Nested (closeMany n spine references).1 := by
  induction n generalizing spine references with
  | zero => exact h
  | succ n ih => exact ih _ (h.closeOne references)

end Spine.Nested

/-! ## Closing blocks -/

section Closing

variable (references : List Reference)

theorem kinds_closeMany {n : Nat} {spine : Spine} (h : n < spine.length) :
    (closeMany n spine references).1.map (·.kind) = (spine.map (·.kind)).drop n := by
  induction n generalizing spine references with
  | zero => rfl
  | succ n ih =>
    match spine with
    | [] | [_] => simp at h
    | f :: parent :: above => exact ih _ (by simpa [closeOne] using h)

/-- What stays open is of the same kinds as before. -/
theorem kinds_closeMany_append (closed : Spine) {spine : Spine} (h : spine ≠ []) :
    (closeMany closed.length (closed ++ spine) references).1.map (·.kind) = spine.map (·.kind) := by
  have hlength : closed.length < (closed ++ spine).length := by
    rw [List.length_append]
    exact Nat.lt_add_of_pos_right (List.length_pos_of_ne_nil h)
  rw [kinds_closeMany references hlength, List.map_append, ← List.length_map (·.kind), List.drop_left]

/-- The innermost block accepts a new one for which there is room now. -/
theorem exists_makeRoom {kind : BlockKind} {spine : Spine} (h : ∃ f ∈ spine, f.kind.accepts kind = true) :
    ∃ f above, (makeRoom kind spine references).1 = f :: above ∧ f.kind.accepts kind = true := by
  obtain ⟨f, rest, hdrop⟩ : ∃ f rest, spine.dropWhile (fun f => !f.kind.accepts kind) = f :: rest := by
    rw [← List.ne_nil_iff_exists_cons, Ne, List.dropWhile_eq_nil_iff]
    intro hnone
    obtain ⟨f, hf, haccepts⟩ := h
    simpa [haccepts] using hnone f hf
  have haccepts : f.kind.accepts kind = true := by
    have hhead := List.head_dropWhile_not (fun f : Frame => !f.kind.accepts kind) (l := spine) (by simp [hdrop])
    simpa [hdrop] using hhead
  have hkinds := kinds_closeMany_append references (spine.takeWhile fun f => !f.kind.accepts kind)
    (List.cons_ne_nil f rest)
  rw [← hdrop, List.takeWhile_append_dropWhile, hdrop] at hkinds
  obtain ⟨f', above, hroom, hf', -⟩ := List.map_eq_cons_iff.mp hkinds
  exact ⟨f', above, hroom, by rwa [hf']⟩

end Closing

/-! ## Lines -/

namespace LineState

/-- All open blocks of a line being read stand where they belong. -/
structure Nested (s : LineState) : Prop where
  spine : Spine.Nested (s.unmatched ++ s.spine)
  ne_nil : s.spine ≠ []

variable {s : LineState}

theorem unmatched_mapContainer (s : LineState) (g : Frame → Frame) :
    (s.mapContainer g).unmatched = s.unmatched := by
  unfold mapContainer
  split <;> rfl

namespace Nested

theorem of_spine (h : Spine.Nested s.spine) (hopen : s.unmatched = []) : s.Nested :=
  ⟨by rwa [hopen], h.ne_nil⟩

/-- Nothing else of a line matters. -/
theorem of_eq {s' : LineState} (h : s.Nested) (hspine : s'.spine = s.spine)
    (hunmatched : s'.unmatched = s.unmatched) : s'.Nested :=
  ⟨by rw [hspine, hunmatched]; exact h.spine, by rw [hspine]; exact h.ne_nil⟩

theorem replace {s' : LineState} (h : s.Nested) (hunmatched : List.Forall₂ Frame.Replaces s'.unmatched s.unmatched)
    (hspine : List.Forall₂ Frame.Replaces s'.spine s.spine) : s'.Nested := by
  refine ⟨h.spine.replace (List.rel_append hunmatched hspine), fun hnil => h.ne_nil ?_⟩
  rw [hnil] at hspine
  exact List.forall₂_nil_left_iff.mp hspine

theorem mapContainer (h : s.Nested) {g : Frame → Frame}
    (hg : ∀ f above, s.spine = f :: above → (g f).Replaces f) : (s.mapContainer g).Nested := by
  unfold LineState.mapContainer
  split
  · exact h
  · rename_i f above hspine
    refine h.replace (Frame.Replaces.all _) ?_
    rw [hspine]
    exact .cons (hg f above hspine) (Frame.Replaces.all _)

theorem closeUnmatched (h : s.Nested) : s.closeUnmatched.Nested :=
  .of_spine (h.spine.closeMany s.references s.unmatched.length) rfl

end Nested

theorem kinds_closeUnmatched (h : s.spine ≠ []) :
    s.closeUnmatched.spine.map (·.kind) = s.spine.map (·.kind) :=
  kinds_closeMany_append s.references s.unmatched h

theorem container_of_eq {f : Frame} {above : Spine} (h : s.spine = f :: above) : s.container = f.kind := by
  rw [container, h]
  rfl

theorem container_closeUnmatched (h : s.spine ≠ []) : s.closeUnmatched.container = s.container := by
  rw [container, container, ← List.head?_map, ← List.head?_map, kinds_closeUnmatched h]

namespace Nested

theorem open_of_accepts (h : s.Nested) {kind : BlockKind} (haccepts : ∃ f ∈ s.spine, f.kind.accepts kind = true) :
    (s.openBlock kind).Nested := by
  have hclosed := h.closeUnmatched
  have hstill : ∃ f ∈ s.closeUnmatched.spine, f.kind.accepts kind = true := by
    obtain ⟨f, hf, haccepts⟩ := haccepts
    have hmem : f.kind ∈ s.closeUnmatched.spine.map (·.kind) := by
      rw [kinds_closeUnmatched h.ne_nil]
      exact List.mem_map_of_mem hf
    obtain ⟨f', hf', hkind⟩ := List.mem_map.mp hmem
    exact ⟨f', hf', by rwa [hkind]⟩
  obtain ⟨f, above, hroom, haccepts⟩ := exists_makeRoom s.closeUnmatched.references hstill
  have hspine : Spine.Nested (f :: above) := by
    rw [← hroom]
    exact Spine.Nested.closeMany _ hclosed.spine _
  refine .of_spine ?_ rfl
  change Spine.Nested
    ({ kind, line := s.line } :: (makeRoom kind s.closeUnmatched.spine s.closeUnmatched.references).1)
  rw [hroom]
  exact .inside (BlockKind.suits_of_accepts haccepts) ⟨List.forall_mem_nil _, List.forall_mem_nil _⟩ hspine

theorem openBlock (h : s.Nested) {kind : BlockKind} (hkind : kind.isItem = false) :
    (s.openBlock kind).Nested := by
  obtain ⟨f, hf, haccepts⟩ := h.spine.exists_accepts hkind
  rw [List.getLast?_append_of_ne_nil _ h.ne_nil] at hf
  exact h.open_of_accepts ⟨f, List.mem_of_getLast? hf, haccepts⟩

/-- An item is opened in its list. -/
theorem openItem (h : s.Nested) (hlist : s.container.isList = true) (indent : Nat) :
    (s.openBlock (.item indent)).Nested := by
  obtain ⟨f, above, hspine⟩ := List.exists_cons_of_ne_nil h.ne_nil
  rw [container_of_eq hspine] at hlist
  refine h.open_of_accepts ⟨f, hspine ▸ List.mem_cons_self .., ?_⟩
  exact BlockKind.accepts_item_of_isList hlist indent

end Nested

end LineState

/-! ### Opening blocks -/

section Opening

variable {s : LineState}

theorem nested_rowBlock (cells : List (List Char)) : (rowBlock cells).Nested := by
  refine .mk (fun c hc => ?_) fun c hc => ?_ <;> obtain ⟨cell, -, rfl⟩ := List.mem_map.mp hc
  · rfl
  · exact .mk (List.forall_mem_nil _) (List.forall_mem_nil _)

/-- A table takes the place of the paragraph that its header ends. -/
theorem LineState.Nested.openTable (h : s.Nested) {paragraph : Frame} {rest : Spine}
    (hspine : s.spine = paragraph :: rest) (hkind : paragraph.kind = .paragraph) {s' : LineState}
    (hopened : openTable s paragraph rest = .opened s') : s'.Nested := by
  unfold Markdown.openTable at hopened
  split at hopened
  · cases hopened
  dsimp only at hopened
  split at hopened
  · split at hopened
    · cases hopened
    · cases hopened
      rename_i delimiters header _ _ _
      refine ⟨h.spine.replace ?_, List.cons_ne_nil _ _⟩
      rw [hspine]
      refine List.rel_append (Frame.Replaces.all _) (.cons ?_ ?_)
      · refine .of_kinds hkind rfl rfl rfl (by nofun) fun _ => ⟨?_, ?_⟩
        · exact List.forall_mem_singleton.mpr rfl
        · exact List.forall_mem_singleton.mpr (nested_rowBlock header)
      -- The lines before the header stay a paragraph, in the same block.
      · cases rest with
        | nil => exact .nil
        | cons parent above =>
          have hsuits : parent.kind.Suits .paragraph := by
            have hinner := h.spine.of_append h.ne_nil
            rw [hspine] at hinner
            exact hkind ▸ hinner.suits
          refine .cons ⟨rfl, rfl, id, fun hparent => ?_⟩ (Frame.Replaces.all _)
          split
          · exact hparent
          · exact hparent.cons hsuits (.mk (List.forall_mem_nil _) (List.forall_mem_nil _))
  · cases hopened

theorem LineState.Nested.addRow (h : s.Nested) {columns filled : Nat}
    (hcontainer : s.container = .table columns filled) {s' : LineState}
    (hadded : addRow s columns filled = some s') : s'.Nested := by
  unfold Markdown.addRow at hadded
  split at hadded
  · cases hadded
  obtain ⟨cells, -, rfl⟩ := Option.map_eq_some_iff.mp hadded
  refine (h.closeUnmatched.mapContainer fun f above hspine => ?_).of_eq rfl rfl
  have hkind : f.kind = .table columns filled := by
    rw [← LineState.container_of_eq hspine, LineState.container_closeUnmatched h.ne_nil, hcontainer]
  refine .of_kinds hkind rfl rfl rfl (by nofun) fun hf => ?_
  refine Frame.Nested.of_eq (hf.cons ?_ (nested_rowBlock _)) ?_ rfl <;> rw [hkind] <;> rfl

/-- A paragraph becomes the heading that it was underlined as. -/
theorem LineState.Nested.underline (h : s.Nested) (hcontainer : s.container.isParagraph = true) (level : Nat)
    (text : List Char) : (s.mapContainer ({ · with kind := .heading level true, text })).Nested := by
  refine h.mapContainer fun f above hspine => ?_
  rw [LineState.container_of_eq hspine] at hcontainer
  have hkind := BlockKind.eq_paragraph_of_isParagraph hcontainer
  exact .of_kinds hkind rfl rfl rfl (by nofun) fun hf => hf.of_eq (by rw [hkind]; rfl) rfl

def Opening.Nested : Opening → Prop
  | .opened s => s.Nested
  | .none s => s.Nested

theorem LineState.Nested.openNext (h : s.Nested) (depth : Nat) (isLazy : Bool) :
    (openNext depth isLazy s).Nested := by
  unfold Markdown.openNext
  dsimp only
  -- a quote
  split
  case h_1 => exact (h.openBlock rfl).of_eq rfl rfl
  -- a heading
  split
  case h_1 => exact (h.openBlock rfl).of_eq rfl rfl
  -- a fence
  split
  case h_1 => exact (h.openBlock rfl).of_eq rfl rfl
  -- raw HTML
  split
  case h_1 => exact h.openBlock rfl
  -- the underline of a heading
  split
  case h_1 hunderline =>
    have hcontainer : s.container.isParagraph = true := by
      by_contra hnot
      simp [hnot] at hunderline
    have hfound (references : List Reference) : Nested { s with references, opened := true } := h.of_eq rfl rfl
    split
    · exact (hfound _).mapContainer fun _ _ _ => .of_eq rfl rfl
    · exact ((hfound _).underline hcontainer _ _).of_eq rfl rfl
  -- a thematic break
  split
  case isTrue => exact (h.openBlock rfl).of_eq rfl rfl
  -- an item, in the list that is innermost or in one that is opened for it
  split
  case h_1 =>
    split
    case h_1 hcontainer =>
      split
      · refine (h.closeUnmatched.openItem ?_ _).of_eq rfl rfl
        rw [LineState.container_closeUnmatched h.ne_nil, hcontainer]
        rfl
      · exact ((h.openBlock rfl).openItem rfl _).of_eq rfl rfl
    case h_2 => exact ((h.openBlock rfl).openItem rfl _).of_eq rfl rfl
  -- indented code
  split
  case isTrue => exact (h.openBlock rfl).of_eq rfl rfl
  split
  case isTrue => exact h
  -- a table or a row of it
  split
  case h_1 hspine hcontainer =>
    split
    · exact h
    · exact h.mapContainer fun _ _ _ => .of_eq rfl rfl
    · rename_i hopened
      exact h.openTable hspine (LineState.container_of_eq hspine ▸ hcontainer) hopened
  case h_2 hcontainer =>
    split
    · rename_i hadded
      exact h.addRow hcontainer hadded
    · exact h
  case h_3 => exact h

theorem LineState.Nested.openAll (h : s.Nested) (fuel depth : Nat) (isLazy : Bool) :
    (openAll fuel depth isLazy s).Nested := by
  induction fuel generalizing depth isLazy s with
  | zero => exact h
  | succ fuel ih =>
    rw [Markdown.openAll]
    split
    · exact h
    have hnext := h.openNext depth isLazy
    split
    · rename_i hstays
      rwa [hstays] at hnext
    · rename_i hopened
      rw [hopened] at hnext
      split
      · exact hnext
      · exact ih hnext ..

end Opening

/-! ### Text -/

section Text

variable {s : LineState}

theorem Frame.Replaces.noteBlank (f : Frame) (blank : Bool) : Frame.Replaces { f with blankEnd := blank } f :=
  .of_eq rfl rfl

theorem Block.Nested.setBlankEnd {block : Block} (h : block.Nested) : block.setBlankEnd.Nested := by
  cases h with
  | mk kinds blocks => exact .mk kinds blocks

theorem Block.kind_setBlankEnd (block : Block) : block.setBlankEnd.kind = block.kind := by
  cases block
  rfl

namespace LineState.Nested

theorem noteBlankBefore (h : s.Nested) : s.noteBlankBefore.Nested := by
  unfold LineState.noteBlankBefore
  split
  · rename_i first below hunmatched
    refine h.replace ?_ (Frame.Replaces.all _)
    rw [List.reverse_eq_iff.mp hunmatched]
    exact List.rel_reverse (.cons (.noteBlank first true) (Frame.Replaces.all _))
  · refine h.mapContainer fun f above hspine => ?_
    split
    · rename_i last others hchildren
      refine ⟨rfl, rfl, id, fun hf => ?_⟩
      obtain ⟨hkind, hkinds⟩ := List.forall_mem_cons.mp (hchildren ▸ hf.kinds)
      obtain ⟨hlast, hothers⟩ := List.forall_mem_cons.mp (hchildren ▸ hf.blocks)
      refine ⟨List.forall_mem_cons.mpr ⟨?_, hkinds⟩, List.forall_mem_cons.mpr ⟨hlast.setBlankEnd, hothers⟩⟩
      rw [BlockKind.Suits, last.kind_setBlankEnd]
      exact hkind
    · exact .of_eq rfl rfl

theorem replaces_noteBlanks (spine : Spine) (blank : Bool) :
    List.Forall₂ Frame.Replaces (spine.map ({ · with blankEnd := blank })) spine :=
  List.forall₂_map_left_iff.mpr (List.forall₂_same.mpr fun f _ => .noteBlank f blank)

theorem noteBlankWithin (h : s.Nested) : s.noteBlankWithin.Nested := by
  unfold LineState.noteBlankWithin
  split
  · exact h
  · rename_i f above hspine
    refine h.replace (Frame.Replaces.all _) ?_
    rw [hspine]
    exact .cons (.noteBlank f _) (replaces_noteBlanks above false)

theorem noteBlanks (h : s.Nested) : s.noteBlanks.Nested := by
  unfold LineState.noteBlanks
  split
  · exact h.replace (Frame.Replaces.all _) (replaces_noteBlanks s.spine false)
  split
  · exact h.noteBlankBefore.noteBlankWithin
  · exact h.noteBlankWithin

theorem addLine (h : s.Nested) (cs : List Char) : (s.mapContainer (·.addLine cs)).Nested :=
  h.mapContainer fun _ _ _ => .of_eq rfl rfl

theorem finishText (h : s.Nested) (hopen : s.unmatched = []) : (placeText.finishText s).Nested := by
  unfold placeText.finishText
  split
  · exact h.addLine _
  · exact h.addLine _
  · have hline := h.addLine s.cursor.text
    dsimp only
    split
    · have hclosed := (hline.spine.of_append hline.ne_nil).closeOne
        (s.mapContainer (·.addLine s.cursor.text)).references
      exact .of_spine hclosed ((unmatched_mapContainer ..).trans hopen)
    · exact hline
  · split
    · exact h
    · exact h.addLine _
  · split
    · exact h
    · exact h.addLine _
  · split
    · exact h
    · exact (h.openBlock rfl).addLine _

theorem placeText (h : s.Nested) : (placeText s).Nested := by
  unfold Markdown.placeText
  dsimp only
  have hnoted := h.noteBlanks
  split
  · rename_i tip below hunmatched
    split
    · refine hnoted.replace ?_ (Frame.Replaces.all _)
      rw [hunmatched]
      exact .cons (.of_eq rfl rfl) (Frame.Replaces.all _)
    · exact hnoted.closeUnmatched.finishText rfl
  · rename_i hopen
    exact hnoted.finishText hopen

end LineState.Nested

end Text

/-! ## Texts -/

theorem nested_readLine {state : BlockState} (h : Spine.Nested state.spine) (cs : List Char) :
    Spine.Nested (readLine state cs).spine := by
  unfold readLine
  dsimp only
  split
  · exact h
  rename_i document inner hspine
  split
  · exact h.closeMany ..
  · refine (LineState.Nested.placeText (LineState.Nested.openAll ⟨?_, ?_⟩ ..)).spine
    · rwa [← List.reverse_append, List.cons_append, List.take_append_drop, ← hspine, List.reverse_reverse]
    · exact mt List.reverse_eq_nil_iff.mp (List.cons_ne_nil _ _)

theorem nested_foldl_readLine {state : BlockState} (h : Spine.Nested state.spine) (lines : List (List Char)) :
    Spine.Nested (lines.foldl readLine state).spine := by
  induction lines generalizing state with
  | nil => exact h
  | cons cs lines ih => exact ih (nested_readLine h cs)

/-- In the end only the document is open. -/
theorem Spine.Nested.exists_document {spine : Spine} (h : Spine.Nested spine) (references : List Reference)
    {n : Nat} (hn : spine.length ≤ n + 1) :
    ∃ f, (Markdown.closeMany n spine references).1 = [f] ∧ f.kind = .document ∧ f.Nested := by
  induction n generalizing spine references with
  | zero =>
    cases h with
    | document hkind hf => exact ⟨_, rfl, hkind, hf⟩
    | inside _ _ _ => simp at hn
  | succ n ih =>
    refine ih (h.closeOne references) _ ?_
    match spine with
    | [] | [_] => simp [Markdown.closeOne]
    | f :: parent :: above => simpa [Markdown.closeOne] using hn

theorem nested_readBlocks (source : List Char) :
    (readBlocks source).1.Nested ∧ (readBlocks source).1.kind.isItem = false := by
  have hstart : Spine.Nested ({ spine := [{ kind := .document, line := 0 }] } : BlockState).spine :=
    .document rfl ⟨List.forall_mem_nil _, List.forall_mem_nil _⟩
  have hread := nested_foldl_readLine hstart (splitLines source)
  obtain ⟨f, hclosed, hkind, hf⟩ := hread.exists_document _ (Nat.le_succ _)
  unfold readBlocks
  dsimp only
  rw [hclosed]
  dsimp only
  split
  · rename_i block _ hfinish
    obtain ⟨hblock, hitem⟩ := hf.finish (congrArg Prod.fst hfinish)
    exact ⟨hblock, by rw [hitem, hkind]; rfl⟩
  · exact ⟨.mk (List.forall_mem_nil _) (List.forall_mem_nil _), rfl⟩

end DocMark.Markdown
