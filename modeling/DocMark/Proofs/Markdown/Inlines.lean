-- SUMMARY: Reading the text of a block gives inline elements only, with nothing below texts, breaks and code.
import Mathlib
import DocMark.Markdown.InlineReader

/-!
# Inline elements

The reader of a block's text makes texts, breaks, code, raw HTML, emphasis, links and images, and puts
nothing else into them. Every step keeps the pieces read so far inline, those set aside behind open
brackets too; pairing marks, joining texts and linking addresses make inline elements of inline ones.
What holds its own text, or stands for a line end, has nothing below it.
-/
namespace DocMark.Markdown

/-- Whether an element may stand in the text of a block. -/
def Element.isInline : Element → Bool
  | .text _ => true
  | .softBreak => true
  | .lineBreak => true
  | .code _ => true
  | .htmlInline _ => true
  | .emphasis => true
  | .strong => true
  | .strikethrough => true
  | .link _ _ => true
  | .image _ _ => true
  | _ => false

/-- An inline element that has no others below it. -/
def Element.isInlineLeaf : Element → Bool
  | .text _ => true
  | .softBreak => true
  | .lineBreak => true
  | .code _ => true
  | .htmlInline _ => true
  | _ => false

/-- Whether a leaf, if the element is one, has nothing below it. -/
theorem Element.bare_iff {e : Element} {cs : List Ast} :
    (!e.isInlineLeaf || cs.isEmpty) = true ↔ (e.isInlineLeaf = true → cs = []) := by
  cases e.isInlineLeaf <;> simp

mutual

/-- Whether a tree has inline elements only, with nothing below the leaves among them. -/
def Ast.isInline : Ast → Bool
  | .node e cs => e.isInline && (!e.isInlineLeaf || cs.isEmpty) && Ast.allInline cs

def Ast.allInline : List Ast → Bool
  | [] => true
  | a :: rest => a.isInline && Ast.allInline rest

end

theorem Ast.allInline_iff {as : List Ast} : Ast.allInline as = true ↔ ∀ a ∈ as, a.isInline = true := by
  induction as with
  | nil => simp [allInline]
  | cons a rest ih => simp [allInline, ih]

theorem Ast.isInline_node_iff {e : Element} {cs : List Ast} :
    (Ast.node e cs).isInline = true ↔ e.isInline = true ∧ (e.isInlineLeaf = true → cs = [])
      ∧ ∀ a ∈ cs, a.isInline = true := by
  rw [isInline, Bool.and_eq_true, Bool.and_eq_true, allInline_iff, Element.bare_iff, and_assoc]

theorem Ast.isInline_leaf {e : Element} (h : e.isInline = true) : (Ast.leaf e).isInline = true :=
  isInline_node_iff.mpr ⟨h, fun _ => rfl, List.forall_mem_nil _⟩

/-- A span of inline elements. -/
theorem Ast.isInline_span {e : Element} {cs : List Ast} (he : e.isInline = true)
    (hspan : e.isInlineLeaf = false) (hcs : ∀ a ∈ cs, a.isInline = true) :
    (Ast.node e cs).isInline = true :=
  isInline_node_iff.mpr
    ⟨he, fun hleaf => absurd (hspan.symm.trans hleaf) Bool.false_ne_true, hcs⟩

theorem Ast.isInline_text (cs : List Char) : (Ast.text cs).isInline = true := isInline_leaf rfl

/-! ## Addresses -/

theorem Ast.isInline_linkTo (url shown : List Char) : (Ast.linkTo url shown).isInline = true :=
  isInline_span rfl rfl (List.forall_mem_singleton.mpr (isInline_text shown))

section Addresses

variable {before cs rest : List Char} {link : Ast} {length : Nat}

theorem isInline_of_angleLink? (h : angleLink? cs = some (link, rest)) : link.isInline = true := by
  unfold angleLink? at h
  split at h
  · cases h
    exact Ast.isInline_linkTo ..
  · obtain ⟨found, -, heq⟩ := Option.map_eq_some_iff.mp h
    cases heq
    exact Ast.isInline_linkTo ..

theorem isInline_of_webLink? (h : webLink? before cs = some (link, length, rest)) :
    link.isInline = true := by
  unfold webLink? at h
  dsimp only at h
  split at h
  · split at h
    · cases h
      exact Ast.isInline_linkTo ..
    · cases h
  · cases h

theorem isInline_of_wwwLink? (h : wwwLink? before cs = some (link, rest)) : link.isInline = true := by
  unfold wwwLink? at h
  split at h
  · cases h
    exact Ast.isInline_linkTo ..
  · cases h

theorem isInline_of_emailAt? (h : emailAt? before cs = some (link, length, rest)) :
    link.isInline = true := by
  unfold emailAt? at h
  dsimp only at h
  obtain ⟨⟨host, dots⟩, -, h⟩ := Option.bind_eq_some_iff.mp h
  dsimp only at h
  split at h
  · cases h
  · cases h
    exact Ast.isInline_linkTo ..

theorem isInline_of_findEmail? {depth : Int} {text : List Char}
    (h : findEmail? before depth cs = some (text, link, rest)) : link.isInline = true := by
  induction cs generalizing before depth with
  | nil => cases h
  | cons c cs ih =>
    rw [findEmail?] at h
    generalize hfound : (if (_ : Int) ≤ 0 ∧ c = '@' then emailAt? before cs else none) = found at h
    cases found with
    | none => exact ih h
    | some found =>
      cases h
      exact isInline_of_emailAt? (Option.ite_none_right_eq_some.mp hfound).2

theorem isInline_of_mem_splitEmails {fuel : Nat} {a : Ast} (h : a ∈ splitEmails fuel cs) :
    a.isInline = true := by
  induction fuel generalizing cs with
  | zero =>
    cases List.mem_singleton.mp h
    exact Ast.isInline_text cs
  | succ fuel ih =>
    rw [splitEmails] at h
    split at h
    · rename_i hfound
      rcases List.mem_cons.mp h with rfl | h
      · exact Ast.isInline_text _
      rcases List.mem_cons.mp h with rfl | h
      · exact isInline_of_findEmail? hfound
      split at h
      · cases h
      · exact ih h
    · cases List.mem_singleton.mp h
      exact Ast.isInline_text cs

end Addresses

/-! ## Emphasis -/

/-- Marks are inline whatever becomes of them. -/
def Piece.isInline : Piece → Bool
  | .node a => a.isInline
  | .run _ => true

/-- All of the pieces are inline. -/
def InlinePieces (pieces : List Piece) : Prop := ∀ p ∈ pieces, p.isInline = true

namespace InlinePieces

variable {xs ys pieces : List Piece}

theorem nil : InlinePieces [] := List.forall_mem_nil _

theorem cons {p : Piece} (hp : p.isInline = true) (h : InlinePieces pieces) : InlinePieces (p :: pieces) :=
  List.forall_mem_cons.mpr ⟨hp, h⟩

theorem append (hxs : InlinePieces xs) (hys : InlinePieces ys) : InlinePieces (xs ++ ys) :=
  List.forall_mem_append.mpr ⟨hxs, hys⟩

theorem reverse (h : InlinePieces pieces) : InlinePieces pieces.reverse :=
  fun p hp => h p (List.mem_reverse.mp hp)

theorem of_subset (h : InlinePieces ys) (hsub : xs ⊆ ys) : InlinePieces xs := fun p hp => h p (hsub hp)

theorem settle (h : InlinePieces pieces) : ∀ a ∈ pieces.map Piece.settle, a.isInline = true := by
  intro a ha
  obtain ⟨p, hp, rfl⟩ := List.mem_map.mp ha
  cases p with
  | node a => exact h _ hp
  | run r => exact Ast.isInline_text _

end InlinePieces

theorem Piece.isInline_ofText (cs : List Char) : (Piece.ofText cs).isInline = true := Ast.isInline_text cs

theorem Piece.inlinePieces_ofRun (r : Run) : InlinePieces (Piece.ofRun r) := by
  unfold Piece.ofRun
  split
  · exact InlinePieces.nil
  · exact InlinePieces.nil.cons rfl

theorem Run.isInline_element (mark : Char) (used : Nat) :
    (Run.element mark used).isInline = true ∧ (Run.element mark used).isInlineLeaf = false := by
  unfold Run.element
  split
  · exact ⟨rfl, rfl⟩
  · split <;> exact ⟨rfl, rfl⟩

theorem findOpener?_subset {closer opener : Run} {pieces inner outer : List Piece}
    (h : findOpener? closer pieces = some (inner, opener, outer)) : inner ⊆ pieces ∧ outer ⊆ pieces := by
  -- What is passed over is put before what is found behind it.
  have hpassed {p : Piece} {rest inner outer : List Piece} (hrest : inner ⊆ rest ∧ outer ⊆ rest) :
      p :: inner ⊆ p :: rest ∧ outer ⊆ p :: rest :=
    ⟨List.cons_subset_cons p hrest.1, List.subset_cons_of_subset p hrest.2⟩
  induction pieces generalizing inner with
  | nil => cases h
  | cons p rest ih =>
    cases p with
    | node a =>
      obtain ⟨⟨inner, opener, outer⟩, hfound, heq⟩ := Option.map_eq_some_iff.mp h
      cases heq
      exact hpassed (ih hfound)
    | run r =>
      rw [findOpener?] at h
      split at h
      · cases h
        exact ⟨List.nil_subset _, List.subset_cons_self ..⟩
      · obtain ⟨⟨inner, opener, outer⟩, hfound, heq⟩ := Option.map_eq_some_iff.mp h
        cases heq
        exact hpassed (ih hfound)

theorem isInline_pairFrom {fuel : Nat} {done pieces : List Piece} (hdone : InlinePieces done)
    (hpieces : InlinePieces pieces) : ∀ a ∈ pairFrom fuel done pieces, a.isInline = true := by
  induction fuel generalizing done pieces with
  | zero => exact (hdone.reverse.append hpieces).settle
  | succ fuel ih =>
    cases pieces with
    | nil => exact hdone.reverse.settle
    | cons p pieces =>
      have hrest : InlinePieces pieces := hpieces.of_subset (List.subset_cons_self ..)
      cases p with
      | node a => exact ih (hdone.cons (hpieces _ (List.mem_cons_self ..))) hrest
      | run r =>
        rw [pairFrom]
        split
        · exact ih (hdone.cons rfl) hrest
        · split
          · split
            · exact ih (hdone.cons rfl) hrest
            · exact ih (hdone.cons (Piece.isInline_ofText _)) hrest
          · rename_i inner opener outer hfound
            obtain ⟨hinner, houter⟩ := findOpener?_subset hfound
            dsimp only
            split
            · exact (hdone.reverse.append hpieces).settle
            · refine ih (InlinePieces.cons ?_ ((Piece.inlinePieces_ofRun _).append
                (hdone.of_subset houter))) ((Piece.inlinePieces_ofRun _).append hrest)
              obtain ⟨helement, hspan⟩ := Run.isInline_element r.mark (opener.used r)
              exact Ast.isInline_span helement hspan (hdone.of_subset hinner).reverse.settle

theorem isInline_pairRuns {pieces : List Piece} (h : InlinePieces pieces) :
    ∀ a ∈ pairRuns pieces, a.isInline = true := isInline_pairFrom InlinePieces.nil h

/-! ## Steps of the reader -/

namespace InlineState

/-- What has been read is inline, in front of open brackets and behind them. -/
structure Inlines (s : InlineState) : Prop where
  pieces : InlinePieces s.pieces
  before : ∀ b ∈ s.brackets, InlinePieces b.before

theorem Inlines.push {s : InlineState} (h : s.Inlines) {p : Piece} (hp : p.isInline = true) :
    (s.push p).Inlines := ⟨h.pieces.cons hp, h.before⟩

theorem Inlines.pushNode {s : InlineState} (h : s.Inlines) {a : Ast} (ha : a.isInline = true) :
    (s.pushNode a).Inlines := h.push ha

theorem Inlines.pushText {s : InlineState} (h : s.Inlines) (cs : List Char) : (s.pushText cs).Inlines :=
  h.push (Piece.isInline_ofText cs)

theorem Inlines.dropBracket {s : InlineState} (h : s.Inlines) : s.dropBracket.Inlines := by
  unfold InlineState.dropBracket
  split
  · exact h
  · rename_i b outer hbrackets
    have hbefore := h.before
    rw [hbrackets] at hbefore
    obtain ⟨hb, houter⟩ := List.forall_mem_cons.mp hbefore
    exact ⟨h.pieces.append (hb.cons (Piece.isInline_ofText _)), houter⟩

theorem Inlines.allPieces {s : InlineState} (h : s.Inlines) : InlinePieces s.allPieces := by
  have hfold {pieces : List Piece} {brackets : List OpenBracket} (hpieces : InlinePieces pieces)
      (hbefore : ∀ b ∈ brackets, InlinePieces b.before) :
      InlinePieces (brackets.foldl (fun pieces b => pieces ++ Piece.ofText b.text :: b.before) pieces) := by
    induction brackets generalizing pieces with
    | nil => exact hpieces
    | cons b brackets ih =>
      obtain ⟨hb, hrest⟩ := List.forall_mem_cons.mp hbefore
      exact ih (hpieces.append (hb.cons (Piece.isInline_ofText _))) hrest
  exact (hfold h.pieces h.before).reverse

end InlineState

section Steps

variable {s : InlineState}

theorem inlines_readTicks (h : s.Inlines) (cs : List Char) : (readTicks s cs).1.Inlines := by
  unfold readTicks
  dsimp only
  split
  · exact h.pushText _
  · split
    · rename_i ticks _
      have hticks : ({ s with ticks } : InlineState).Inlines := ⟨h.pieces, h.before⟩
      exact hticks.pushNode (Ast.isInline_leaf rfl)
    · exact ⟨h.pieces.cons (Piece.isInline_ofText _), h.before⟩

theorem inlines_readLineEnd (h : s.Inlines) (before cs : List Char) :
    (readLineEnd s before cs).1.Inlines := by
  unfold readLineEnd
  dsimp only
  split
  · exact h.pushNode (Ast.isInline_leaf rfl)
  · exact h.pushNode (Ast.isInline_leaf rfl)

theorem inlines_readBackslash (h : s.Inlines) (cs : List Char) : (readBackslash s cs).1.Inlines := by
  unfold readBackslash
  split
  · exact h.pushText _
  · split
    · exact h.pushText _
    · split
      · exact h.pushNode (Ast.isInline_leaf rfl)
      · exact h.pushText _

theorem inlines_readAmpersand (h : s.Inlines) (cs : List Char) : (readAmpersand s cs).1.Inlines := by
  unfold readAmpersand
  split
  · exact h.pushText _
  · exact h.pushText _

theorem inlines_readAngle (h : s.Inlines) (cs : List Char) : (readAngle s cs).1.Inlines := by
  unfold readAngle
  split
  · rename_i hlink
    exact h.pushNode (isInline_of_angleLink? hlink)
  · split
    · exact h.pushNode (Ast.isInline_leaf rfl)
    · exact ⟨h.pieces.cons (Piece.isInline_ofText _), h.before⟩

theorem inlinePieces_dropText {n : Nat} {pieces : List Piece} (h : InlinePieces pieces) :
    InlinePieces (dropText n pieces) := by
  induction pieces generalizing n with
  | nil => exact h
  | cons p pieces ih =>
    have hrest : InlinePieces pieces := h.of_subset (List.subset_cons_self ..)
    unfold dropText
    split
    · rename_i heq
      cases heq
      dsimp only
      split
      · exact ih hrest
      · exact hrest.cons (Piece.isInline_ofText _)
    · exact h

theorem inlines_readColon (h : s.Inlines) (before cs : List Char) :
    (readColon s before cs).1.Inlines := by
  unfold readColon
  split
  · rename_i hlink
    split at hlink
    · cases hlink
    · exact ⟨(inlinePieces_dropText h.pieces).cons (isInline_of_webLink? hlink), h.before⟩
  · exact h.pushText _

theorem inlines_readW (h : s.Inlines) (before cs : List Char) : (readW s before cs).1.Inlines := by
  unfold readW
  split
  · rename_i hlink
    split at hlink
    · cases hlink
    · exact h.pushNode (isInline_of_wwwLink? hlink)
  · exact h.pushText _

theorem inlines_openBracket (h : s.Inlines) (isImage : Bool) (cs : List Char) :
    (openBracket s isImage cs).1.Inlines := by
  refine ⟨InlinePieces.nil, List.forall_mem_cons.mpr ⟨h.pieces, ?_⟩⟩
  cases hbrackets : s.brackets with
  | nil => exact List.forall_mem_nil _
  | cons b outer =>
    have hbefore := h.before
    rw [hbrackets] at hbefore
    obtain ⟨hb, houter⟩ := List.forall_mem_cons.mp hbefore
    exact List.forall_mem_cons.mpr ⟨hb, houter⟩

theorem inlines_closeBracket (references : List Reference) (h : s.Inlines) (rest : List Char) :
    (closeBracket references s rest).1.Inlines := by
  have hclosed : ({ s with inBrackets := false } : InlineState).Inlines := ⟨h.pieces, h.before⟩
  unfold closeBracket
  dsimp only
  split
  · exact hclosed.pushText _
  · rename_i b outer hbrackets
    have hbefore := h.before
    rw [hbrackets] at hbefore
    obtain ⟨hb, houter⟩ := List.forall_mem_cons.mp hbefore
    split
    · exact hclosed.dropBracket.pushText _
    · refine ⟨hb.cons (Ast.isInline_span ?_ ?_ (isInline_pairRuns h.pieces.reverse)), houter⟩
      · split <;> rfl
      · split <;> rfl

theorem inlines_readText (h : s.Inlines) (cs : List Char) : (readText s cs).1.Inlines := by
  have hpush (text : List Char) : (if text.isEmpty then s else s.pushText text).Inlines := by
    split
    · exact h
    · exact h.pushText text
  exact hpush _

theorem inlines_readMarks (h : s.Inlines) (mark : Char) (before cs : List Char) :
    (readMarks s mark before cs).1.Inlines := by
  unfold readMarks
  dsimp only
  split
  · exact h.push rfl
  · exact h.pushText _

theorem inlines_readInline (references : List Reference) (h : s.Inlines) (before : List Char) (c : Char)
    (cs : List Char) : (readInline references s before c cs).1.Inlines := by
  unfold readInline
  split
  · exact inlines_readLineEnd h before cs
  · exact inlines_readTicks h cs
  · exact inlines_readBackslash h cs
  · exact inlines_readAmpersand h cs
  · exact inlines_readAngle h cs
  · exact inlines_readColon h before cs
  · exact inlines_readW h before cs
  · exact inlines_openBracket h false cs
  · exact inlines_closeBracket references h cs
  · split
    · exact inlines_readMarks h c before cs
    · split
      · exact inlines_openBracket h true _
      · split
        · exact h.pushText _
        · exact inlines_readText h _

theorem inlines_readInlinesFrom (references : List Reference) (fuel : Nat) (h : s.Inlines)
    (before cs : List Char) : (readInlinesFrom references fuel s before cs).Inlines := by
  induction fuel generalizing s before cs with
  | zero => exact h
  | succ fuel ih =>
    cases cs with
    | nil => exact h
    | cons c cs => exact ih (inlines_readInline references h before c cs) _ _

end Steps

/-! ## Finished texts -/

theorem isInline_joinTexts {as : List Ast} (h : ∀ a ∈ as, a.isInline = true) :
    ∀ a ∈ joinTexts as, a.isInline = true := by
  induction as with
  | nil => exact h
  | cons a rest ih =>
    obtain ⟨ha, hrest⟩ := List.forall_mem_cons.mp h
    have hjoined := ih hrest
    unfold joinTexts
    split
    · rename_i heq
      cases heq
      split
      · rename_i hnext
        rw [hnext] at hjoined
        exact List.forall_mem_cons.mpr ⟨Ast.isInline_leaf rfl, (List.forall_mem_cons.mp hjoined).2⟩
      · exact List.forall_mem_cons.mpr ⟨Ast.isInline_leaf rfl, hjoined⟩
    · rename_i heq
      cases heq
      exact List.forall_mem_cons.mpr ⟨ha, hjoined⟩
    · rename_i heq
      cases heq

theorem isInline_linkEmails {a : Ast} (h : a.isInline = true) : ∀ b ∈ linkEmails a, b.isInline = true := by
  unfold linkEmails
  split
  · exact fun b hb => isInline_of_mem_splitEmails hb
  · exact List.forall_mem_singleton.mpr h

/-- Joining texts and linking addresses, as a block's text is finished. -/
theorem isInline_finished {as : List Ast} (h : ∀ a ∈ as, a.isInline = true) :
    ∀ a ∈ (joinTexts as).flatMap linkEmails, a.isInline = true := by
  intro a ha
  obtain ⟨b, hb, ha⟩ := List.mem_flatMap.mp ha
  exact isInline_linkEmails (isInline_joinTexts h b hb) a ha

mutual

theorem isInline_settle (a : Ast) (h : a.isInline = true) : a.settle.isInline = true := by
  cases a with
  | node e cs =>
    obtain ⟨he, hleaf, hcs⟩ := Ast.isInline_node_iff.mp h
    rw [Ast.settle]
    split
    · exact h
    · refine Ast.isInline_node_iff.mpr ⟨he, fun h => ?_, isInline_finished (isInline_settleAll cs hcs)⟩
      rw [hleaf h]
      rfl

theorem isInline_settleAll (as : List Ast) (h : ∀ a ∈ as, a.isInline = true) :
    ∀ a ∈ settleAll as, a.isInline = true := by
  cases as with
  | nil => exact List.forall_mem_nil _
  | cons a rest =>
    obtain ⟨ha, hrest⟩ := List.forall_mem_cons.mp h
    exact List.forall_mem_cons.mpr ⟨isInline_settle a ha, isInline_settleAll rest hrest⟩

end

/-- All nodes of a block's text are inline. -/
theorem isInline_readInlines (references : List Reference) (text : List Char) :
    ∀ a ∈ readInlines references text, a.isInline = true := by
  have hstart : ({} : InlineState).Inlines := ⟨InlinePieces.nil, List.forall_mem_nil _⟩
  have hread := inlines_readInlinesFrom references (trimSpaceEnd text).length hstart []
    (trimSpaceEnd text)
  exact isInline_finished (isInline_settleAll _ (isInline_pairRuns hread.allPieces))

end DocMark.Markdown
