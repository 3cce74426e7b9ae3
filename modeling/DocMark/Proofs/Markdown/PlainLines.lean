-- SUMMARY: Which blocks open on a line that is a phrase, behind heading marks or behind a bullet.
import Mathlib
import DocMark.Markdown.BlockReader
import DocMark.Proofs.Markdown.Phrase

/-!
# Plain lines

A letter begins no block but a paragraph. A line of number signs, a blank and a phrase opens a heading,
and one of an asterisk, a blank and a phrase opens an item.
-/
namespace DocMark.Markdown

/-! ## Cursors -/

theorem contentAt_cons {c : Char} (h : isBlank c = false) (column : Nat) (cs : List Char) :
    Cursor.contentAt column (c :: cs) = (column, c :: cs) := by
  unfold Cursor.contentAt
  split
  · exact absurd h (by simp_all [isBlank])
  · exact absurd h (by simp_all [isBlank])
  · rfl

theorem not_isBlank_of_isLowerLetter {c : Char} (hc : isLowerLetter c = true) :
    isBlank c = false := by
  have h : lowerLetters.all (!isBlank ·) = true := by decide
  simpa using of_isLowerLetter h hc

section Cursor

variable (p : Phrase) (column : Nat) (inTab : Bool)

theorem contentAt_phrase : Cursor.contentAt column p.chars = (column, p.chars) := by
  obtain ⟨c, cs, hchars, hletter⟩ := p.exists_chars_eq_cons
  rw [hchars, contentAt_cons (not_isBlank_of_isLowerLetter hletter)]

@[simp] theorem indent_phrase : (Cursor.mk p.chars column inTab).indent = 0 := by
  simp [Cursor.indent, contentAt_phrase]

@[simp] theorem content_phrase : (Cursor.mk p.chars column inTab).content = p.chars := by
  simp [Cursor.content, contentAt_phrase]

@[simp] theorem isBlank_phrase : (Cursor.mk p.chars column inTab).isBlank = false := by
  simp [Cursor.isBlank, p.chars_ne_nil]

@[simp] theorem content_space_phrase :
    (Cursor.mk (' ' :: p.chars) column inTab).content = p.chars := by
  simp [Cursor.content, Cursor.contentAt, contentAt_phrase]

@[simp] theorem isBlank_space_phrase :
    (Cursor.mk (' ' :: p.chars) column inTab).isBlank = false := by
  simp [Cursor.isBlank, p.chars_ne_nil]

end Cursor

theorem skipChars_replicate (n : Nat) {mark : Char} (h : mark ≠ '\t') (rest : List Char)
    (column : Nat) :
    (Cursor.mk (List.replicate n mark ++ rest) column false).skipChars n =
      ⟨rest, column + n, false⟩ := by
  induction n generalizing column with
  | zero => rfl
  | succ n ih =>
    rw [List.replicate_succ, List.cons_append, Cursor.skipChars]
    split
    · rename_i hnil
      cases hnil
    · rename_i htab
      cases htab
      exact absurd rfl h
    · rename_i hcons
      cases hcons
      rw [ih]
      simp only [Cursor.mk.injEq, and_true, true_and]
      omega

/-! ## Lines that open nothing -/

theorem atxLevel?_cons {c : Char} (h : c ≠ '#') (cs : List Char) : atxLevel? (c :: cs) = none := by
  simp [atxLevel?, h]

theorem openingFence?_cons {c : Char} (htick : c ≠ '\x60') (htilde : c ≠ '~') (cs : List Char) :
    openingFence? (c :: cs) = none := by
  unfold openingFence?
  split <;> simp_all

theorem blockStart?_cons {c : Char} (h : c ≠ '<') (inParagraph : Bool) (cs : List Char) :
    Html.blockStart? inParagraph (c :: cs) = none := by
  unfold Html.blockStart?
  split <;> simp_all

theorem quoteMark?_eq_none {c : Cursor} (h : c.content.head? ≠ some '>') : quoteMark? c = none := by
  simp [quoteMark?, h]

theorem isThematicBreak_cons {c : Char} (h : (c == '*' || c == '-' || c == '_') = false)
    (cs : List Char) : isThematicBreak (c :: cs) = false := by
  simp [isThematicBreak, h]

theorem listMarker?_cons {c : Char} (hmark : ¬(c = '*' ∨ c = '-' ∨ c = '+'))
    (hdigit : isDigit c = false) (inParagraph : Bool) (cs : List Char) :
    listMarker? inParagraph (c :: cs) = none := by
  simp [listMarker?, hmark, hdigit]

section Openings

variable {s : LineState} (depth : Nat) (lazy : Bool) (p : Phrase)

/-- Blocks in which a line of text begins a paragraph. -/
def BlockKind.holdsBlocks : BlockKind → Bool
  | .document => true
  | .list _ _ => true
  | .item _ => true
  | _ => false

theorem openNext_phrase (hcontent : s.cursor.content = p.chars) (hindent : s.cursor.indent = 0)
    (hcontainer : s.container.holdsBlocks = true) : openNext depth lazy s = .none s := by
  obtain ⟨c, cs, hchars, hc⟩ := p.exists_chars_eq_cons
  have hclear : lowerLetters.all (fun c => c != '#' && c != '\x60' && c != '~' && c != '<' && c != '>'
      && c != '*' && c != '-' && c != '_' && c != '+' && !isDigit c) = true := by decide
  have hc' := of_isLowerLetter hclear hc
  simp only [Bool.and_eq_true, bne_iff_ne, Bool.not_eq_true'] at hc'
  obtain ⟨⟨⟨⟨⟨⟨⟨⟨⟨hhash, htick⟩, htilde⟩, hless⟩, hgreater⟩, hstar⟩, hminus⟩, hunder⟩,
    hplus⟩, hdigit⟩ := hc'
  rw [hchars] at hcontent
  have hquote : quoteMark? s.cursor = none := quoteMark?_eq_none (by simp [hcontent, hgreater])
  have hmark : (c == '*' || c == '-' || c == '_') = false := by
    simp [hstar, hminus, hunder]
  have hbullet : ¬(c = '*' ∨ c = '-' ∨ c = '+') := by
    simp [hstar, hminus, hplus]
  have hparagraph : s.container.isParagraph = false := by
    cases hkind : s.container <;> simp_all [BlockKind.holdsBlocks, BlockKind.isParagraph]
  unfold openNext
  simp only [LineState.isIndented, hindent, hcontent, hquote, hparagraph,
    atxLevel?_cons hhash, openingFence?_cons htick htilde, blockStart?_cons hless,
    isThematicBreak_cons hmark, listMarker?_cons hbullet hdigit]
  cases hkind : s.container <;> simp_all [BlockKind.holdsBlocks]

/-- The characters of a heading's line. -/
def headingLine (level : Nat) (p : Phrase) : List Char := List.replicate level '#' ++ ' ' :: p.chars

/-- The characters of an item's line. -/
def itemLine (p : Phrase) : List Char := '*' :: ' ' :: p.chars

theorem contentAt_headingLine {level : Nat} (hlow : 1 ≤ level) :
    Cursor.contentAt 0 (headingLine level p) = (0, headingLine level p) := by
  obtain ⟨n, rfl⟩ := Nat.exists_eq_add_of_le' hlow
  rw [headingLine, List.replicate_succ, List.cons_append, contentAt_cons (by decide)]

theorem atxLevel?_headingLine {level : Nat} (hlow : 1 ≤ level) (hhigh : level ≤ 6) :
    atxLevel? (headingLine level p) = some level := by
  have htake : (headingLine level p).takeWhile (· == '#') = List.replicate level '#' := by
    rw [headingLine, List.takeWhile_append_of_pos (by simp)]
    simp
  have hdrop : (headingLine level p).dropWhile (· == '#') = ' ' :: p.chars := by
    rw [headingLine, List.dropWhile_append_of_pos (by simp)]
    simp
  rw [atxLevel?, htake, hdrop, List.length_replicate, if_pos]
  exact ⟨hlow, hhigh, .inr rfl⟩

theorem openNext_heading {level : Nat} (hlow : 1 ≤ level) (hhigh : level ≤ 6)
    (hcursor : s.cursor = ⟨headingLine level p, 0, false⟩) :
    openNext depth lazy s = .opened { s.openBlock (.heading level false) with
      cursor := ⟨' ' :: p.chars, level, false⟩ } := by
  have hcontent : s.cursor.content = headingLine level p := by
    rw [hcursor, Cursor.content, contentAt_headingLine p hlow]
  have hindented : s.isIndented = false := by
    rw [LineState.isIndented, hcursor, Cursor.indent, contentAt_headingLine p hlow]
    rfl
  have hquote : quoteMark? s.cursor = none := by
    refine quoteMark?_eq_none ?_
    obtain ⟨n, rfl⟩ := Nat.exists_eq_add_of_le' hlow
    rw [hcontent, headingLine, List.replicate_succ, List.cons_append, List.head?_cons]
    decide
  have hskip : s.cursor.toContent.skipChars level = ⟨' ' :: p.chars, level, false⟩ := by
    rw [hcursor, Cursor.toContent, contentAt_headingLine p hlow]
    dsimp only
    rw [headingLine, skipChars_replicate level (by decide), Nat.zero_add]
  unfold openNext
  simp only [hindented, hcontent, hquote, hskip, atxLevel?_headingLine p hlow hhigh,
    Bool.false_eq_true, if_false]

theorem listMarker?_itemLine : listMarker? false (itemLine p) =
    some (.bullet '*', 1, ' ' :: p.chars) := by
  simp [listMarker?, itemLine, isSpace]

theorem itemContent_itemLine :
    itemContent 1 ⟨itemLine p, 0, false⟩ = (⟨p.chars, 2, false⟩, 2) := by
  have hindent : (Cursor.mk (' ' :: p.chars) 1 false).indent = 1 := by
    simp [Cursor.indent, Cursor.contentAt, contentAt_phrase]
  have hskip : (Cursor.mk (itemLine p) 0 false).skipChars 1 = ⟨' ' :: p.chars, 1, false⟩ := rfl
  have hcolumn : (Cursor.mk (' ' :: p.chars) 1 false).skipColumns 1 = ⟨p.chars, 2, false⟩ := rfl
  simp [itemContent, hskip, hindent, hcolumn]

/-- The state in which an item opens: in a list of its marker, or in a new one. -/
inductive LineState.MakesList (s : LineState) : LineState → Prop where
  | same (tight : Bool) : s.container = .list (.bullet '*') tight → s.MakesList s.closeUnmatched
  | new : s.container = .document → s.MakesList (s.openBlock (.list (.bullet '*') true))

theorem openNext_item {list : LineState} (hdepth : depth < maxOpenings)
    (hcursor : s.cursor = ⟨itemLine p, 0, false⟩) (hlist : s.MakesList list) :
    openNext depth lazy s = .opened { list.openBlock (.item 2) with
      cursor := ⟨p.chars, 2, false⟩ } := by
  obtain ⟨c, cs, hchars, hletter⟩ := p.exists_chars_eq_cons
  have hat : Cursor.contentAt 0 (itemLine p) = (0, itemLine p) := contentAt_cons (by decide) _ _
  have hcontent : s.cursor.content = '*' :: (' ' :: p.chars) := by
    rw [hcursor, Cursor.content, hat]
    rfl
  have hindent : s.cursor.indent = 0 := by
    rw [hcursor, Cursor.indent, hat]
    rfl
  have hquote : quoteMark? s.cursor = none := quoteMark?_eq_none (by simp [hcontent])
  have hthematic : isThematicBreak ('*' :: ' ' :: p.chars) = false := by
    have hother : (c == '*' || isBlank c) = false := by
      have h : lowerLetters.all (fun c => !(c == '*' || isBlank c)) = true := by decide
      simpa using of_isLowerLetter h hletter
    simp only [isThematicBreak, hchars, List.all_cons, hother]
    simp
  have hmarker : listMarker? false ('*' :: ' ' :: p.chars) =
      some (.bullet '*', 1, ' ' :: p.chars) := listMarker?_itemLine p
  have htoContent : s.cursor.toContent = ⟨itemLine p, 0, false⟩ := by
    rw [hcursor, Cursor.toContent, hat]
  have hopen : ¬maxOpenings ≤ depth := by omega
  have hcontainer : s.container.isParagraph = false := by
    cases hlist with
    | same tight hkind => rw [hkind]; rfl
    | new hkind => rw [hkind]; rfl
  unfold openNext
  simp only [LineState.isIndented, hindent, hcontent, hquote, hcontainer, hthematic, hmarker,
    htoContent, atxLevel?_cons (show '*' ≠ '#' by decide),
    openingFence?_cons (show '*' ≠ '\x60' by decide) (show '*' ≠ '~' by decide),
    blockStart?_cons (show '*' ≠ '<' by decide)]
  cases hlist with
  | same tight hkind => simp [hopen, itemContent_itemLine, hkind]
  | new hkind => simp [hopen, itemContent_itemLine, hkind]

theorem openNext_blank (hcursor : s.cursor.content = []) (hindent : s.cursor.indent = 0)
    (hcontainer : s.container.holdsBlocks = true) : openNext depth lazy s = .none s := by
  have hquote : quoteMark? s.cursor = none := quoteMark?_eq_none (by simp [hcursor])
  have hparagraph : s.container.isParagraph = false := by
    cases hkind : s.container <;> simp_all [BlockKind.holdsBlocks, BlockKind.isParagraph]
  unfold openNext
  simp only [LineState.isIndented, hindent, hcursor, hquote, hparagraph]
  cases hkind : s.container <;>
    simp_all [BlockKind.holdsBlocks, atxLevel?, openingFence?, Html.blockStart?, isThematicBreak,
      listMarker?]

/-! ## All blocks of a line -/

theorem openAll_of_none (fuel : Nat) (hcontainer : s.container.holdsBlocks = true)
    (h : openNext depth lazy s = .none s) : openAll fuel depth lazy s = s := by
  have hverbatim : s.container.isVerbatim = false := by
    cases hkind : s.container <;> simp_all [BlockKind.holdsBlocks, BlockKind.isVerbatim]
  cases fuel with
  | zero => rfl
  | succ fuel =>
    rw [openAll, hverbatim, h]
    rfl

theorem openAll_phrase (fuel : Nat) (hcontent : s.cursor.content = p.chars)
    (hindent : s.cursor.indent = 0) (hcontainer : s.container.holdsBlocks = true) :
    openAll fuel depth lazy s = s :=
  openAll_of_none depth lazy fuel hcontainer
    (openNext_phrase depth lazy p hcontent hindent hcontainer)

theorem openAll_blank (fuel : Nat) (hcontent : s.cursor.content = [])
    (hindent : s.cursor.indent = 0) (hcontainer : s.container.holdsBlocks = true) :
    openAll fuel depth lazy s = s :=
  openAll_of_none depth lazy fuel hcontainer (openNext_blank depth lazy hcontent hindent hcontainer)

/-- A heading takes the rest of its line. -/
theorem openAll_heading (fuel : Nat) {level : Nat} (hlow : 1 ≤ level) (hhigh : level ≤ 6)
    (hcursor : s.cursor = ⟨headingLine level p, 0, false⟩)
    (hcontainer : s.container.holdsBlocks = true) :
    openAll (fuel + 1) depth lazy s = { s.openBlock (.heading level false) with
      cursor := ⟨' ' :: p.chars, level, false⟩ } := by
  have hverbatim : s.container.isVerbatim = false := by
    cases hkind : s.container <;> simp_all [BlockKind.holdsBlocks, BlockKind.isVerbatim]
  rw [openAll, hverbatim, openNext_heading depth lazy p hlow hhigh hcursor]
  rfl

/-- What follows a bullet opens nothing more. -/
theorem openAll_item (fuel : Nat) {list : LineState} (hdepth : depth < maxOpenings)
    (hcursor : s.cursor = ⟨itemLine p, 0, false⟩) (hlist : s.MakesList list) :
    openAll (fuel + 1) depth lazy s = { list.openBlock (.item 2) with
      cursor := ⟨p.chars, 2, false⟩ } := by
  have hverbatim : s.container.isVerbatim = false := by
    cases hlist with
    | same tight hkind => rw [hkind]; rfl
    | new hkind => rw [hkind]; rfl
  rw [openAll, hverbatim, openNext_item depth lazy p hdepth hcursor hlist]
  exact openAll_phrase (depth + 1) false p fuel (content_phrase ..) (indent_phrase ..) rfl

end Openings

end DocMark.Markdown
