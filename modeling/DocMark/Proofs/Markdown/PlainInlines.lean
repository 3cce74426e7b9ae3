-- SUMMARY: A phrase has no inline markup: reading it gives one text.
import Mathlib
import DocMark.Markdown.InlineReader
import DocMark.Proofs.Markdown.Phrase

/-!
# Reading phrases

The reader stops at every `w`, which might begin an address, and takes all between as it is. While it
reads a phrase there are no brackets, and the pieces are texts that together make up what was
read. At the end the texts are joined.
-/
namespace DocMark.Markdown

/-- The characters of phrases. -/
def isPhraseChar (c : Char) : Bool := isLowerLetter c || c == ' '

theorem of_isPhraseChar {P : Char → Bool} (hspace : P ' ' = true)
    (hletter : lowerLetters.all P = true) {c : Char} (hc : isPhraseChar c = true) : P c = true := by
  simp only [isPhraseChar, Bool.or_eq_true, beq_iff_eq] at hc
  rcases hc with h | rfl
  · exact of_isLowerLetter hletter h
  · exact hspace

theorem Phrase.isPhraseChar_of_mem (p : Phrase) {c : Char} (h : c ∈ p.chars) :
    isPhraseChar c = true := by
  simpa [isPhraseChar] using p.mem_chars h

/-- Only a `w` stops the reader. -/
theorem plain_or_eq_w {c : Char} (hc : isPhraseChar c = true) :
    c = 'w' ∨ isSpecial c = false ∧ standsAlone c = false := by
  have h : (c == 'w' || !isSpecial c && !standsAlone c) = true :=
    of_isPhraseChar (P := fun c => c == 'w' || !isSpecial c && !standsAlone c) (by decide)
      (by decide) hc
  simpa using h

namespace InlineState

/-- What has been read is text and nothing else. -/
structure Plain (s : InlineState) (read : List Char) : Prop where
  brackets : s.brackets = []
  inBrackets : s.inBrackets = false
  pieces : ∃ texts : List (List Char),
    s.pieces = (texts.map Piece.ofText).reverse ∧ texts.flatten = read

theorem plain_start : Plain {} [] := ⟨rfl, rfl, [], rfl, rfl⟩

theorem Plain.pushText {s : InlineState} {read : List Char} (h : s.Plain read)
    (cs : List Char) : (s.pushText cs).Plain (read ++ cs) := by
  obtain ⟨texts, hpieces, hread⟩ := h.pieces
  refine ⟨h.brackets, h.inBrackets, texts ++ [cs], ?_, ?_⟩
  · simp [InlineState.pushText, InlineState.push, hpieces]
  · simp [hread]

end InlineState

/-! ## Steps -/

theorem mem_of_after?_eq_some {start cs rest : List Char} (h : after? start cs = some rest) :
    ∀ c ∈ start, c ∈ cs := by
  induction start generalizing cs with
  | nil => exact List.forall_mem_nil _
  | cons s start ih =>
    cases cs with
    | nil => cases h
    | cons c cs =>
      rw [after?] at h
      split at h
      · rename_i hsc
        intro x hx
        rcases List.mem_cons.mp hx with rfl | hx
        · exact hsc ▸ List.mem_cons_self ..
        · exact List.mem_cons_of_mem _ (ih h x hx)
      · cases h

/-- Without a dot there is no `www.`. -/
theorem wwwLink?_eq_none (before : List Char) {cs : List Char} (h : '.' ∉ cs) :
    wwwLink? before cs = none := by
  have hstart : startsWith "www.".toList cs = false := by
    rw [startsWith]
    cases hafter : after? "www.".toList cs with
    | none => rfl
    | some rest => exact absurd (mem_of_after?_eq_some hafter '.' (by simp)) h
  rw [wwwLink?, hstart, Bool.and_false, Bool.false_and, if_neg (by decide)]

section Steps

variable {s : InlineState} {read : List Char} {c : Char} {cs : List Char}

theorem readW_plain (h : s.Plain read) (before : List Char) (hcs : '.' ∉ cs) :
    readW s before cs = (s.pushText ['w'], cs) := by
  have hdot : '.' ∉ 'w' :: cs := by simp [hcs]
  simp [readW, h.inBrackets, wwwLink?_eq_none before hdot]

/-- The stretch up to the next `w` becomes a text. -/
theorem readText_plain (h : s.Plain read) (hc : isSpecial c = false) (hcs : '\n' ∉ cs) :
    readText s (c :: cs) =
      (s.pushText ((c :: cs).takeWhile (!isSpecial ·)), (c :: cs).dropWhile (!isSpecial ·)) := by
  have hrest : ((c :: cs).dropWhile (!isSpecial ·)).head? ≠ some '\n' := by
    intro hhead
    have hmem : '\n' ∈ c :: cs :=
      (List.dropWhile_sublist _).subset (List.mem_of_mem_head? hhead)
    rcases List.mem_cons.mp hmem with rfl | hmem
    · exact absurd hc (by decide)
    · exact hcs hmem
  have hsome : (c :: cs).takeWhile (!isSpecial ·) ≠ [] := by
    simp [hc]
  have hhead : (((c :: cs).dropWhile (!isSpecial ·)).head? == some '\n') = false := by
    simpa using hrest
  obtain ⟨texts, hpieces, -⟩ := h.pieces
  rw [← List.map_reverse] at hpieces
  unfold readText
  dsimp only
  rw [hhead]
  -- The piece before is a text and no line break, after which spaces would be dropped.
  cases hlast : texts.reverse with
  | nil =>
    rw [hpieces, hlast]
    simp [hsome]
  | cons last others =>
    rw [hpieces, hlast]
    simp [hsome, Piece.ofText, Ast.text, Ast.leaf]

/-- Every step takes some of the text into the pieces. -/
theorem readInline_plain (h : s.Plain read) (references : List Reference) (before : List Char)
    (hc : isPhraseChar c = true) (hcs : ∀ d ∈ cs, isPhraseChar d = true) :
    ∃ taken, taken ≠ [] ∧ c :: cs = taken ++ (readInline references s before c cs).2
      ∧ (readInline references s before c cs).1.Plain (read ++ taken) := by
  have hdot : '.' ∉ cs := fun hmem => absurd (hcs _ hmem) (by decide)
  have hline : '\n' ∉ cs := fun hmem => absurd (hcs _ hmem) (by decide)
  rcases plain_or_eq_w hc with rfl | ⟨hspecial, halone⟩
  · rw [show readInline references s before 'w' cs = readW s before cs from rfl,
      readW_plain h before hdot]
    exact ⟨['w'], by simp, rfl, h.pushText ['w']⟩
  · have hread : readInline references s before c cs = readText s (c :: cs) := by
      have hmarks : ¬(c = '*' ∨ c = '_' ∨ c = '~') := by
        rintro (rfl | rfl | rfl)
        all_goals exact absurd hspecial (by decide)
      have himage : ¬(c = '!' ∧ cs.head? = some '[' ∧ cs[1]? ≠ some '^') := by
        rintro ⟨rfl, -⟩
        exact absurd hspecial (by decide)
      unfold readInline
      split
      all_goals first
        | exact absurd hspecial (by decide)
        | rw [if_neg hmarks, if_neg himage, if_neg (by simp [halone])]
    rw [hread, readText_plain h hspecial hline]
    refine ⟨(c :: cs).takeWhile (!isSpecial ·), ?_, List.takeWhile_append_dropWhile.symm,
      h.pushText _⟩
    simp [hspecial]

end Steps

/-- With enough fuel everything is read. -/
theorem readInlinesFrom_plain (references : List Reference) {fuel : Nat} {s : InlineState}
    {read cs : List Char} (h : s.Plain read) (before : List Char)
    (hcs : ∀ c ∈ cs, isPhraseChar c = true) (hfuel : cs.length ≤ fuel) :
    (readInlinesFrom references fuel s before cs).Plain (read ++ cs) := by
  induction fuel generalizing s read before cs with
  | zero =>
    have hnil : cs = [] := List.length_eq_zero_iff.mp (Nat.le_zero.mp hfuel)
    subst hnil
    simpa [readInlinesFrom] using h
  | succ fuel ih =>
    cases cs with
    | nil => simpa [readInlinesFrom] using h
    | cons c cs =>
      obtain ⟨taken, htaken, hsplit, hplain⟩ := readInline_plain h references before
        (hcs c (List.mem_cons_self ..)) fun d hd => hcs d (List.mem_cons_of_mem _ hd)
      rw [readInlinesFrom]
      generalize readInline references s before c cs = step at hsplit hplain ⊢
      obtain ⟨s', rest⟩ := step
      dsimp only at hsplit hplain ⊢
      have hshorter : rest.length ≤ fuel := by
        have hpos := List.length_pos_iff.mpr htaken
        rw [hsplit, List.length_append] at hfuel
        omega
      rw [hsplit, ← List.append_assoc]
      exact ih hplain _ (fun d hd => hcs d (hsplit ▸ List.mem_append_right _ hd)) hshorter

/-! ## What becomes of the texts -/

theorem map_settle_nodes (asts : List Ast) : (asts.map Piece.node).map Piece.settle = asts := by
  rw [List.map_map]
  exact List.map_id asts

/-- Where there are no marks, nothing is paired. -/
theorem pairFrom_nodes (fuel : Nat) (done : List Piece) (asts : List Ast) :
    pairFrom fuel done (asts.map Piece.node) = done.reverse.map Piece.settle ++ asts := by
  induction fuel generalizing done asts with
  | zero => rw [pairFrom, List.map_append, map_settle_nodes]
  | succ fuel ih =>
    cases asts with
    | nil => simp [pairFrom]
    | cons a asts =>
      rw [List.map_cons, pairFrom, ih]
      simp [Piece.settle]

theorem settleAll_texts (texts : List (List Char)) :
    settleAll (texts.map Ast.text) = texts.map Ast.text := by
  induction texts with
  | nil => rfl
  | cons t texts ih =>
    rw [List.map_cons, settleAll, ih]
    rfl

theorem joinTexts_texts {texts : List (List Char)} (h : texts ≠ []) :
    joinTexts (texts.map Ast.text) = [.text texts.flatten] := by
  induction texts with
  | nil => exact absurd rfl h
  | cons t texts ih =>
    by_cases hnil : texts = []
    · subst hnil
      simp [joinTexts, Ast.text, Ast.leaf]
    · rw [List.map_cons]
      simp only [Ast.text, Ast.leaf] at ih ⊢
      rw [joinTexts, ih hnil]
      simp [Ast.leaf]

theorem findEmail?_eq_none {cs : List Char} (h : '@' ∉ cs) (before : List Char) (depth : Int) :
    findEmail? before depth cs = none := by
  induction cs generalizing before depth with
  | nil => rfl
  | cons c cs ih =>
    have hc : c ≠ '@' := fun hc => h (hc ▸ List.mem_cons_self ..)
    have hcs : '@' ∉ cs := fun hmem => h (List.mem_cons_of_mem _ hmem)
    rw [findEmail?]
    simp only [hc, and_false, if_false]
    exact ih hcs _ _

theorem linkEmails_text {cs : List Char} (h : '@' ∉ cs) : linkEmails (.text cs) = [.text cs] := by
  simp only [Ast.text, Ast.leaf, linkEmails, String.toList_ofList]
  rw [splitEmails, findEmail?_eq_none h]
  rfl

/-- The line of a paragraph or a heading that holds a phrase is that phrase. -/
theorem readInlines_phrase (references : List Reference) (p : Phrase) :
    readInlines references (p.chars ++ ['\n']) = [.text p.chars] := by
  have htrim : trimSpaceEnd (p.chars ++ ['\n']) = p.chars := by
    have hend : trimSpaceEnd (p.chars ++ ['\n']) = trimSpaceEnd p.chars :=
      List.rdropWhile_concat_pos _ _ _ (by decide)
    rw [hend, p.trimSpaceEnd_chars]
  have hplain := readInlinesFrom_plain references InlineState.plain_start []
    (fun c hc => p.isPhraseChar_of_mem hc) (le_refl p.chars.length)
  have hat : '@' ∉ p.chars := fun hmem => absurd (p.isPhraseChar_of_mem hmem) (by decide)
  unfold readInlines
  rw [htrim]
  dsimp only
  generalize readInlinesFrom references p.chars.length {} [] p.chars = s at hplain ⊢
  obtain ⟨texts, hpieces, hread⟩ := hplain.pieces
  have hsome : texts ≠ [] := by
    rintro rfl
    exact p.chars_ne_nil hread.symm
  have hall : s.allPieces = (texts.map Ast.text).map Piece.node := by
    simp [InlineState.allPieces, hplain.brackets, hpieces, Piece.ofText, Function.comp_def]
  rw [hall, pairRuns, pairFrom_nodes]
  simp only [List.reverse_nil, List.map_nil, List.nil_append] at hread ⊢
  rw [settleAll_texts, joinTexts_texts hsome, hread, List.flatMap_singleton, linkEmails_text hat]

end DocMark.Markdown
