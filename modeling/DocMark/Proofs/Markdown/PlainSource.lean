-- SUMMARY: Texts of headings, paragraphs and bullet lists of phrases, and the trees that they are read as.
import Mathlib
import DocMark.Proofs.Markdown.PlainBlocks

/-!
# Plain sources

A plain source consists of headings, paragraphs and bullet lists with blank lines between them. Its
tree shows its lines. Lists side by side become one list in it, which shows the same.
-/
namespace DocMark.Markdown
open DocMark.Text

inductive PlainBlock where
  | heading (level : Nat) (low : 1 ≤ level) (high : level ≤ 6) (text : Phrase)
  | paragraph (text : Phrase)
  | bullets (first : Phrase) (rest : List Phrase)

namespace PlainBlock

def lines : PlainBlock → List (List Char)
  | heading level _ _ text => [headingLine level text]
  | paragraph text => [text.chars]
  | bullets first rest => (first :: rest).map itemLine

def source (b : PlainBlock) : String := "\n".intercalate (b.lines.map String.ofList)

/-- What the block shows. -/
def shown (b : PlainBlock) : List String := b.lines.map String.ofList

end PlainBlock

/-- The text of blocks, joined by blank lines. -/
def plainSource (blocks : List PlainBlock) : String :=
  "\n\n".intercalate (blocks.map PlainBlock.source)

example : plainSource
    [.heading 2 (by decide) (by decide) (.ofWords [['a'], ['b', 'c']] rfl (by decide)),
      .bullets (.ofWords [['d']] rfl (by decide)) [.ofWords [['e']] rfl (by decide)]] =
    "## a bc\n\n* d\n* e" := by decide

/-- The lines of that text. -/
def plainLines : List PlainBlock → List (List Char)
  | [] => []
  | [b] => b.lines
  | b :: c :: rest => b.lines ++ [] :: plainLines (c :: rest)

/-! ## The lines of a source -/

/-- The characters of plain lines. -/
def plainChars : List Char := ' ' :: '#' :: '*' :: lowerLetters

theorem mem_plainChars_of_mem_chars {p : Phrase} {c : Char} (h : c ∈ p.chars) : c ∈ plainChars := by
  rcases p.mem_chars h with hletter | rfl
  · have hmem : c ∈ lowerLetters := mem_lowerLetters hletter
    simp [plainChars, hmem]
  · simp [plainChars]

theorem PlainBlock.mem_plainChars {b : PlainBlock} {cs : List Char} (h : cs ∈ b.lines) :
    ∀ c ∈ cs, c ∈ plainChars := by
  intro c hc
  cases b with
  | heading level low high text =>
    rw [lines, List.mem_singleton] at h
    rw [h, headingLine, List.mem_append, List.mem_cons] at hc
    rcases hc with hc | rfl | hc
    · rw [List.eq_of_mem_replicate hc]
      simp [plainChars]
    · simp [plainChars]
    · exact mem_plainChars_of_mem_chars hc
  | paragraph text =>
    rw [lines, List.mem_singleton] at h
    exact mem_plainChars_of_mem_chars (h ▸ hc)
  | bullets first rest =>
    obtain ⟨p, -, rfl⟩ := List.mem_map.mp h
    rw [itemLine, List.mem_cons, List.mem_cons] at hc
    rcases hc with rfl | rfl | hc
    · simp [plainChars]
    · simp [plainChars]
    · exact mem_plainChars_of_mem_chars hc

theorem PlainBlock.trim_of_mem_lines {b : PlainBlock} {cs : List Char} (h : cs ∈ b.lines) :
    trim cs = cs ∧ cs ≠ [] := by
  have hbehind : ∀ (start : List Char) (p : Phrase), (∀ x ∈ start.head?, isWhiteSpace x = false) →
      trim (start ++ p.chars) = start ++ p.chars ∧ start ++ p.chars ≠ [] := by
    intro start p hstart
    have hsome : trim p.chars ≠ [] := by
      rw [p.trim_chars]
      exact p.chars_ne_nil
    have htrim := trim_append_trim hstart hsome
    rw [p.trim_chars] at htrim
    exact ⟨htrim, by simp [p.chars_ne_nil]⟩
  cases b with
  | heading level low high text =>
    rw [lines, List.mem_singleton] at h
    have hline : headingLine level text = (List.replicate level '#' ++ [' ']) ++ text.chars := by
      simp [headingLine]
    rw [h, hline]
    refine hbehind _ text ?_
    obtain ⟨n, rfl⟩ := Nat.exists_eq_add_of_le' low
    rintro x ⟨⟩
    decide
  | paragraph text =>
    rw [lines, List.mem_singleton] at h
    rw [h]
    exact ⟨text.trim_chars, text.chars_ne_nil⟩
  | bullets first rest =>
    obtain ⟨p, -, rfl⟩ := List.mem_map.mp h
    refine hbehind ['*', ' '] p ?_
    rintro x ⟨⟩
    decide

theorem PlainBlock.lines_ne_nil (b : PlainBlock) : b.lines ≠ [] := by
  cases b <;> simp [lines]

theorem lineFeed_notMem_of_plainChars {cs : List Char} (h : ∀ c ∈ cs, c ∈ plainChars) : '\n' ∉ cs :=
  fun hmem => absurd (h _ hmem) (by decide)

theorem PlainBlock.visibleLines_source (b : PlainBlock) : visibleLines b.source = b.shown := by
  have hline : ∀ cs ∈ b.lines, visibleLines (String.ofList cs) = [String.ofList cs] := by
    intro cs hcs
    obtain ⟨htrim, hsome⟩ := b.trim_of_mem_lines hcs
    rw [visibleLines_of_single (lineFeed_notMem_of_plainChars (b.mem_plainChars hcs)), htrim,
      if_neg hsome]
  rw [source, visibleLines_intercalate, shown, List.flatMap_map, List.flatMap_congr hline,
    List.map_eq_flatMap]

theorem plainSource_cons_cons (b c : PlainBlock) (rest : List PlainBlock) :
    plainSource (b :: c :: rest) = b.source ++ "\n" ++ ("" ++ "\n" ++ plainSource (c :: rest)) := by
  have hbreak : "\n\n" = "\n" ++ "\n" := by decide
  rw [plainSource, List.map_cons, List.map_cons, String.intercalate_cons_cons, ← List.map_cons,
    ← plainSource, String.empty_append, hbreak, String.append_assoc, String.append_assoc,
    String.append_assoc]

/-- A source shows its blocks, blank lines left out. -/
theorem visibleLines_plainSource (blocks : List PlainBlock) :
    visibleLines (plainSource blocks) = blocks.flatMap PlainBlock.shown := by
  induction blocks with
  | nil => rfl
  | cons b rest ih =>
    cases rest with
    | nil => simp [plainSource, b.visibleLines_source]
    | cons c rest =>
      rw [plainSource_cons_cons, visibleLines_append_lineFeed, visibleLines_append_lineFeed, ih,
        b.visibleLines_source, visibleLines_empty]
      rfl

/-! ## Splitting a source -/

theorem linesFrom_append (current : List Char) {cs : List Char} (h : ∀ c ∈ cs, c ∈ plainChars)
    (rest : List Char) : linesFrom current (cs ++ rest) = linesFrom (cs.reverse ++ current) rest := by
  induction cs generalizing current with
  | nil => rfl
  | cons c cs ih =>
    have hplain : plainChars.all (fun c => c != '\r' && c != '\n' && c.toNat != 0) = true := by decide
    have hc := List.all_eq_true.mp hplain c (h c (List.mem_cons_self ..))
    simp only [Bool.and_eq_true, bne_iff_ne] at hc
    obtain ⟨⟨hreturn, hfeed⟩, hnul⟩ := hc
    have hstep : linesFrom current (c :: (cs ++ rest)) = linesFrom (c :: current) (cs ++ rest) := by
      rw [linesFrom]
      · rw [if_neg hnul]
      all_goals simp_all
    rw [List.cons_append, hstep, ih _ fun d hd => h d (List.mem_cons_of_mem _ hd), List.reverse_cons,
      List.append_assoc, List.singleton_append]

/-- Lines joined by line feeds are split again, unless the last one is empty. -/
theorem linesFrom_intercalate {ls : List (List Char)} (h : ∀ cs ∈ ls, ∀ c ∈ cs, c ∈ plainChars)
    (hlast : ls.getLast? ≠ some []) : linesFrom [] (['\n'].intercalate ls) = ls := by
  induction ls with
  | nil => rfl
  | cons cs ls ih =>
    have hcs := h cs (List.mem_cons_self ..)
    cases ls with
    | nil =>
      have hsome : cs ≠ [] := by simpa using hlast
      have hread := linesFrom_append [] hcs []
      rw [List.append_nil, List.append_nil, linesFrom] at hread
      rw [List.intercalate_singleton, hread]
      simp [hsome]
    | cons cs' ls =>
      have hrest := ih (fun ds hds => h ds (List.mem_cons_of_mem _ hds)) (by simpa using hlast)
      rw [List.intercalate_cons_cons, List.append_assoc, linesFrom_append [] hcs,
        List.append_nil, List.singleton_append, linesFrom, hrest, List.reverse_reverse]

theorem plainSource_eq_intercalate (blocks : List PlainBlock) :
    plainSource blocks = "\n".intercalate ((plainLines blocks).map String.ofList) := by
  induction blocks with
  | nil => rfl
  | cons b rest ih =>
    cases rest with
    | nil => simp [plainSource, plainLines, PlainBlock.source]
    | cons c rest =>
      have hne : (plainLines (c :: rest)).map String.ofList ≠ [] := by
        cases rest <;> simp [plainLines, PlainBlock.lines_ne_nil]
      rw [plainSource_cons_cons, ih, plainLines, List.map_append, List.map_cons,
        String.intercalate_append_of_ne_nil (by simp [b.lines_ne_nil]) (List.cons_ne_nil _ _),
        String.intercalate_cons_of_ne_nil hne]
      rfl

theorem mem_plainChars_of_mem_plainLines {blocks : List PlainBlock} {cs : List Char}
    (h : cs ∈ plainLines blocks) : ∀ c ∈ cs, c ∈ plainChars := by
  induction blocks with
  | nil => cases h
  | cons b rest ih =>
    cases rest with
    | nil => exact b.mem_plainChars h
    | cons c rest =>
      rw [plainLines, List.mem_append, List.mem_cons] at h
      rcases h with h | rfl | h
      · exact b.mem_plainChars h
      · intro c hc
        cases hc
      · exact ih h

theorem getLast?_plainLines (blocks : List PlainBlock) : (plainLines blocks).getLast? ≠ some [] := by
  induction blocks with
  | nil => simp [plainLines]
  | cons b rest ih =>
    cases rest with
    | nil =>
      intro hlast
      exact (b.trim_of_mem_lines (List.mem_of_getLast? hlast)).2 rfl
    | cons c rest =>
      have hne : plainLines (c :: rest) ≠ [] := by
        cases rest <;> simp [plainLines, PlainBlock.lines_ne_nil]
      rw [plainLines, List.getLast?_append_of_ne_nil _ (List.cons_ne_nil _ _),
        List.getLast?_cons_of_ne_nil hne]
      exact ih

theorem splitLines_plainSource (blocks : List PlainBlock) :
    splitLines (plainSource blocks).toList = plainLines blocks := by
  have hlines : linesFrom [] (plainSource blocks).toList = plainLines blocks := by
    have hchars : (plainSource blocks).toList = ['\n'].intercalate (plainLines blocks) := by
      rw [plainSource_eq_intercalate, String.toList_intercalate, List.map_map]
      simp [Function.comp_def]
    rw [hchars]
    exact linesFrom_intercalate (fun _ => mem_plainChars_of_mem_plainLines)
      (getLast?_plainLines blocks)
  have hmark : ∀ cs ∈ plainLines blocks, withoutMark cs = cs := by
    intro cs hcs
    cases cs with
    | nil => rfl
    | cons c cs =>
      have hc := mem_plainChars_of_mem_plainLines hcs c (List.mem_cons_self ..)
      have hplain : plainChars.all (·.toNat != 0xFEFF) = true := by decide
      have hmark := List.all_eq_true.mp hplain c hc
      rw [withoutMark, if_neg (by simpa using hmark)]
  rw [splitLines, hlines]
  cases hcases : plainLines blocks with
  | nil => rfl
  | cons first rest => exact congrArg (· :: rest) (hmark first (hcases ▸ List.mem_cons_self ..))

/-! ## Reading a source -/

section Reading

variable {state : BlockState} {place : Place} {ls : List String}

theorem Follows.items (h : Follows place ls state) (hplace : place ≠ .inText) (p : Phrase)
    (ps : List Phrase) : Follows .inItem (ls ++ ((p :: ps).map itemLine).map String.ofList)
      (((p :: ps).map itemLine).foldl readLine state) := by
  induction ps generalizing place ls state p with
  | nil => exact h.item hplace p
  | cons q ps ih =>
    have hrest := ih (h.item hplace p) (by decide) q
    rw [List.append_assoc] at hrest
    exact hrest

theorem Follows.block (h : Follows .between ls state) (b : PlainBlock) :
    ∃ place, place ≠ .between ∧ Follows place (ls ++ b.shown) (b.lines.foldl readLine state) := by
  cases b with
  | heading level low high text => exact ⟨.inText, by decide, h.heading text low high⟩
  | paragraph text => exact ⟨.inText, by decide, h.phrase text⟩
  | bullets first rest => exact ⟨.inItem, by decide, h.items (by decide) first rest⟩

/-- Reading the lines of all blocks, one after another. -/
theorem Follows.blocks (h : Follows .between ls state) (blocks : List PlainBlock) :
    ∃ place, Follows place (ls ++ blocks.flatMap PlainBlock.shown)
      ((plainLines blocks).foldl readLine state) := by
  induction blocks generalizing ls state with
  | nil =>
    rw [List.flatMap_nil, List.append_nil]
    exact ⟨.between, h⟩
  | cons b rest ih =>
    obtain ⟨place, hplace, hblock⟩ := h.block b
    cases rest with
    | nil =>
      rw [List.flatMap_singleton]
      exact ⟨place, hblock⟩
    | cons c rest =>
      obtain ⟨place', hrest⟩ := ih (hblock.blank hplace)
      rw [List.append_assoc] at hrest
      rw [plainLines, List.foldl_append, List.foldl_cons, List.flatMap_cons]
      exact ⟨place', hrest⟩

end Reading

theorem readBlocks_plainSource (blocks : List PlainBlock) : ∃ text blank children,
    readBlocks (plainSource blocks).toList = (.mk .document text blank children, [])
      ∧ Reads children (blocks.flatMap PlainBlock.shown) := by
  have hstart : Follows .between [] { spine := [{ kind := .document, line := 0 }] } :=
    ⟨.document ⟨rfl, reads_nil⟩, rfl⟩
  obtain ⟨place, hstage, hreferences⟩ := hstart.blocks blocks
  obtain ⟨document, hclose, hkind, hreads⟩ := hstage.close
  have hfinish : document.finish =
      (some (.mk .document document.text document.blankEnd document.children.reverse), []) := by
    simp [Frame.finish, hkind]
  refine ⟨document.text, document.blankEnd, _, ?_, hreads⟩
  simp only [readBlocks, splitLines_plainSource, hreferences, hclose, hfinish]

/-- A plain source is read as a block tree that shows the blocks. -/
theorem parse_plainSource (blocks : List PlainBlock) : ∃ nodes,
    parse (plainSource blocks) = .document nodes ∧ Node.areBlocks nodes = true
      ∧ Node.outlineAll false nodes = blocks.flatMap PlainBlock.shown := by
  obtain ⟨text, blank, children, hread, hreads⟩ := readBlocks_plainSource blocks
  refine ⟨nodesOf false [] children, ?_, hreads []⟩
  simp only [parse, readAst, hread, Block.toAst, BlockKind.holdsInlines, Block.element, Ast.toNode,
    Ast.lower, nodesOf, Bool.false_eq_true, if_false]

end DocMark.Markdown
