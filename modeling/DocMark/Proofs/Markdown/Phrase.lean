-- SUMMARY: Phrases: words of lower-case letters with single spaces between them.
import Mathlib
import DocMark.Markdown.Chars
import DocMark.Proofs.Text.Lines

/-!
# Phrases

Phrases are the texts that Markdown leaves as they are. They begin and end with a letter, and all
else in them is letters and spaces.
-/
namespace DocMark.Markdown

def isLowerLetter (c : Char) : Bool := 'a' ≤ c && c ≤ 'z'

def lowerLetters : List Char :=
  ['a', 'b', 'c', 'd', 'e', 'f', 'g', 'h', 'i', 'j', 'k', 'l', 'm',
   'n', 'o', 'p', 'q', 'r', 's', 't', 'u', 'v', 'w', 'x', 'y', 'z']

theorem mem_lowerLetters {c : Char} (h : isLowerLetter c = true) : c ∈ lowerLetters := by
  simp only [isLowerLetter, Bool.and_eq_true, decide_eq_true_eq] at h
  have hlow : 97 ≤ c.toNat := h.1
  have hhigh : c.toNat ≤ 122 := h.2
  obtain ⟨n, hn⟩ : ∃ n, c.toNat = n := ⟨_, rfl⟩
  have hc : c = Char.ofNat n := by rw [← hn, Char.ofNat_toNat]
  rw [hn] at hlow hhigh
  subst hc
  clear hn
  interval_cases n <;> decide

/-- What can be checked of all letters holds of each. -/
theorem of_isLowerLetter {P : Char → Bool} (h : lowerLetters.all P = true) {c : Char}
    (hc : isLowerLetter c = true) : P c = true :=
  List.all_eq_true.mp h c (mem_lowerLetters hc)

theorem not_isWhiteSpace_of_isLowerLetter {c : Char} (hc : isLowerLetter c = true) :
    Text.isWhiteSpace c = false := by
  have h : lowerLetters.all (!Text.isWhiteSpace ·) = true := by decide
  simpa using of_isLowerLetter h hc

theorem not_isSpace_of_isLowerLetter {c : Char} (hc : isLowerLetter c = true) :
    isSpace c = false := by
  have h : lowerLetters.all (!isSpace ·) = true := by decide
  simpa using of_isLowerLetter h hc

/-- One or more words of one or more letters. -/
structure Phrase where
  words : List (List Char)
  nonempty : words ≠ []
  letters : ∀ w ∈ words, w ≠ [] ∧ ∀ c ∈ w, isLowerLetter c = true

namespace Phrase

/-- Words that pass a check make a phrase. -/
def ofWords (words : List (List Char)) (hsome : words.isEmpty = false)
    (hwords : (words.all fun w => !w.isEmpty && w.all isLowerLetter) = true) : Phrase where
  words
  nonempty := by simpa using hsome
  letters := by simpa using hwords

/-- The words, joined by single spaces. -/
def chars (p : Phrase) : List Char := [' '].intercalate p.words

def text (p : Phrase) : String := String.ofList p.chars

/-! ## What phrases consist of -/

section Words

variable {words : List (List Char)}

theorem mem_intercalate (h : ∀ w ∈ words, ∀ c ∈ w, isLowerLetter c = true) {c : Char}
    (hc : c ∈ [' '].intercalate words) : isLowerLetter c = true ∨ c = ' ' := by
  induction words with
  | nil => cases hc
  | cons w words ih =>
    have hw := h w (List.mem_cons_self ..)
    have hwords : ∀ v ∈ words, ∀ c ∈ v, isLowerLetter c = true := fun v hv =>
      h v (List.mem_cons_of_mem _ hv)
    by_cases hnil : words = []
    · subst hnil
      rw [List.intercalate_singleton] at hc
      exact .inl (hw c hc)
    · rw [List.intercalate_cons_of_ne_nil hnil, List.mem_append, List.mem_append] at hc
      rcases hc with (hc | hc) | hc
      · exact .inl (hw c hc)
      · exact .inr (List.mem_singleton.mp hc)
      · exact ih hwords hc

theorem getLast?_intercalate (hne : words ≠ [])
    (h : ∀ w ∈ words, w ≠ [] ∧ ∀ c ∈ w, isLowerLetter c = true) :
    ∃ c, ([' '].intercalate words).getLast? = some c ∧ isLowerLetter c = true := by
  induction words with
  | nil => exact absurd rfl hne
  | cons w words ih =>
    obtain ⟨hw, hletters⟩ := h w (List.mem_cons_self ..)
    by_cases hnil : words = []
    · subst hnil
      rw [List.intercalate_singleton]
      exact ⟨w.getLast hw, List.getLast?_eq_some_getLast hw, hletters _ (List.getLast_mem hw)⟩
    · obtain ⟨c, hc, hletter⟩ := ih hnil fun v hv => h v (List.mem_cons_of_mem _ hv)
      refine ⟨c, ?_, hletter⟩
      rw [List.intercalate_cons_of_ne_nil hnil, List.getLast?_append, hc]
      rfl

end Words

variable (p : Phrase)

theorem mem_chars {c : Char} (h : c ∈ p.chars) : isLowerLetter c = true ∨ c = ' ' :=
  mem_intercalate (fun w hw => (p.letters w hw).2) h

theorem exists_chars_eq_cons : ∃ c cs, p.chars = c :: cs ∧ isLowerLetter c = true := by
  obtain ⟨w, words, hwords⟩ := List.exists_cons_of_ne_nil p.nonempty
  obtain ⟨hw, hletters⟩ := p.letters w (hwords ▸ List.mem_cons_self ..)
  obtain ⟨c, cs, rfl⟩ := List.exists_cons_of_ne_nil hw
  refine ⟨c, [' '].intercalate (cs :: words), ?_, hletters c (List.mem_cons_self ..)⟩
  rw [chars, hwords, List.intercalate_cons_cons_left]

theorem exists_getLast?_chars : ∃ c, p.chars.getLast? = some c ∧ isLowerLetter c = true :=
  getLast?_intercalate p.nonempty p.letters

theorem chars_ne_nil : p.chars ≠ [] := by
  obtain ⟨c, cs, hchars, -⟩ := p.exists_chars_eq_cons
  simp [hchars]

/-- What holds of a space and of every letter holds throughout a phrase. -/
theorem forall_mem_chars {P : Char → Bool} (hspace : P ' ' = true)
    (hletter : lowerLetters.all P = true) : ∀ c ∈ p.chars, P c = true := by
  intro c hc
  rcases p.mem_chars hc with h | rfl
  · exact of_isLowerLetter hletter h
  · exact hspace

theorem lineFeed_notMem_chars : '\n' ∉ p.chars := fun h =>
  absurd (p.forall_mem_chars (P := (· != '\n')) (by decide) (by decide) _ h) (by decide)

/-- No white space stands around a phrase. -/
theorem trim_chars : Text.trim p.chars = p.chars := by
  obtain ⟨first, cs, hchars, hfirst⟩ := p.exists_chars_eq_cons
  obtain ⟨last, hend, hlast⟩ := p.exists_getLast?_chars
  apply Text.trim_eq_self
  · intro c hc
    rw [hchars] at hc
    cases hc
    exact not_isWhiteSpace_of_isLowerLetter hfirst
  · intro c hc
    rw [hend] at hc
    cases hc
    exact not_isWhiteSpace_of_isLowerLetter hlast

theorem trimSpaceEnd_chars : trimSpaceEnd p.chars = p.chars := by
  obtain ⟨last, hend, hlast⟩ := p.exists_getLast?_chars
  change p.chars.rdropWhile isSpace = p.chars
  rw [List.rdropWhile_eq_self_iff]
  intro hne
  rw [List.getLast?_eq_some_getLast hne, Option.some.injEq] at hend
  rw [hend, not_isSpace_of_isLowerLetter hlast]
  simp

end Phrase

end DocMark.Markdown
