-- SUMMARY: A rendered run is its content between the marks of its style, and only content without marks is trimmed.
import Mathlib
import DocMark.Document.Render
import DocMark.Proofs.Text.Lines

/-!
# Rendered runs

The marks of a style enclose the content of a run one after the other. No mark begins or ends with white
space, so content with marks is not trimmed, however much white space it has itself.
-/
namespace DocMark.Document

open Text

/-! ## Marks -/

namespace TextStyle

/-- The marks of a style, each as what stands before and behind the text, innermost first. -/
def marks (style : TextStyle) : List (String × String) :=
  (if style.bold then [("**", "**")] else [])
    ++ (if style.italic then [("*", "*")] else [])
    ++ (if style.strikethrough then [("~~", "~~")] else [])
    ++ (if style.underline && style.link.isNone then [("<u>", "</u>")] else [])
    ++ style.link.toList.map fun link => ("[", "](" ++ link.url ++ ")")

/-- Whether a style has marks. -/
def isMarked (style : TextStyle) : Bool :=
  style.bold || style.italic || style.strikethrough || style.underline || style.link.isSome

variable {style : TextStyle} {mark : String × String} {c : Char}

theorem marks_eq_nil_iff : style.marks = [] ↔ style.isMarked = false := by
  obtain ⟨bold, italic, strikethrough, underline, link⟩ := style
  cases link <;> simp [marks, isMarked, and_assoc]

/-- What the marks are, apart from the address of a link. -/
theorem mem_marks (h : mark ∈ style.marks) :
    mark ∈ [("**", "**"), ("*", "*"), ("~~", "~~"), ("<u>", "</u>")]
      ∨ ∃ link ∈ style.link, mark = ("[", "](" ++ link.url ++ ")") := by
  simp only [marks, List.mem_append, List.mem_ite_nil_right, List.mem_map, Option.mem_toList,
    List.mem_singleton] at h
  rcases h with (((⟨-, rfl⟩ | ⟨-, rfl⟩) | ⟨-, rfl⟩) | ⟨-, rfl⟩) | ⟨link, hlink, rfl⟩
  · simp
  · simp
  · simp
  · simp
  · exact Or.inr ⟨link, hlink, rfl⟩

/-- A mark begins and ends with other characters than white space. -/
theorem ends_of_mem_marks (h : mark ∈ style.marks) :
    (∃ c ∈ mark.1.toList.head?, isWhiteSpace c = false)
      ∧ ∃ c ∈ mark.2.toList.getLast?, isWhiteSpace c = false := by
  rcases mem_marks h with h | ⟨link, -, rfl⟩
  · simp only [List.mem_cons, List.not_mem_nil, or_false] at h
    rcases h with rfl | rfl | rfl | rfl
    · exact ⟨⟨'*', rfl, rfl⟩, '*', rfl, rfl⟩
    · exact ⟨⟨'*', rfl, rfl⟩, '*', rfl, rfl⟩
    · exact ⟨⟨'~', rfl, rfl⟩, '~', rfl, rfl⟩
    · exact ⟨⟨'<', rfl, rfl⟩, '>', rfl, rfl⟩
  · have hhead : "[".toList.head? = some '[' := rfl
    have hlast : ("](" ++ link.url ++ ")").toList.getLast? = some ')' := by
      rw [String.toList_append]
      exact List.getLast?_concat
    exact ⟨⟨'[', hhead, rfl⟩, ')', hlast, rfl⟩

theorem mem_of_mem_mark (h : mark ∈ style.marks) (hc : c ∈ mark.1.toList ∨ c ∈ mark.2.toList) :
    c ∈ "*~<u/>[]()".toList ∨ ∃ link ∈ style.link, c ∈ link.url.toList := by
  rcases mem_marks h with h | ⟨link, hlink, rfl⟩
  · have hplain : ∀ mark ∈ [("**", "**"), ("*", "*"), ("~~", "~~"), ("<u>", "</u>")],
        mark.1.toList ++ mark.2.toList ⊆ "*~<u/>[]()".toList := by decide
    exact Or.inl (hplain mark h (List.mem_append.mpr hc))
  · by_cases hurl : c ∈ link.url.toList
    · exact Or.inr ⟨link, hlink, hurl⟩
    · have hsigns : "[".toList ++ "](".toList ++ ")".toList ⊆ "*~<u/>[]()".toList := by decide
      refine Or.inl (hsigns ?_)
      simp only [String.toList_append, List.mem_append] at hc ⊢
      tauto

end TextStyle

/-! ## Enclosed texts -/

/-- A text with marks around it, the first ones innermost. -/
def enclose (text : String) (marks : List (String × String)) : String :=
  marks.foldl (fun text mark => mark.1 ++ text ++ mark.2) text

theorem enclose_append (text : String) (ms ns : List (String × String)) :
    enclose text (ms ++ ns) = enclose (enclose text ms) ns := List.foldl_append

theorem enclose_ite (text : String) (b : Bool) (mark : String × String) :
    enclose text (if b then [mark] else []) = if b then mark.1 ++ text ++ mark.2 else text := by
  cases b <;> rfl

theorem enclose_link (text : String) (link? : Option Link) :
    enclose text (link?.toList.map fun link => ("[", "](" ++ link.url ++ ")")) =
      match link? with
      | some link => "[" ++ text ++ "](" ++ link.url ++ ")"
      | none => text := by
  cases link? with
  | none => rfl
  | some link =>
    have hone : enclose text [("[", "](" ++ link.url ++ ")")] = "[" ++ text ++ ("](" ++ link.url ++ ")") := rfl
    rw [Option.toList_some, List.map_singleton, hone, ← String.append_assoc, ← String.append_assoc]

theorem renderRun_eq (run : TextRun) :
    renderRun run = String.ofList (trim (enclose run.content run.textStyle.marks).toList) := by
  rw [TextStyle.marks, enclose_append, enclose_append, enclose_append, enclose_append, enclose_ite,
    enclose_ite, enclose_ite, enclose_ite, enclose_link]
  rfl

section Enclosed

variable {text : String} {marks : List (String × String)} {c : Char}

theorem mem_enclose_iff : c ∈ (enclose text marks).toList ↔
    c ∈ text.toList ∨ ∃ mark ∈ marks, c ∈ mark.1.toList ∨ c ∈ mark.2.toList := by
  induction marks using List.reverseRecOn with
  | nil => simp [enclose]
  | append_singleton marks mark ih =>
    have hlast : enclose text (marks ++ [mark]) = mark.1 ++ enclose text marks ++ mark.2 :=
      enclose_append ..
    have hmark : (∃ m ∈ marks ++ [mark], c ∈ m.1.toList ∨ c ∈ m.2.toList) ↔
        (∃ m ∈ marks, c ∈ m.1.toList ∨ c ∈ m.2.toList) ∨ c ∈ mark.1.toList ∨ c ∈ mark.2.toList := by
      simp only [List.mem_append, List.mem_singleton, or_and_right, exists_or, exists_eq_left]
    rw [hlast, hmark, String.toList_append, String.toList_append, List.mem_append, List.mem_append, ih]
    simp only [or_assoc, or_left_comm]

end Enclosed

/-! ## Runs -/

section Runs

variable {run : TextRun} {c : Char}

/-- A run with marks is not trimmed. -/
theorem renderRun_of_isMarked (h : run.textStyle.isMarked = true) :
    renderRun run = enclose run.content run.textStyle.marks := by
  have hne : run.textStyle.marks ≠ [] := by
    rw [ne_eq, TextStyle.marks_eq_nil_iff, h]
    exact Bool.true_eq_false_eq_False
  obtain ⟨inner, outermost, hmarks⟩ := (List.eq_nil_or_concat run.textStyle.marks).resolve_left hne
  rw [List.concat_eq_append] at hmarks
  have hmem : outermost ∈ run.textStyle.marks := hmarks ▸ List.mem_concat_self
  obtain ⟨⟨first, hfirst, hfirstBlank⟩, last, hlast, hlastBlank⟩ := TextStyle.ends_of_mem_marks hmem
  have htext : (enclose run.content run.textStyle.marks).toList =
      outermost.1.toList ++ ((enclose run.content inner).toList ++ outermost.2.toList) := by
    rw [hmarks, enclose_append, ← List.append_assoc, ← String.toList_append,
      ← String.toList_append]
    rfl
  rw [renderRun_eq, trim_eq_self, String.ofList_toList]
  · intro x hx
    rw [htext, List.head?_append, Option.mem_def.mp hfirst] at hx
    cases hx
    exact hfirstBlank
  · intro x hx
    rw [htext, List.getLast?_append, List.getLast?_append, Option.mem_def.mp hlast] at hx
    cases hx
    exact hlastBlank

theorem renderRun_of_not_isMarked (h : run.textStyle.isMarked = false) :
    renderRun run = String.ofList (trim run.content.toList) := by
  rw [renderRun_eq, TextStyle.marks_eq_nil_iff.mpr h]
  rfl

/-- A rendered run does not end with white space. -/
theorem not_isWhiteSpace_getLast_renderRun (run : TextRun) :
    ∀ x ∈ (renderRun run).toList.getLast?, isWhiteSpace x = false := by
  rw [renderRun_eq, String.toList_ofList]
  exact not_isWhiteSpace_getLast_trim

/-- What a rendered run holds that is not from its marks is from its content or from the address of its link. -/
theorem mem_of_mem_renderRun (h : c ∈ (renderRun run).toList) (hc : c ∉ "*~<u/>[]()".toList) :
    c ∈ run.content.toList ∨ ∃ link ∈ run.textStyle.link, c ∈ link.url.toList := by
  rw [renderRun_eq, String.toList_ofList] at h
  rcases mem_enclose_iff.mp (mem_of_mem_trim h) with hcontent | ⟨mark, hmark, hmem⟩
  · exact Or.inl hcontent
  · exact Or.inr ((TextStyle.mem_of_mem_mark hmark hmem).resolve_left hc)

end Runs

end DocMark.Document
