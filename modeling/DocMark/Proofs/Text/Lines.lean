-- SUMMARY: Trimming, splitting into lines, and the visible lines of a text: its lines trimmed, without the blank ones.
import Mathlib
import DocMark.Text.Blank

/-!
# Visible lines

Two texts that differ in blank lines and in white space around lines have the same visible lines. The
visible lines of joined texts are those of the parts, as long as a line feed stands between them.
-/
namespace DocMark.Text

/-! ## Trimming -/

variable {c : Char} {cs : List Char}

theorem trimEnd_eq_rdropWhile (cs : List Char) : trimEnd cs = cs.rdropWhile isWhiteSpace := rfl

theorem trimEnd_concat_of_isWhiteSpace (h : isWhiteSpace c = true) :
    trimEnd (cs ++ [c]) = trimEnd cs := by
  rw [trimEnd_eq_rdropWhile, List.rdropWhile_concat_pos _ _ _ h, trimEnd_eq_rdropWhile]

/-- White space at the end is trimmed, whatever stands before it. -/
theorem trim_concat_of_isWhiteSpace (h : isWhiteSpace c = true) : trim (cs ++ [c]) = trim cs := by
  unfold trim trimStart
  by_cases hall : ∀ x ∈ cs, isWhiteSpace x = true
  · have hnil : cs.dropWhile isWhiteSpace = [] := List.dropWhile_eq_nil_iff.mpr hall
    rw [List.dropWhile_append, hnil]
    simp [h]
  · have hsome : cs.dropWhile isWhiteSpace ≠ [] := fun hnil =>
      hall (List.dropWhile_eq_nil_iff.mp hnil)
    rw [List.dropWhile_append, if_neg (by simpa using hsome), trimEnd_concat_of_isWhiteSpace h]

theorem trim_eq_nil_iff : trim cs = [] ↔ ∀ x ∈ cs, isWhiteSpace x = true := by
  unfold trim trimStart
  rw [trimEnd_eq_rdropWhile, List.rdropWhile_eq_nil_iff]
  constructor
  · intro h
    have hself : (cs.dropWhile isWhiteSpace).dropWhile isWhiteSpace = [] :=
      List.dropWhile_eq_nil_iff.mpr h
    rw [List.dropWhile_idempotent] at hself
    exact List.dropWhile_eq_nil_iff.mp hself
  · intro h x hx
    exact h x ((List.dropWhile_sublist _).subset hx)

theorem mem_of_mem_trim (h : c ∈ trim cs) : c ∈ cs :=
  (List.dropWhile_sublist _).subset ((List.rdropWhile_prefix _ _).subset h)

/-- A text that begins and ends with other characters than white space is trimmed already. -/
theorem trim_eq_self (hhead : ∀ x ∈ cs.head?, isWhiteSpace x = false)
    (hlast : ∀ x ∈ cs.getLast?, isWhiteSpace x = false) : trim cs = cs := by
  have hstart : trimStart cs = cs := by
    cases cs with
    | nil => rfl
    | cons x xs => exact List.dropWhile_cons_of_neg (by simp [hhead x rfl])
  unfold trim
  rw [hstart, trimEnd_eq_rdropWhile, List.rdropWhile_eq_self_iff]
  intro hne
  simp [hlast _ (List.getLast?_eq_some_getLast hne)]

theorem not_isWhiteSpace_getLast_trim : ∀ x ∈ (trim cs).getLast?, isWhiteSpace x = false := by
  intro x hx
  have hne : trim cs ≠ [] := by
    rintro hnil
    rw [hnil] at hx
    cases hx
  have hlast := List.rdropWhile_last_not isWhiteSpace (trimStart cs) hne
  rw [Option.mem_def, List.getLast?_eq_some_getLast hne, Option.some.injEq] at hx
  rw [← hx]
  exact Bool.eq_false_iff.mpr hlast

theorem not_isWhiteSpace_head_trim : ∀ x ∈ (trim cs).head?, isWhiteSpace x = false := by
  intro x hx
  have hprefix : trim cs <+: trimStart cs := List.rdropWhile_prefix _ _
  have hmem : x ∈ (trimStart cs).head? := by
    obtain ⟨rest, hrest⟩ := hprefix
    cases htrim : trim cs with
    | nil =>
      rw [htrim] at hx
      cases hx
    | cons y ys =>
      rw [htrim] at hx hrest
      rw [← hrest]
      exact hx
  have hdropped := List.head?_dropWhile_not isWhiteSpace cs
  rw [Option.mem_def] at hmem
  unfold trimStart at hmem
  rw [hmem] at hdropped
  simpa using hdropped

/-- A trimmed text stays so behind a text that does not begin with white space. -/
theorem trim_append_trim {start : List Char} (hstart : ∀ x ∈ start.head?, isWhiteSpace x = false)
    (hsome : trim cs ≠ []) : trim (start ++ trim cs) = start ++ trim cs := by
  apply trim_eq_self
  · cases start with
    | nil => exact not_isWhiteSpace_head_trim
    | cons s start => exact hstart
  · rw [List.getLast?_append_of_ne_nil _ hsome]
    exact not_isWhiteSpace_getLast_trim

/-! ## Splitting -/

theorem notMem_of_mem_splitOn {α : Type} [BEq α] [LawfulBEq α] {a : α} (as : List α) :
    ∀ part ∈ as.splitOn a, a ∉ part := by
  induction as with
  | nil => simp
  | cons b as ih =>
    rw [List.splitOn_cons_eq_if_modifyHead]
    split_ifs with hb
    · exact List.forall_mem_cons.mpr ⟨List.not_mem_nil, ih⟩
    · obtain ⟨part, parts, hparts⟩ := List.exists_cons_of_ne_nil (List.splitOn_ne_nil a as)
      rw [hparts, List.forall_mem_cons] at ih
      rw [hparts, List.modifyHead_cons, List.forall_mem_cons]
      refine ⟨?_, ih.2⟩
      rw [List.mem_cons, not_or]
      exact ⟨fun heq => hb (beq_iff_eq.mpr heq.symm), ih.1⟩

/-- A text has a line feed if it has more than one line. -/
theorem one_lt_length_splitOn_iff : 1 < (cs.splitOn '\n').length ↔ '\n' ∈ cs := by
  constructor
  · intro hlong
    by_contra hnone
    rw [List.splitOn_eq_singleton hnone] at hlong
    exact absurd hlong (lt_irrefl 1)
  · intro hmem
    obtain ⟨before, after, rfl⟩ := List.append_of_mem hmem
    have hbefore := List.length_pos_of_ne_nil (List.splitOn_ne_nil '\n' before)
    have hafter := List.length_pos_of_ne_nil (List.splitOn_ne_nil '\n' after)
    rw [List.splitOn_append_cons_self, List.length_append]
    omega

/-! ## Visible lines -/

/-- The lines of a text without white space around them, blank lines left out. -/
def visibleLines (s : String) : List String :=
  (((s.toList.splitOn '\n').map trim).filter (· ≠ [])).map String.ofList

theorem visibleLines_append_lineFeed (s t : String) :
    visibleLines (s ++ "\n" ++ t) = visibleLines s ++ visibleLines t := by
  have hsplit : (s ++ "\n" ++ t).toList.splitOn '\n' =
      s.toList.splitOn '\n' ++ t.toList.splitOn '\n' := by
    rw [String.toList_append, String.toList_append, List.append_assoc]
    exact List.splitOn_append_cons_self _ _
  rw [visibleLines, hsplit, List.map_append, List.filter_append, List.map_append]
  rfl

@[simp] theorem visibleLines_empty : visibleLines "" = [] := rfl

@[simp] theorem visibleLines_lineFeed : visibleLines "\n" = [] := by
  simpa using visibleLines_append_lineFeed "" ""

theorem visibleLines_intercalate (ls : List String) :
    visibleLines ("\n".intercalate ls) = ls.flatMap visibleLines := by
  induction ls with
  | nil => rfl
  | cons l ls ih =>
    cases ls with
    | nil => simp
    | cons l' ls =>
      rw [String.intercalate_cons_cons, visibleLines_append_lineFeed, ih]
      rfl

theorem visibleLines_of_single (h : '\n' ∉ cs) :
    visibleLines (String.ofList cs) = if trim cs = [] then [] else [String.ofList (trim cs)] := by
  rw [visibleLines, String.toList_ofList, List.splitOn_eq_singleton h]
  split <;> simp_all

end DocMark.Text
