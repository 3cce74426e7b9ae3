-- SUMMARY: Which characters a joined text has, how often, and what trimming leaves of a text.
import Mathlib
import DocMark.Proofs.Text.Lines

/-!
# Joined texts

A text that is joined from pieces has the characters of the pieces and of the separators, each as often as
they do. Each piece stands somewhere in it, and if the text is then trimmed, a piece that does not end with
white space is still there.
-/
namespace DocMark.Text

/-! ## Joining -/

section Joining

variable {α : Type} {a : α} {sep l : List α} {ls : List (List α)}

theorem mem_intercalate_iff (h : a ∉ sep) : a ∈ sep.intercalate ls ↔ ∃ l ∈ ls, a ∈ l := by
  induction ls with
  | nil => simp
  | cons l ls ih =>
    cases ls with
    | nil => simp
    | cons next ls =>
      rw [List.intercalate_cons_cons, List.mem_append, List.mem_append, ih, List.exists_mem_cons_iff]
      simp [h]

theorem mem_intercalate_map_iff {β : Type} {f : β → List α} {xs : List β} (h : a ∉ sep) :
    a ∈ sep.intercalate (xs.map f) ↔ ∃ x ∈ xs, a ∈ f x := by
  rw [mem_intercalate_iff h]
  simp

theorem exists_mem_flatMap_iff {β : Type} {f : β → List α} {xs : List β} {P : α → Prop} :
    (∃ a ∈ xs.flatMap f, P a) ↔ ∃ x ∈ xs, ∃ a ∈ f x, P a := by
  constructor
  · rintro ⟨a, ha, hP⟩
    obtain ⟨x, hx, ha⟩ := List.mem_flatMap.mp ha
    exact ⟨x, hx, a, ha, hP⟩
  · rintro ⟨x, hx, a, ha, hP⟩
    exact ⟨a, List.mem_flatMap.mpr ⟨x, hx, ha⟩, hP⟩

theorem intercalate_concat (sep : List α) (h : ls ≠ []) (l : List α) :
    sep.intercalate (ls ++ [l]) = sep.intercalate ls ++ (sep ++ l) := by
  induction ls with
  | nil => exact absurd rfl h
  | cons m ls ih =>
    cases ls with
    | nil => simp
    | cons next ls =>
      have hrest := ih (List.cons_ne_nil next ls)
      rw [List.cons_append] at hrest
      rw [List.cons_append, List.cons_append, List.intercalate_cons_cons, List.intercalate_cons_cons, hrest]
      simp only [List.append_assoc]

theorem exists_intercalate_eq_append (sep : List α) (h : l ∈ ls) :
    ∃ before after, sep.intercalate ls = before ++ l ++ after := by
  induction ls with
  | nil => cases h
  | cons m ls ih =>
    cases ls with
    | nil => exact ⟨[], [], by simpa using (List.mem_singleton.mp h).symm⟩
    | cons next ls =>
      rw [List.intercalate_cons_cons]
      rcases List.mem_cons.mp h with rfl | hrest
      · exact ⟨[], sep ++ sep.intercalate (next :: ls), by simp⟩
      · obtain ⟨before, after, hjoined⟩ := ih hrest
        exact ⟨m ++ sep ++ before, after, by rw [hjoined]; simp⟩

theorem count_intercalate [BEq α] (a : α) (sep : List α) (ls : List (List α)) :
    (sep.intercalate ls).count a = (ls.map (·.count a)).sum + (ls.length - 1) * sep.count a := by
  induction ls with
  | nil => simp
  | cons l ls ih =>
    cases ls with
    | nil => simp
    | cons next ls =>
      rw [List.intercalate_cons_cons, List.count_append, List.count_append, ih]
      simp only [List.map_cons, List.sum_cons, List.length_cons]
      have hone : ls.length + 1 + 1 - 1 = (ls.length + 1 - 1) + 1 := by omega
      rw [hone, Nat.succ_mul]
      omega

end Joining

/-! ## Trimming -/

variable {c : Char} {cs ds : List Char}

theorem mem_of_mem_trimEnd (h : c ∈ trimEnd cs) : c ∈ cs := (List.rdropWhile_prefix _ _).subset h

theorem lineFeed_notMem_trim (h : '\n' ∉ cs.dropLast) : '\n' ∉ trim cs := by
  rcases List.eq_nil_or_concat cs with rfl | ⟨front, last, rfl⟩
  · exact List.not_mem_nil
  · rw [List.concat_eq_append] at h ⊢
    rw [List.dropLast_concat] at h
    intro hmem
    cases hlast : isWhiteSpace last with
    | true =>
      rw [trim_concat_of_isWhiteSpace hlast] at hmem
      exact h (mem_of_mem_trim hmem)
    | false =>
      rcases List.mem_append.mp (mem_of_mem_trim hmem) with hfront | hend
      · exact h hfront
      · rw [← List.mem_singleton.mp hend] at hlast
        cases hlast

theorem trimEnd_append_of_isWhiteSpace (h : ∀ x ∈ ds, isWhiteSpace x = true) :
    trimEnd (cs ++ ds) = trimEnd cs := by
  induction ds using List.reverseRecOn with
  | nil => rw [List.append_nil]
  | append_singleton ds d ih =>
    rw [List.forall_mem_append, List.forall_mem_singleton] at h
    rw [← List.append_assoc, trimEnd_concat_of_isWhiteSpace h.2, ih h.1]

theorem trimEnd_eq_self (h : ∀ x ∈ cs.getLast?, isWhiteSpace x = false) : trimEnd cs = cs := by
  rw [trimEnd_eq_rdropWhile, List.rdropWhile_eq_self_iff]
  intro hne
  simp [h _ (List.getLast?_eq_some_getLast hne)]

/-- Only the last of two texts is trimmed, unless it is blank. -/
theorem trimEnd_append (cs ds : List Char) :
    trimEnd (cs ++ ds) = if trimEnd ds = [] then trimEnd cs else cs ++ trimEnd ds := by
  simp only [trimEnd, List.reverse_append, List.dropWhile_append, List.isEmpty_iff, List.reverse_eq_nil_iff]
  split <;> simp

/-- A text up to a character that is not white space outlasts trimming. -/
theorem subset_trimEnd_append (h : ∀ x ∈ cs.getLast?, isWhiteSpace x = false) (ds : List Char) :
    cs ⊆ trimEnd (cs ++ ds) := by
  induction ds using List.reverseRecOn with
  | nil =>
    rw [List.append_nil, trimEnd_eq_self h]
    exact List.Subset.refl cs
  | append_singleton ds d ih =>
    rw [← List.append_assoc]
    cases hd : isWhiteSpace d with
    | true =>
      rw [trimEnd_concat_of_isWhiteSpace hd]
      exact ih
    | false =>
      rw [trimEnd_eq_rdropWhile, List.rdropWhile_concat_neg _ _ _ (by simp [hd]), List.append_assoc]
      exact List.subset_append_left ..

/-- A piece that does not end with white space is not touched where a joined text is trimmed. -/
theorem subset_trimEnd_intercalate (sep : List Char) {ls : List (List Char)} (hcs : cs ∈ ls)
    (hlast : ∀ x ∈ cs.getLast?, isWhiteSpace x = false) : cs ⊆ trimEnd (sep.intercalate ls) := by
  obtain ⟨before, after, hjoined⟩ := exists_intercalate_eq_append sep hcs
  rw [hjoined]
  rcases List.eq_nil_or_concat cs with rfl | ⟨front, last, rfl⟩
  · exact List.nil_subset _
  · have hkept : before ++ front.concat last ⊆ trimEnd (before ++ front.concat last ++ after) :=
      subset_trimEnd_append (by simpa using hlast) after
    exact List.Subset.trans (List.subset_append_right ..) hkept

end DocMark.Text
