-- SUMMARY: Where the elements of an array and the members of an object begin and end in a text.
import Mathlib
import DocMark.Json.Parse
import DocMark.Proofs.Json.Spelling
import DocMark.Proofs.Results

/-!
# Lists, item by item

A reader of arrays goes from one element to the next, and a reader of objects from one key to the next. The steps
between the items succeed just where the text lists them.
-/
namespace DocMark.Json

open Results

variable {α : Type} {spells : α → List Char → Prop} {as : List α} {cs rest : List Char}

-- ---------------------------------------------------------------------------
-- Elements
-- ---------------------------------------------------------------------------

/-- The rest of an array from where its next element is due, and what follows the array. -/
inductive ElementsFrom (spells : α → List Char → Prop) (rest : List Char) : List α → Continuation → Prop where
  | done : ElementsFrom spells rest [] (.done rest)
  | next {a : α} {as : List α} {blank cs more : List Char} (hblank : AllBlank blank) (ha : spells a cs)
      (has : Continued ']' spells as more) :
      ElementsFrom spells rest (a :: as) (.next (blank ++ (cs ++ (more ++ rest))))

/-- An array whose elements do not begin like its end is entered where they are listed. -/
theorem firstElement_listed (rest : List Char) (hspells : ∀ a ∈ as, ∀ cs, spells a cs → BeginsItem ']' cs)
    (h : Listed ']' spells as cs) :
    ∃ next, firstElement (cs ++ rest) = .ok next ∧ ElementsFrom spells rest as next := by
  cases h with
  | nil hblank =>
    refine ⟨.done rest, ?_, .done⟩
    rw [firstElement, List.append_assoc, skipBlank_append hblank]
    rfl
  | cons hblank ha has =>
    refine ⟨_, ?_, .next allBlank_nil ha has⟩
    obtain ⟨c, more, rfl, hc, hbracket⟩ := hspells _ (List.mem_cons_self ..) _ ha
    simp only [firstElement, List.append_assoc, skipBlank_append hblank, List.cons_append, skipBlank_cons hc]
    split <;> simp_all

theorem exists_listed_of_firstElement {next : Continuation} (h : firstElement cs = .ok next)
    (hnext : ElementsFrom spells rest as next) :
    ∃ listed, cs = listed ++ rest ∧ Listed ']' spells as listed := by
  obtain ⟨blank, hblank, hcs⟩ := exists_blank cs
  unfold firstElement at h
  split at h
  · cases h
  · rename_i heq
    cases h
    cases hnext
    exact ⟨_, by rw [hcs, heq]; simp, .nil hblank⟩
  · cases h
    generalize heq : skipBlank cs = tail at hnext hcs
    cases hnext with
    | next hbefore ha has => exact ⟨_, by rw [hcs]; simp, (Listed.cons hbefore ha has).blank hblank⟩

theorem afterElement_continued (rest : List Char) (hspells : ∀ a ∈ as, ∀ cs, spells a cs → BeginsItem ']' cs)
    (h : Continued ']' spells as cs) :
    ∃ next, afterElement (cs ++ rest) = .ok next ∧ ElementsFrom spells rest as next := by
  cases h with
  | nil hblank =>
    refine ⟨.done rest, ?_, .done⟩
    rw [afterElement, List.append_assoc, skipBlank_append hblank]
    rfl
  | cons hbefore hafter ha has =>
    refine ⟨_, ?_, .next allBlank_nil ha has⟩
    obtain ⟨c, more, rfl, hc, hbracket⟩ := hspells _ (List.mem_cons_self ..) _ ha
    have hcomma : isBlank ',' = false := by decide
    simp only [afterElement, List.append_assoc, skipBlank_append hbefore, List.cons_append,
      skipBlank_cons hcomma, skipBlank_append hafter, skipBlank_cons hc]
    split <;> simp_all

theorem exists_continued_of_afterElement {next : Continuation} (h : afterElement cs = .ok next)
    (hnext : ElementsFrom spells rest as next) : ∃ more, cs = more ++ rest ∧ Continued ']' spells as more := by
  obtain ⟨blank, hblank, hcs⟩ := exists_blank cs
  unfold afterElement at h
  split at h
  · cases h
  · rename_i heq
    cases h
    cases hnext
    exact ⟨_, by rw [hcs, heq]; simp, .nil hblank⟩
  · rename_i tail heq
    obtain ⟨blank', hblank', htail⟩ := exists_blank tail
    split at h
    · cases h
    · cases h
    · cases h
      generalize heq' : skipBlank tail = tail' at hnext htail
      cases hnext with
      | next hbefore ha has =>
        have hlisted := (Listed.cons hbefore ha has).blank hblank'
        exact ⟨_, by rw [hcs, heq, htail]; simp, hlisted.continued hblank⟩
  · cases h

-- ---------------------------------------------------------------------------
-- Members
-- ---------------------------------------------------------------------------

/-- The rest of an object from behind the opening quote of its next key, and what follows the object. -/
inductive MembersFrom (spells : α → List Char → Prop) (rest : List Char) : List α → Continuation → Prop where
  | done : MembersFrom spells rest [] (.done rest)
  | next {a : α} {as : List α} {cs more : List Char} (ha : spells a ('"' :: cs))
      (has : Continued '}' spells as more) : MembersFrom spells rest (a :: as) (.next (cs ++ (more ++ rest)))

theorem firstMember_listed (rest : List Char) (hspells : ∀ {a cs}, spells a cs → ∃ more, cs = '"' :: more)
    (h : Listed '}' spells as cs) :
    ∃ next, firstMember (cs ++ rest) = .ok next ∧ MembersFrom spells rest as next := by
  cases h with
  | nil hblank =>
    refine ⟨.done rest, ?_, .done⟩
    rw [firstMember, List.append_assoc, skipBlank_append hblank]
    rfl
  | cons hblank ha has =>
    obtain ⟨more, rfl⟩ := hspells ha
    refine ⟨_, ?_, .next ha has⟩
    have hquote : isBlank '"' = false := by decide
    simp only [firstMember, List.append_assoc, skipBlank_append hblank, List.cons_append, skipBlank_cons hquote]

theorem exists_listed_of_firstMember {next : Continuation} (h : firstMember cs = .ok next)
    (hnext : MembersFrom spells rest as next) :
    ∃ listed, cs = listed ++ rest ∧ Listed '}' spells as listed := by
  obtain ⟨blank, hblank, hcs⟩ := exists_blank cs
  unfold firstMember at h
  split at h
  · cases h
  · rename_i heq
    cases h
    cases hnext
    exact ⟨_, by rw [hcs, heq]; simp, .nil hblank⟩
  · rename_i heq
    cases h
    cases hnext with
    | next ha has => exact ⟨_, by rw [hcs, heq]; simp, .cons hblank ha has⟩
  · cases h

theorem afterMember_continued (rest : List Char) (hspells : ∀ {a cs}, spells a cs → ∃ more, cs = '"' :: more)
    (h : Continued '}' spells as cs) :
    ∃ next, afterMember (cs ++ rest) = .ok next ∧ MembersFrom spells rest as next := by
  cases h with
  | nil hblank =>
    refine ⟨.done rest, ?_, .done⟩
    rw [afterMember, List.append_assoc, skipBlank_append hblank]
    rfl
  | cons hbefore hblank ha has =>
    obtain ⟨more, rfl⟩ := hspells ha
    refine ⟨_, ?_, .next ha has⟩
    have hcomma : isBlank ',' = false := by decide
    have hquote : isBlank '"' = false := by decide
    simp only [afterMember, List.append_assoc, skipBlank_append hbefore, List.cons_append,
      skipBlank_cons hcomma, skipBlank_append hblank, skipBlank_cons hquote]

theorem exists_continued_of_afterMember {next : Continuation} (h : afterMember cs = .ok next)
    (hnext : MembersFrom spells rest as next) : ∃ more, cs = more ++ rest ∧ Continued '}' spells as more := by
  obtain ⟨blank, hblank, hcs⟩ := exists_blank cs
  unfold afterMember at h
  split at h
  · cases h
  · rename_i heq
    cases h
    cases hnext
    exact ⟨_, by rw [hcs, heq]; simp, .nil hblank⟩
  · rename_i tail heq
    obtain ⟨blank', hblank', htail⟩ := exists_blank tail
    split at h
    · cases h
    · cases h
    · rename_i heq'
      cases h
      cases hnext with
      | next ha has => exact ⟨_, by rw [hcs, heq, htail, heq']; simp, .cons hblank hblank' ha has⟩
    · cases h
  · cases h

theorem readColon_eq_ok_iff :
    readColon cs = .ok rest ↔ ∃ blank, cs = blank ++ ':' :: rest ∧ AllBlank blank := by
  rw [← skipBlank_eq_cons_iff (by decide), readColon]
  split <;> simp_all

theorem readColon_blank {blank : List Char} (hblank : AllBlank blank) (rest : List Char) :
    readColon (blank ++ ':' :: rest) = .ok rest := readColon_eq_ok_iff.mpr ⟨blank, rfl, hblank⟩

end DocMark.Json
