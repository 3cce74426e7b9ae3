-- SUMMARY: Passing over a value consumes the text of one tree, whatever it holds.
import Mathlib
import DocMark.Proofs.Json.Tokens

/-!
# Values nobody asked for

What is passed over is a value of the grammar, and every value is passed over up to its end: brackets in its strings
do not close it, and neither its depth nor the size of its numbers matters.
-/
namespace DocMark.Json

open Results

-- ---------------------------------------------------------------------------
-- What is passed over whole
-- ---------------------------------------------------------------------------

/-- Every value shorter than `n` is passed over. -/
def SkipsBelow (n : Nat) (skip : List Char → Except Fault (List Char)) : Prop :=
  ∀ {t : Tree} {blank cs rest : List Char}, AllBlank blank → t.Spells cs → cs.length < n → Delimits rest →
    skip (blank ++ (cs ++ rest)) = .ok rest

section Lists

variable {n : Nat} {skip : List Char → Except Fault (List Char)} {fuel : Nat} {blank cs : List Char}

theorem skipElements_continued (hskip : SkipsBelow n skip) {t : Tree} {ts : List Tree} {more : List Char}
    (hblank : AllBlank blank) (ht : t.Spells cs) (hmore : Continued ']' Tree.Spells ts more)
    (hlength : cs.length + more.length ≤ n) (hfuel : ts.length < fuel) (rest : List Char) :
    skipElements skip fuel (blank ++ (cs ++ (more ++ rest))) = .ok rest := by
  induction hmore generalizing t blank cs fuel with
  | @nil last hlast =>
    obtain ⟨fuel, rfl⟩ := Nat.exists_eq_add_one.mpr (Nat.zero_lt_of_lt hfuel)
    have hbracket : isBlank ']' = false := by decide
    have hmore : Continued ']' Tree.Spells [] (last ++ [']']) := .nil hlast
    have hown := hskip hblank ht (by simp only [List.length_append, List.length_singleton] at hlength; omega)
      (hmore.delimits (.inl rfl) rest)
    rw [skipElements, hown]
    simp only [ok_bind, List.append_assoc, skipBlank_append hlast, List.cons_append, List.nil_append,
      skipBlank_cons hbracket]
  | @cons before after piece more u us hbefore hafter hu hus ih =>
    obtain ⟨fuel, rfl⟩ := Nat.exists_eq_add_one.mpr (Nat.zero_lt_of_lt hfuel)
    simp only [List.length_append, List.length_cons] at hlength
    have hcomma : isBlank ',' = false := by decide
    have hown := hskip hblank ht (by omega) ((Continued.cons hbefore hafter hu hus).delimits (.inl rfl) rest)
    have hlater := ih hafter hu (by omega) (Nat.lt_of_succ_lt_succ hfuel)
    rw [skipElements, hown]
    simp only [ok_bind, List.append_assoc, skipBlank_append hbefore, List.cons_append, skipBlank_cons hcomma,
      hlater]

/-- How an object goes on behind a member that has been passed over. -/
def skipAfterMember (skip : List Char → Except Fault (List Char)) (fuel : Nat) (rest : List Char) :
    Except Fault (List Char) :=
  match skipBlank rest with
  | [] => .error .endInObject
  | ',' :: rest => skipMembers skip fuel rest
  | '}' :: rest => .ok rest
  | _ => .error .expectedCommaOrBrace

theorem skipMembers_member (hskip : SkipsBelow n skip) {m : List Char × Tree} (hblank : AllBlank blank)
    (hm : Tree.SpellsMember m cs) (hlength : cs.length < n) {rest : List Char} (hrest : Delimits rest) :
    skipMembers skip (fuel + 1) (blank ++ (cs ++ rest)) = skipAfterMember skip fuel rest := by
  cases hm with
  | @mk key t before after piece hkey hbefore hafter ht =>
    simp only [List.length_append, List.length_cons] at hlength
    have hquote : isBlank '"' = false := by decide
    have hcolon : isBlank ':' = false := by decide
    have hown := hskip hafter ht (by omega) hrest
    simp only [skipMembers, List.cons_append, List.append_assoc, skipBlank_append hblank, skipBlank_cons hquote,
      skipString_of_stringContent hkey, ok_bind, skipBlank_append hbefore, skipBlank_cons hcolon, hown]
    rfl

theorem skipMembers_continued (hskip : SkipsBelow n skip) {m : List Char × Tree} {ms : List (List Char × Tree)}
    {more : List Char} (hblank : AllBlank blank) (hm : Tree.SpellsMember m cs)
    (hmore : Continued '}' Tree.SpellsMember ms more) (hlength : cs.length + more.length ≤ n)
    (hfuel : ms.length < fuel) (rest : List Char) :
    skipMembers skip fuel (blank ++ (cs ++ (more ++ rest))) = .ok rest := by
  induction hmore generalizing m blank cs fuel with
  | @nil last hlast =>
    obtain ⟨fuel, rfl⟩ := Nat.exists_eq_add_one.mpr (Nat.zero_lt_of_lt hfuel)
    have hbrace : isBlank '}' = false := by decide
    have hmore : Continued '}' Tree.SpellsMember [] (last ++ ['}']) := .nil hlast
    rw [skipMembers_member hskip hblank hm
      (by simp only [List.length_append, List.length_singleton] at hlength; omega)
      (hmore.delimits (.inr rfl) rest)]
    simp only [skipAfterMember, List.append_assoc, skipBlank_append hlast, List.cons_append, List.nil_append,
      skipBlank_cons hbrace]
  | @cons before after piece more u us hbefore hafter hu hus ih =>
    obtain ⟨fuel, rfl⟩ := Nat.exists_eq_add_one.mpr (Nat.zero_lt_of_lt hfuel)
    simp only [List.length_append, List.length_cons] at hlength
    have hcomma : isBlank ',' = false := by decide
    have hlater := ih hafter hu (by omega) (Nat.lt_of_succ_lt_succ hfuel)
    rw [skipMembers_member hskip hblank hm (by omega)
      ((Continued.cons hbefore hafter hu hus).delimits (.inr rfl) rest)]
    simp only [skipAfterMember, List.append_assoc, skipBlank_append hbefore, List.cons_append,
      skipBlank_cons hcomma, hlater]

end Lists

theorem skipNested_number {fuel : Nat} {blank cs rest : List Char} (hblank : AllBlank blank) (h : NumberText cs)
    (hrest : Delimits rest) : skipNested (fuel + 1) (blank ++ (cs ++ rest)) = .ok rest := by
  rw [skipNested, skipBlank_append hblank]
  cases h with
  | negative h =>
    have hminus : isBlank '-' = false := by decide
    rw [List.cons_append, skipBlank_cons hminus]
    exact skipUnsignedNumber_of_unsignedNumber h hrest
  | unsigned h =>
    have hskip := skipUnsignedNumber_of_unsignedNumber h hrest
    obtain ⟨c, more, rfl, hc⟩ := h.exists_digit
    rw [List.cons_append] at hskip ⊢
    rw [skipBlank_cons (isBlank_of_isDigit hc)]
    -- A digit is none of the characters that open other values.
    split <;> simp_all

/-- Every value is passed over whose text is shorter than the fuel. -/
theorem skipsBelow_skipNested (fuel : Nat) : SkipsBelow fuel (skipNested fuel) := by
  induction fuel with
  | zero =>
    intro t blank cs rest _ _ hlength
    exact absurd hlength (Nat.not_lt_zero _)
  | succ fuel ih =>
    intro t blank cs rest hblank ht hlength hrest
    cases ht with
    | null =>
      rw [skipNested, skipBlank_append hblank]
      rfl
    | bool b =>
      rw [skipNested, skipBlank_append hblank]
      cases b <;> rfl
    | number h => exact skipNested_number hblank h hrest
    | @string content h =>
      have hquote : isBlank '"' = false := by decide
      rw [skipNested, skipBlank_append hblank, List.cons_append, skipBlank_cons hquote]
      rw [List.append_assoc]
      exact skipString_of_stringContent h rest
    | array h =>
      have hbracket : isBlank '[' = false := by decide
      rw [skipNested, skipBlank_append hblank, List.cons_append, skipBlank_cons hbracket]
      rw [List.length_cons] at hlength
      cases h with
      | @nil last hlast =>
        have hclose : isBlank ']' = false := by decide
        simp only [List.append_assoc, skipBlank_append hlast, List.cons_append, List.nil_append,
          skipBlank_cons hclose]
      | @cons before piece more t ts hbefore ht hmore =>
        simp only [List.length_append] at hlength
        obtain ⟨c, tail, rfl, hopens⟩ := ht.opens
        have hfuel : ts.length < ((c :: tail) ++ (more ++ rest)).length + 1 := by
          have hitems := hmore.length_le
          simp only [List.length_append]
          omega
        have hlater := skipElements_continued ih allBlank_nil ht hmore (by omega) hfuel rest
        simp only [List.append_assoc, skipBlank_append hbefore, List.cons_append,
          skipBlank_cons hopens.isBlank] at hlater ⊢
        have hc := hopens.ne_bracket
        split <;> simp_all
    | object h =>
      have hbrace : isBlank '\x7b' = false := by decide
      rw [skipNested, skipBlank_append hblank, List.cons_append, skipBlank_cons hbrace]
      rw [List.length_cons] at hlength
      cases h with
      | @nil last hlast =>
        have hclose : isBlank '}' = false := by decide
        simp only [List.append_assoc, skipBlank_append hlast, List.cons_append, List.nil_append,
          skipBlank_cons hclose]
      | @cons before piece more m ms hbefore hm hmore =>
        simp only [List.length_append] at hlength
        have hfuel : ms.length < (piece ++ (more ++ rest)).length + 1 := by
          have hitems := hmore.length_le
          simp only [List.length_append]
          omega
        have hlater := skipMembers_continued ih allBlank_nil hm hmore (by omega) hfuel rest
        cases hm with
        | mk hkey hkeyEnd hafter ht =>
          have hquote : isBlank '"' = false := by decide
          simp only [List.append_assoc, skipBlank_append hbefore, List.cons_append,
            skipBlank_cons hquote] at hlater ⊢
          exact hlater

/-- Every value is passed over up to its end, however deep. -/
theorem skipValue_of_spells {t : Tree} {blank cs rest : List Char} (hblank : AllBlank blank) (ht : t.Spells cs)
    (hrest : Delimits rest) : skipValue (blank ++ (cs ++ rest)) = .ok rest := by
  refine skipsBelow_skipNested _ hblank ht ?_ hrest
  simp only [List.length_append]
  omega

-- ---------------------------------------------------------------------------
-- Nothing else is passed over
-- ---------------------------------------------------------------------------

/-- What is passed over is a value. -/
def SkipsOnly (skip : List Char → Except Fault (List Char)) : Prop :=
  ∀ {cs rest : List Char}, skip cs = .ok rest →
    ∃ (t : Tree) (blank piece : List Char), cs = blank ++ (piece ++ rest) ∧ AllBlank blank ∧ t.Spells piece

section Lists

variable {skip : List Char → Except Fault (List Char)} {fuel : Nat} {cs rest : List Char}

theorem exists_of_skipElements (hskip : SkipsOnly skip) (h : skipElements skip fuel cs = .ok rest) :
    ∃ t ts listed, cs = listed ++ rest ∧ Listed ']' Tree.Spells (t :: ts) listed := by
  induction fuel generalizing cs with
  | zero => cases h
  | succ fuel ih =>
    obtain ⟨tail, hown, hlater⟩ := bind_eq_ok_iff.mp h
    obtain ⟨t, blank, piece, rfl, hblank, ht⟩ := hskip hown
    obtain ⟨before, hbefore, htail⟩ := exists_blank tail
    split at hlater
    · cases hlater
    · rename_i more heq
      obtain ⟨u, us, listed, rfl, hlisted⟩ := ih hlater
      exact ⟨t, u :: us, _, by rw [htail, heq]; simp, .cons hblank ht (hlisted.continued hbefore)⟩
    · rename_i more heq
      cases hlater
      exact ⟨t, [], _, by rw [htail, heq]; simp, .cons hblank ht (.nil hbefore)⟩
    · cases hlater

theorem exists_of_skipMembers (hskip : SkipsOnly skip) (h : skipMembers skip fuel cs = .ok rest) :
    ∃ m ms listed, cs = listed ++ rest ∧ Listed '}' Tree.SpellsMember (m :: ms) listed := by
  induction fuel generalizing cs with
  | zero => cases h
  | succ fuel ih =>
    obtain ⟨blank, hblank, hcs⟩ := exists_blank cs
    unfold skipMembers at h
    split at h
    · cases h
    · rename_i afterQuote heq
      rw [heq] at hcs
      obtain ⟨afterKey, hkey, hvalue⟩ := bind_eq_ok_iff.mp h
      obtain ⟨key, rfl, hcontent⟩ := skipString_eq_ok_iff.mp hkey
      obtain ⟨before, hbefore, hafterKey⟩ := exists_blank afterKey
      split at hvalue
      · cases hvalue
      · rename_i afterColon heq
        rw [heq] at hafterKey
        obtain ⟨tail, hown, hlater⟩ := bind_eq_ok_iff.mp hvalue
        obtain ⟨t, after, piece, rfl, hafter, ht⟩ := hskip hown
        have hmember := Tree.SpellsMember.mk hcontent hbefore hafter ht
        obtain ⟨beforeNext, hbeforeNext, htail⟩ := exists_blank tail
        split at hlater
        · cases hlater
        · rename_i more heq
          obtain ⟨m, ms, listed, rfl, hlisted⟩ := ih hlater
          refine ⟨(key, t), m :: ms, _, ?_, .cons hblank hmember (hlisted.continued hbeforeNext)⟩
          rw [hcs, hafterKey, htail, heq]
          simp
        · rename_i more heq
          cases hlater
          refine ⟨(key, t), [], _, ?_, .cons hblank hmember (.nil hbeforeNext)⟩
          rw [hcs, hafterKey, htail, heq]
          simp
        · cases hlater
      · cases hvalue
    · cases h

end Lists

theorem skipsOnly_skipNested (fuel : Nat) : SkipsOnly (skipNested fuel) := by
  induction fuel with
  | zero =>
    intro cs rest h
    cases h
  | succ fuel ih =>
    intro cs rest h
    obtain ⟨blank, hblank, hcs⟩ := exists_blank cs
    unfold skipNested at h
    split at h
    · cases h
    · rename_i tail heq
      rw [heq, readWord_eq_ok_iff.mp h] at hcs
      exact ⟨.null, blank, _, hcs, hblank, .null⟩
    · rename_i tail heq
      rw [heq, readWord_eq_ok_iff.mp h] at hcs
      exact ⟨.bool true, blank, _, hcs, hblank, .bool true⟩
    · rename_i tail heq
      rw [heq, readWord_eq_ok_iff.mp h] at hcs
      exact ⟨.bool false, blank, _, hcs, hblank, .bool false⟩
    · rename_i tail heq
      obtain ⟨content, rfl, hcontent⟩ := skipString_eq_ok_iff.mp h
      exact ⟨.string content, blank, _, by rw [hcs, heq]; simp, hblank, .string hcontent⟩
    · rename_i tail heq
      obtain ⟨number, rfl, hnumber⟩ := exists_of_skipUnsignedNumber h
      exact ⟨.number ('-' :: number), blank, _, by rw [hcs, heq]; simp, hblank, .number (.negative hnumber)⟩
    · rename_i tail heq
      rw [heq] at hcs
      obtain ⟨before, hbefore, htail⟩ := exists_blank tail
      split at h
      · cases h
      · rename_i more heq
        cases h
        exact ⟨.array [], blank, _, by rw [hcs, htail, heq]; simp, hblank, .array (.nil hbefore)⟩
      · obtain ⟨t, ts, listed, hinner, hlisted⟩ := exists_of_skipElements ih h
        refine ⟨.array (t :: ts), blank, '[' :: (before ++ listed), ?_, hblank, .array (hlisted.blank hbefore)⟩
        rw [hcs, htail, hinner]
        simp
    · rename_i tail heq
      rw [heq] at hcs
      obtain ⟨before, hbefore, htail⟩ := exists_blank tail
      split at h
      · cases h
      · rename_i more heq
        cases h
        exact ⟨.object [], blank, _, by rw [hcs, htail, heq]; simp, hblank, .object (.nil hbefore)⟩
      · obtain ⟨m, ms, listed, hinner, hlisted⟩ := exists_of_skipMembers ih h
        refine ⟨.object (m :: ms), blank, '\x7b' :: (before ++ listed), ?_, hblank,
          .object (hlisted.blank hbefore)⟩
        rw [hcs, htail, hinner]
        simp
    · rename_i c tail _ _ _ _ _ _ _ heq
      split_ifs at h
      obtain ⟨number, hsplit, hnumber⟩ := exists_of_skipUnsignedNumber h
      exact ⟨.number number, blank, number, by rw [hcs, heq, hsplit], hblank, .number (.unsigned hnumber)⟩

end DocMark.Json
