-- SUMMARY: Which texts are decimal numerals of a number: its digits, behind any number of zeros.
import Mathlib
import DocMark.Text.Decimal

/-!
# Numerals

Every number has one numeral that starts with no needless zero, the digits that `Nat.toDigits` gives. A text
is read as a number just if it consists of zeros and of that numeral, and as an unsigned one also if a single
plus sign stands in front of them.
-/
namespace DocMark.Text.Decimal

variable {acc bound n : Nat} {c : Char} {cs : List Char}

theorem exists_digitChar (h : c.isDigit = true) : ∃ d < 10, c = d.digitChar := by
  obtain ⟨hlow, hhigh⟩ := Char.isDigit_iff_toNat.mp h
  have hzero : '0'.toNat = 48 := rfl
  have hnine : '9'.toNat = 57 := rfl
  have hd : c.toNat - 48 < 10 := by omega
  refine ⟨c.toNat - 48, hd, Char.toNat_inj.mp ?_⟩
  have hvalue := Nat.toNat_digitChar_sub_48_of_lt_ten hd
  have hdigit : (c.toNat - 48).digitChar.isDigit = true := by simp [Nat.isDigit_digitChar, hd]
  have hbounds := Char.isDigit_iff_toNat.mp hdigit
  omega

/-! ## Digits -/

/-- A run of digits is worth what its digits are worth, one after the other. -/
theorem readAfter?_eq_some_iff :
    readAfter? acc cs = some n ↔ (∀ c ∈ cs, c.isDigit = true) ∧ Nat.ofDigitChars 10 cs acc = n := by
  induction cs generalizing acc with
  | nil => simp [readAfter?]
  | cons c cs ih =>
    rw [readAfter?, digit?, Nat.ofDigitChars_cons, List.forall_mem_cons]
    split
    · rw [Option.bind_some, ih]
      simp_all
    · simp_all

/-- Digits are the numeral of what they are worth, behind zeros. -/
theorem exists_eq_zeros_append (hne : cs ≠ []) (hdigits : ∀ c ∈ cs, c.isDigit = true) :
    ∃ zeros, cs = List.replicate zeros '0' ++ Nat.toDigits 10 (Nat.ofDigitChars 10 cs 0) := by
  induction cs using List.reverseRecOn with
  | nil => exact absurd rfl hne
  | append_singleton cs c ih =>
    rw [List.forall_mem_append, List.forall_mem_singleton] at hdigits
    obtain ⟨d, hd, rfl⟩ := exists_digitChar hdigits.2
    rw [Nat.ofDigitChars_append, Nat.ofDigitChars_cons_digitChar_of_lt_ten hd, Nat.ofDigitChars_nil,
      ← Nat.toDigits_of_lt_base hd]
    by_cases hcs : cs = []
    · subst hcs
      exact ⟨0, by simp⟩
    · obtain ⟨zeros, hzeros⟩ := ih hcs hdigits.1
      generalize Nat.ofDigitChars 10 cs 0 = front at hzeros ⊢
      rcases Nat.eq_zero_or_pos front with rfl | hfront
      · refine ⟨zeros + 1, ?_⟩
        rw [hzeros, List.replicate_succ', Nat.toDigits_zero, Nat.mul_zero, Nat.zero_add]
      · refine ⟨zeros, ?_⟩
        rw [← Nat.toDigits_append_toDigits (by decide) hfront hd, ← List.append_assoc, ← hzeros]

theorem readDigits?_eq_some_iff :
    readDigits? cs = some n ↔ ∃ zeros, cs = List.replicate zeros '0' ++ Nat.toDigits 10 n := by
  rw [readDigits?]
  constructor
  · intro h
    split at h
    · cases h
    · obtain ⟨hdigits, rfl⟩ := readAfter?_eq_some_iff.mp h
      exact exists_eq_zeros_append (mt List.isEmpty_iff.mpr ‹_›) hdigits
  · rintro ⟨zeros, rfl⟩
    have hne : List.replicate zeros '0' ++ Nat.toDigits 10 n ≠ [] :=
      List.append_ne_nil_of_right_ne_nil _ Nat.toDigits_ne_nil
    rw [if_neg (mt List.isEmpty_iff.mp hne), readAfter?_eq_some_iff]
    refine ⟨List.forall_mem_append.mpr ⟨?_, ?_⟩, ?_⟩
    · intro c hc
      rw [List.eq_of_mem_replicate hc]
      rfl
    · exact fun c hc => Nat.isDigit_of_mem_toDigits (by decide) (by decide) hc
    · rw [Nat.ofDigitChars_append, Nat.ofDigitChars_replicate_zero, Nat.mul_zero,
        Nat.ofDigitChars_ten_toDigits]

/-! ## Unsigned numerals -/

theorem readUnsigned?_eq_some_iff :
    readUnsigned? bound cs = some n ↔ n ≤ bound ∧ ∃ sign ∈ [[], ['+']], ∃ zeros,
      cs = sign ++ (List.replicate zeros '0' ++ Nat.toDigits 10 n) := by
  have hfilter (ds : List Char) : (readDigits? ds).filter (· ≤ bound) = some n ↔
      n ≤ bound ∧ ∃ zeros, ds = List.replicate zeros '0' ++ Nat.toDigits 10 n := by
    rw [← readDigits?_eq_some_iff]
    simp [and_comm]
  -- No digit is a plus sign, so the two forms of a numeral exclude each other.
  have hplus (rest : List Char) (zeros : Nat) :
      '+' :: rest ≠ List.replicate zeros '0' ++ Nat.toDigits 10 n := by
    intro h
    have hread := readDigits?_eq_some_iff.mpr ⟨zeros, h⟩
    cases hread
  unfold readUnsigned?
  dsimp only
  split
  · rw [hfilter]
    simp [hplus]
  · rename_i hnone
    have hunsigned (zeros : Nat) : cs ≠ '+' :: (List.replicate zeros '0' ++ Nat.toDigits 10 n) :=
      hnone _
    rw [hfilter]
    simp [hunsigned]

end DocMark.Text.Decimal
