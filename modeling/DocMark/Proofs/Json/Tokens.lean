-- SUMMARY: What is read or passed over as a string or a number is just what the grammar allows.
import Mathlib
import DocMark.Proofs.Json.Trees
import DocMark.Proofs.Results

/-!
# Strings and numbers in a text

A reader of strings or numbers succeeds where the grammar has one, and goes on right behind it. A string ends with
its quote, whatever follows. A number ends where something follows that cannot belong to it.
-/
namespace DocMark.Json

open Results

theorem readWord_eq_ok_iff {letters cs rest : List Char} :
    readWord letters cs = .ok rest ↔ cs = letters ++ rest := by
  induction letters generalizing cs with
  | nil => simp [readWord]
  | cons l letters ih =>
    cases cs with
    | nil => simp [readWord]
    | cons c cs =>
      rw [readWord, List.cons_append, List.cons.injEq]
      split_ifs with heq
      · rw [ih, heq]
        simp
      · simp only [false_iff, not_and]
        exact fun h _ => heq h.symm

-- ---------------------------------------------------------------------------
-- Strings
-- ---------------------------------------------------------------------------

theorem readHex_eq_ok_iff {cs rest : List Char} {n : Nat} :
    readHex cs = .ok (n, rest) ↔ ∃ digits, cs = digits ++ rest ∧ HexNumber digits n := by
  constructor
  · intro h
    unfold readHex at h
    split at h
    · rename_i a b c d tail
      split at h
      · rename_i w x y z ha hb hc hd
        cases h
        exact ⟨[a, b, c, d], rfl, .mk ha hb hc hd⟩
      · cases h
    · split at h <;> cases h
  · rintro ⟨_, rfl, ⟨ha, hb, hc, hd⟩⟩
    simp [readHex, ha, hb, hc, hd]

theorem readLowHalf_eq_ok_iff {cs rest : List Char} {n : Nat} : readLowHalf cs = .ok (n, rest) ↔
    ∃ digits, cs = '\\' :: 'u' :: (digits ++ rest) ∧ HexNumber digits n ∧ isLowHalf n = true := by
  constructor
  · intro h
    unfold readLowHalf at h
    split at h
    · cases h
    · split_ifs at h with hslash
      split at h
      · cases h
      · split_ifs at h with hu
        obtain ⟨⟨low, tail⟩, hhex, hlow⟩ := bind_eq_ok_iff.mp h
        dsimp only at hlow
        split_ifs at hlow with hisLow
        cases hlow
        obtain ⟨digits, rfl, hdigits⟩ := readHex_eq_ok_iff.mp hhex
        simp only [ne_eq, not_not] at hslash hu
        exact ⟨digits, by rw [hslash, hu], hdigits, hisLow⟩
  · rintro ⟨digits, rfl, hdigits, hlow⟩
    have hhex : readHex (digits ++ rest) = .ok (n, rest) := readHex_eq_ok_iff.mpr ⟨digits, rfl, hdigits⟩
    simp [readLowHalf, hhex, hlow]

/-- One escape for a number that is no half of a pair, or two for the halves. -/
inductive UnicodeEscape : List Char → Char → Prop where
  | number {digits : List Char} {n : Nat} (hdigits : HexNumber digits n) (hlow : isLowHalf n = false)
      (hhigh : isHighHalf n = false) : UnicodeEscape digits (Char.ofNat n)
  | halves {digits lowDigits : List Char} {high low : Nat} (hdigits : HexNumber digits high)
      (hhigh : isHighHalf high = true) (hlowDigits : HexNumber lowDigits low) (hlow : isLowHalf low = true) :
      UnicodeEscape (digits ++ '\\' :: 'u' :: lowDigits)
        (Char.ofNat (0x10000 + (high - 0xD800) * 0x400 + (low - 0xDC00)))

theorem UnicodeEscape.unescaped {escape cs xs : List Char} {x : Char} (hx : UnicodeEscape escape x)
    (h : Unescaped cs xs) : Unescaped ('\\' :: 'u' :: (escape ++ cs)) (x :: xs) := by
  cases hx with
  | number hdigits hlow hhigh => exact .number hdigits hlow hhigh h
  | halves hdigits hhigh hlowDigits hlow =>
    rw [List.append_assoc]
    exact .halves hdigits hhigh hlowDigits hlow h

theorem isLowHalf_eq_false_of_isHighHalf {n : Nat} (h : isHighHalf n = true) : isLowHalf n = false := by
  simp only [isHighHalf, isLowHalf, Bool.and_eq_true, decide_eq_true_eq, Bool.and_eq_false_iff,
    decide_eq_false_iff_not] at h ⊢
  omega

theorem readUnicodeEscape_eq_ok_iff {cs rest : List Char} {x : Char} :
    readUnicodeEscape cs = .ok (x, rest) ↔ ∃ escape, cs = escape ++ rest ∧ UnicodeEscape escape x := by
  constructor
  · intro h
    obtain ⟨⟨n, tail⟩, hhex, hchar⟩ := bind_eq_ok_iff.mp h
    obtain ⟨digits, rfl, hdigits⟩ := readHex_eq_ok_iff.mp hhex
    dsimp only at hchar
    split_ifs at hchar with hlow hhigh
    · obtain ⟨⟨low, tail⟩, hhalf, hpair⟩ := bind_eq_ok_iff.mp hchar
      obtain ⟨lowDigits, rfl, hlowDigits, hisLow⟩ := readLowHalf_eq_ok_iff.mp hhalf
      obtain ⟨rfl, rfl⟩ := Prod.mk.inj (Except.ok.inj hpair)
      exact ⟨digits ++ '\\' :: 'u' :: lowDigits, by simp, .halves hdigits hhigh hlowDigits hisLow⟩
    · cases hchar
      exact ⟨digits, rfl, .number hdigits (Bool.eq_false_of_not_eq_true hlow)
        (Bool.eq_false_of_not_eq_true hhigh)⟩
  · rintro ⟨escape, rfl, hescape⟩
    cases hescape with
    | @number _ n hdigits hlow hhigh =>
      have hhex : readHex (escape ++ rest) = .ok (n, rest) := readHex_eq_ok_iff.mpr ⟨escape, rfl, hdigits⟩
      simp [readUnicodeEscape, hhex, hlow, hhigh]
    | @halves digits lowDigits high low hdigits hhigh hlowDigits hlow =>
      have hhex : readHex (digits ++ ('\\' :: 'u' :: (lowDigits ++ rest))) =
          .ok (high, '\\' :: 'u' :: (lowDigits ++ rest)) := readHex_eq_ok_iff.mpr ⟨digits, rfl, hdigits⟩
      have hhalf : readLowHalf ('\\' :: 'u' :: (lowDigits ++ rest)) = .ok (low, rest) :=
        readLowHalf_eq_ok_iff.mpr ⟨lowDigits, rfl, hlowDigits, hlow⟩
      have hnotLow := isLowHalf_eq_false_of_isHighHalf hhigh
      simp [readUnicodeEscape, hhex, hhalf, hhigh, hnotLow]

theorem ne_u_of_escapeLetter? {e x : Char} (h : escapeLetter? e = some x) : e ≠ 'u' := by
  rintro rfl
  cases h

theorem readChars_letter {e c : Char} (fuel : Nat) (he : escapeLetter? e = some c) (hu : e ≠ 'u')
    (cs : List Char) :
    readChars (fuel + 1) ('\\' :: e :: cs) =
      (readChars fuel cs).map fun (xs, rest) => (c :: xs, rest) := by
  simp only [readChars, he, if_neg hu]
  cases readChars fuel cs <;> rfl

theorem readChars_unicode {c : Char} {cs rest : List Char} (fuel : Nat)
    (h : readUnicodeEscape cs = .ok (c, rest)) :
    readChars (fuel + 1) ('\\' :: 'u' :: cs) =
      (readChars fuel rest).map fun (xs, rest) => (c :: xs, rest) := by
  have hbackslash : '\\' ≠ '"' := by decide
  simp only [readChars, if_neg hbackslash, if_true, h, bind, Except.bind]
  cases readChars fuel rest <;> rfl

theorem readChars_plain {c : Char} (fuel : Nat) (hcontrol : 32 ≤ c.toNat) (hquote : c ≠ '"') (hslash : c ≠ '\\')
    (cs : List Char) :
    readChars (fuel + 1) (c :: cs) = (readChars fuel cs).map fun (xs, rest) => (c :: xs, rest) := by
  simp only [readChars, if_neg hquote, if_neg hslash, if_neg (Nat.not_lt.mpr hcontrol)]
  cases readChars fuel cs <;> rfl

/-- The content of a string is read up to its quote. -/
theorem readChars_of_unescaped {cs xs : List Char} (h : Unescaped cs xs) {fuel : Nat} (hfuel : cs.length < fuel)
    (rest : List Char) : readChars fuel (cs ++ '"' :: rest) = .ok (xs, rest) := by
  induction h generalizing fuel with
  | nil =>
    obtain ⟨fuel, rfl⟩ := Nat.exists_eq_add_one.mpr (Nat.zero_lt_of_lt hfuel)
    rfl
  | plain hcontrol hquote hslash _ ih =>
    obtain ⟨fuel, rfl⟩ := Nat.exists_eq_add_one.mpr (Nat.zero_lt_of_lt hfuel)
    rw [List.cons_append, readChars_plain fuel hcontrol hquote hslash, ih (by simpa using hfuel)]
    rfl
  | letter he _ ih =>
    obtain ⟨fuel, rfl⟩ := Nat.exists_eq_add_one.mpr (Nat.zero_lt_of_lt hfuel)
    simp only [List.length_cons] at hfuel
    rw [List.cons_append, List.cons_append, readChars_letter fuel he (ne_u_of_escapeLetter? he), ih (by omega)]
    rfl
  | @number digits cs xs n hdigits hlow hhigh _ ih =>
    obtain ⟨fuel, rfl⟩ := Nat.exists_eq_add_one.mpr (Nat.zero_lt_of_lt hfuel)
    simp only [List.length_cons, List.length_append] at hfuel
    have hescape : readUnicodeEscape (digits ++ (cs ++ '"' :: rest)) = .ok (Char.ofNat n, cs ++ '"' :: rest) :=
      readUnicodeEscape_eq_ok_iff.mpr ⟨digits, rfl, .number hdigits hlow hhigh⟩
    rw [List.cons_append, List.cons_append, List.append_assoc, readChars_unicode fuel hescape, ih (by omega)]
    rfl
  | @halves digits lowDigits cs xs high low hdigits hhigh hlowDigits hlow _ ih =>
    obtain ⟨fuel, rfl⟩ := Nat.exists_eq_add_one.mpr (Nat.zero_lt_of_lt hfuel)
    simp only [List.length_cons, List.length_append] at hfuel
    have hescape : readUnicodeEscape (digits ++ '\\' :: 'u' :: (lowDigits ++ (cs ++ '"' :: rest))) =
        .ok (_, cs ++ '"' :: rest) :=
      readUnicodeEscape_eq_ok_iff.mpr ⟨_, by simp, .halves hdigits hhigh hlowDigits hlow⟩
    simp only [List.append_assoc, List.cons_append]
    rw [readChars_unicode fuel hescape, ih (by omega)]
    rfl

theorem exists_of_readChars {fuel : Nat} {cs xs rest : List Char} (h : readChars fuel cs = .ok (xs, rest)) :
    ∃ content, cs = content ++ '"' :: rest ∧ Unescaped content xs := by
  induction fuel generalizing cs xs with
  | zero => cases h
  | succ fuel ih =>
    cases cs with
    | nil => cases h
    | cons c cs =>
      unfold readChars at h
      split_ifs at h with hquote hslash hcontrol
      · cases h
        exact ⟨[], by rw [hquote]; rfl, .nil⟩
      · subst hslash
        split at h
        · cases h
        · rename_i e tail
          split_ifs at h with hu
          · subst hu
            obtain ⟨⟨x, more⟩, hescape, h⟩ := bind_eq_ok_iff.mp h
            obtain ⟨⟨ys, last⟩, hmore, h⟩ := bind_eq_ok_iff.mp h
            cases h
            obtain ⟨escape, rfl, hx⟩ := readUnicodeEscape_eq_ok_iff.mp hescape
            obtain ⟨content, rfl, hcontent⟩ := ih hmore
            exact ⟨'\\' :: 'u' :: (escape ++ content), by simp, hx.unescaped hcontent⟩
          · split at h
            · cases h
            · rename_i x he
              obtain ⟨⟨ys, last⟩, hmore, h⟩ := bind_eq_ok_iff.mp h
              cases h
              obtain ⟨content, rfl, hcontent⟩ := ih hmore
              exact ⟨'\\' :: e :: content, rfl, .letter he hcontent⟩
      · obtain ⟨⟨ys, last⟩, hmore, h⟩ := bind_eq_ok_iff.mp h
        cases h
        obtain ⟨content, rfl, hcontent⟩ := ih hmore
        exact ⟨c :: content, rfl, .plain (Nat.not_lt.mp hcontrol) hquote hslash hcontent⟩

theorem readString_of_unescaped {content : List Char} {s : String} (h : Unescaped content s.toList)
    (rest : List Char) : readString (content ++ '"' :: rest) = .ok (s, rest) := by
  rw [readString, readChars_of_unescaped h (by simp)]
  simp

/-- A string is read up to its quote, and there is nothing else that is read as one. -/
theorem readString_eq_ok_iff {cs rest : List Char} {s : String} : readString cs = .ok (s, rest) ↔
    ∃ content, cs = content ++ '"' :: rest ∧ Unescaped content s.toList := by
  constructor
  · intro h
    obtain ⟨⟨xs, tail⟩, hchars, h⟩ := bind_eq_ok_iff.mp h
    cases h
    obtain ⟨content, rfl, hcontent⟩ := exists_of_readChars hchars
    exact ⟨content, rfl, by rwa [String.toList_ofList]⟩
  · rintro ⟨content, rfl, hcontent⟩
    exact readString_of_unescaped hcontent rest

/-- A string stands for one text only. -/
theorem Unescaped.unique {content : List Char} {s t : String} (hs : Unescaped content s.toList)
    (ht : Unescaped content t.toList) : s = t := by
  have hread := readString_of_unescaped hs []
  rw [readString_of_unescaped ht] at hread
  cases hread
  rfl

theorem skipChars_of_stringContent {cs : List Char} (h : StringContent cs) {fuel : Nat} (hfuel : cs.length < fuel)
    (rest : List Char) : skipChars fuel (cs ++ '"' :: rest) = .ok rest := by
  induction h generalizing fuel with
  | nil =>
    obtain ⟨fuel, rfl⟩ := Nat.exists_eq_add_one.mpr (Nat.zero_lt_of_lt hfuel)
    rfl
  | plain hcontrol hquote hslash _ ih =>
    obtain ⟨fuel, rfl⟩ := Nat.exists_eq_add_one.mpr (Nat.zero_lt_of_lt hfuel)
    simp only [List.cons_append, skipChars, if_neg hquote, if_neg hslash, if_neg (Nat.not_lt.mpr hcontrol)]
    exact ih (by simpa using hfuel)
  | @letter e cs he _ ih =>
    obtain ⟨fuel, rfl⟩ := Nat.exists_eq_add_one.mpr (Nat.zero_lt_of_lt hfuel)
    simp only [List.length_cons] at hfuel
    obtain ⟨x, hx⟩ := Option.isSome_iff_exists.mp he
    have hslash : '\\' ≠ '"' := by decide
    simp only [List.cons_append, skipChars, if_neg hslash, if_true, if_neg (ne_u_of_escapeLetter? hx), he]
    exact ih (by omega)
  | @number digits cs n hdigits _ ih =>
    obtain ⟨fuel, rfl⟩ := Nat.exists_eq_add_one.mpr (Nat.zero_lt_of_lt hfuel)
    simp only [List.length_cons, List.length_append] at hfuel
    have hhex : readHex (digits ++ (cs ++ '"' :: rest)) = .ok (n, cs ++ '"' :: rest) :=
      readHex_eq_ok_iff.mpr ⟨digits, rfl, hdigits⟩
    have hslash : '\\' ≠ '"' := by decide
    simp only [List.cons_append, List.append_assoc, skipChars, if_neg hslash, if_true, hhex, ok_bind]
    exact ih (by omega)

theorem exists_of_skipChars {fuel : Nat} {cs rest : List Char} (h : skipChars fuel cs = .ok rest) :
    ∃ content, cs = content ++ '"' :: rest ∧ StringContent content := by
  induction fuel generalizing cs with
  | zero => cases h
  | succ fuel ih =>
    cases cs with
    | nil => cases h
    | cons c cs =>
      unfold skipChars at h
      split_ifs at h with hquote hslash hcontrol
      · cases h
        exact ⟨[], by rw [hquote]; rfl, .nil⟩
      · subst hslash
        split at h
        · cases h
        · rename_i e tail
          split_ifs at h with hu hletter
          · subst hu
            obtain ⟨⟨n, more⟩, hhex, hskip⟩ := bind_eq_ok_iff.mp h
            obtain ⟨digits, rfl, hdigits⟩ := readHex_eq_ok_iff.mp hhex
            obtain ⟨content, rfl, hcontent⟩ := ih hskip
            exact ⟨'\\' :: 'u' :: (digits ++ content), by simp, .number hdigits hcontent⟩
          · obtain ⟨content, rfl, hcontent⟩ := ih h
            exact ⟨'\\' :: e :: content, rfl, .letter hletter hcontent⟩
      · obtain ⟨content, rfl, hcontent⟩ := ih h
        exact ⟨c :: content, rfl, .plain (Nat.not_lt.mp hcontrol) hquote hslash hcontent⟩

theorem skipString_of_stringContent {content : List Char} (h : StringContent content) (rest : List Char) :
    skipString (content ++ '"' :: rest) = .ok rest := skipChars_of_stringContent h (by simp) rest

theorem skipString_eq_ok_iff {cs rest : List Char} : skipString cs = .ok rest ↔
    ∃ content, cs = content ++ '"' :: rest ∧ StringContent content := by
  constructor
  · exact exists_of_skipChars
  · rintro ⟨content, rfl, hcontent⟩
    exact skipString_of_stringContent hcontent rest

/-- There is one place where a string ends. -/
theorem StringContent.unique {content content' rest rest' : List Char} (h : StringContent content)
    (h' : StringContent content') (heq : content ++ '"' :: rest = content' ++ '"' :: rest') :
    content = content' ∧ rest = rest' := by
  have hskip := skipString_of_stringContent h rest
  rw [heq, skipString_of_stringContent h'] at hskip
  cases hskip
  exact ⟨List.append_cancel_right heq, rfl⟩

-- ---------------------------------------------------------------------------
-- Numbers
-- ---------------------------------------------------------------------------

/-- Where a run of digits cannot go on. -/
def EndsDigits (cs : List Char) : Prop := cs.head?.any Char.isDigit = false

theorem Delimits.endsDigits {cs : List Char} (h : Delimits cs) : EndsDigits cs := by
  cases cs with
  | nil => rfl
  | cons c cs => exact h.not_mem_number.1

theorem span_isDigit {digits cs : List Char} (hdigits : ∀ c ∈ digits, c.isDigit = true) (hcs : EndsDigits cs) :
    (digits ++ cs).takeWhile Char.isDigit = digits ∧ (digits ++ cs).dropWhile Char.isDigit = cs := by
  rw [List.takeWhile_append_of_pos hdigits, List.dropWhile_append_of_pos hdigits]
  cases cs with
  | nil => simp
  | cons c cs =>
    have hc : c.isDigit = false := hcs
    simp [hc]

theorem Digits.head?_any {digits : List Char} (h : Digits digits) (cs : List Char) :
    (digits ++ cs).head?.any Char.isDigit = true := by
  cases digits with
  | nil => exact absurd rfl h.1
  | cons c digits => exact h.2 c (List.mem_cons_self ..)

theorem digits_takeWhile {cs : List Char} (h : cs.head?.any Char.isDigit = true) :
    Digits (cs.takeWhile Char.isDigit) := by
  refine ⟨?_, fun c hc => List.mem_takeWhile_imp hc⟩
  cases cs with
  | nil => cases h
  | cons c cs =>
    have hc : c.isDigit = true := h
    simp [hc]

theorem skipExponent_of_digits {sign digits rest : List Char} (hsign : sign = [] ∨ sign = ['+'] ∨ sign = ['-'])
    (hdigits : Digits digits) (hrest : Delimits rest) : skipExponent (sign ++ (digits ++ rest)) = .ok rest := by
  have hdrop := (span_isDigit hdigits.2 hrest.endsDigits).2
  have hhead := hdigits.head?_any rest
  rcases hsign with rfl | rfl | rfl
  · unfold skipExponent
    split
    -- No sign is a digit.
    · rename_i heq
      rw [List.nil_append] at heq
      rw [heq] at hhead
      cases hhead
    · rename_i heq
      rw [List.nil_append] at heq
      rw [heq] at hhead
      cases hhead
    · simp only [List.nil_append, hhead, hdrop, if_true]
  · simp only [skipExponent, List.cons_append, List.nil_append, hhead, hdrop, if_true]
  · simp only [skipExponent, List.cons_append, List.nil_append, hhead, hdrop, if_true]

theorem exists_of_skipExponent {cs rest : List Char} (h : skipExponent cs = .ok rest) :
    ∃ sign digits,
      cs = sign ++ (digits ++ rest) ∧ (sign = [] ∨ sign = ['+'] ∨ sign = ['-']) ∧ Digits digits := by
  obtain ⟨sign, hsign, tail, rfl, htail⟩ : ∃ sign, (sign = [] ∨ sign = ['+'] ∨ sign = ['-']) ∧ ∃ tail,
      cs = sign ++ tail ∧ (if tail.head?.any Char.isDigit then .ok (tail.dropWhile Char.isDigit)
        else Except.error Fault.invalidNumber) = .ok rest := by
    unfold skipExponent at h
    split at h
    · exact ⟨['+'], by simp, _, rfl, h⟩
    · exact ⟨['-'], by simp, _, rfl, h⟩
    · exact ⟨[], by simp, cs, rfl, h⟩
  split_ifs at htail with hhead
  cases htail
  exact ⟨sign, _, by rw [List.takeWhile_append_dropWhile], hsign, digits_takeWhile hhead⟩

theorem skipScale_of_exponentPart {exponent rest : List Char} (h : ExponentPart exponent) (hrest : Delimits rest) :
    skipScale (exponent ++ rest) = .ok rest := by
  cases h with
  | none =>
    unfold skipScale
    split
    · rename_i heq
      rw [List.nil_append] at heq
      exact absurd rfl (heq ▸ hrest).not_mem_number.2.2.1
    · rename_i heq
      rw [List.nil_append] at heq
      exact absurd rfl (heq ▸ hrest).not_mem_number.2.2.2
    · rfl
  | some he hsign hdigits =>
    rw [List.cons_append, List.append_assoc]
    rcases he with rfl | rfl
    · exact skipExponent_of_digits hsign hdigits hrest
    · exact skipExponent_of_digits hsign hdigits hrest

theorem exists_of_skipScale {cs rest : List Char} (h : skipScale cs = .ok rest) :
    ∃ exponent, cs = exponent ++ rest ∧ ExponentPart exponent := by
  unfold skipScale at h
  split at h
  · obtain ⟨sign, digits, rfl, hsign, hdigits⟩ := exists_of_skipExponent h
    exact ⟨_, by simp, .some (.inl rfl) hsign hdigits⟩
  · obtain ⟨sign, digits, rfl, hsign, hdigits⟩ := exists_of_skipExponent h
    exact ⟨_, by simp, .some (.inr rfl) hsign hdigits⟩
  · cases h
    exact ⟨[], rfl, .none⟩

theorem ExponentPart.endsDigits {exponent rest : List Char} (h : ExponentPart exponent) (hrest : Delimits rest) :
    EndsDigits (exponent ++ rest) := by
  cases h with
  | none => exact hrest.endsDigits
  | some he hsign hdigits => rcases he with rfl | rfl <;> rfl

theorem FractionPart.endsDigits {fraction rest : List Char} (h : FractionPart fraction) (hrest : EndsDigits rest) :
    EndsDigits (fraction ++ rest) := by
  cases h with
  | none => exact hrest
  | some hdigits => rfl

/-- What follows the digits of a number in front of its point is passed over up to the end of the number. -/
theorem skipFraction_of_parts {fraction exponent rest : List Char} (hfraction : FractionPart fraction)
    (hexponent : ExponentPart exponent) (hrest : Delimits rest) :
    (match fraction ++ (exponent ++ rest) with
      | '.' :: fraction =>
        if fraction.head?.any Char.isDigit then skipScale (fraction.dropWhile Char.isDigit)
        else .error .invalidNumber
      | rest => skipScale rest) = .ok rest := by
  have hscale := skipScale_of_exponentPart hexponent hrest
  cases hfraction with
  | none =>
    split
    · rename_i heq
      cases hexponent with
      | none =>
        rw [List.nil_append, List.nil_append] at heq
        exact absurd rfl (heq ▸ hrest).not_mem_number.2.1
      | some he =>
        rcases he with rfl | rfl <;> cases heq
    · exact hscale
  | @some digits hdigits =>
    have hdrop := (span_isDigit hdigits.2 (hexponent.endsDigits hrest)).2
    simp only [List.cons_append, hdigits.head?_any, hdrop, hscale, if_true]

theorem skipUnsignedNumber_of_unsignedNumber {cs rest : List Char} (h : UnsignedNumber cs) (hrest : Delimits rest) :
    skipUnsignedNumber (cs ++ rest) = .ok rest := by
  obtain ⟨⟨hwhole, hzero⟩, hfraction, hexponent⟩ := h
  rename_i whole fraction exponent
  obtain _ | ⟨c, whole⟩ := whole
  · exact absurd rfl hwhole.1
  obtain ⟨hc, hdigits⟩ := List.forall_mem_cons.mp hwhole.2
  have hends := hfraction.endsDigits (hexponent.endsDigits hrest)
  have hdrop := (span_isDigit hdigits hends).2
  have hlone : ¬ (c = '0' ∧ (whole ++ (fraction ++ (exponent ++ rest))).head?.any Char.isDigit = true) := by
    rintro ⟨rfl, hany⟩
    obtain rfl : whole = [] := by simpa using hzero rfl
    rw [List.nil_append, show _ = false from hends] at hany
    cases hany
  simp only [List.cons_append, List.append_assoc, skipUnsignedNumber, hc, hdrop]
  rw [if_neg (by simp), if_neg hlone]
  exact skipFraction_of_parts hfraction hexponent hrest

theorem wholeNumber_takeWhile {c : Char} {cs : List Char} (hc : c.isDigit = true)
    (hlone : ¬ (c = '0' ∧ cs.head?.any Char.isDigit = true)) :
    WholeNumber (c :: cs.takeWhile Char.isDigit) := by
  refine ⟨⟨by simp, List.forall_mem_cons.mpr ⟨hc, fun d hd => List.mem_takeWhile_imp hd⟩⟩, fun hhead => ?_⟩
  obtain rfl : c = '0' := by simpa using hhead
  cases cs with
  | nil => rfl
  | cons d cs =>
    have hd : d.isDigit = false := by simpa using hlone
    simp [hd]

theorem exists_of_skipUnsignedNumber {cs rest : List Char} (h : skipUnsignedNumber cs = .ok rest) :
    ∃ number, cs = number ++ rest ∧ UnsignedNumber number := by
  unfold skipUnsignedNumber at h
  split at h
  · cases h
  · rename_i c cs
    split_ifs at h with hc hlone
    have hsplit : cs = cs.takeWhile Char.isDigit ++ cs.dropWhile Char.isDigit :=
      List.takeWhile_append_dropWhile.symm
    have hwhole := wholeNumber_takeWhile (by simpa using hc) hlone
    split at h
    · rename_i fraction heq
      split_ifs at h with hfraction
      obtain ⟨exponent, htail, hexponent⟩ := exists_of_skipScale h
      have hpart : fraction = fraction.takeWhile Char.isDigit ++ fraction.dropWhile Char.isDigit :=
        List.takeWhile_append_dropWhile.symm
      refine ⟨_, ?_, .mk hwhole (.some (digits_takeWhile hfraction)) hexponent⟩
      rw [heq, hpart, htail] at hsplit
      nth_rewrite 1 [hsplit]
      simp
    · obtain ⟨exponent, htail, hexponent⟩ := exists_of_skipScale h
      refine ⟨_, ?_, .mk hwhole .none hexponent⟩
      rw [htail] at hsplit
      nth_rewrite 1 [hsplit]
      simp

-- ---------------------------------------------------------------------------
-- Natural numbers
-- ---------------------------------------------------------------------------

/-- A natural number within bounds. -/
def Natural (cs : List Char) (n : Nat) : Prop := WholeNumber cs ∧ ∃ added, addDigits 0 cs = (n, added, 0)

theorem Natural.unsignedNumber {cs : List Char} {n : Nat} (h : Natural cs n) : UnsignedNumber cs := by
  have hcs := UnsignedNumber.mk h.1 .none .none
  rwa [List.append_nil, List.append_nil] at hcs

theorem readUnsignedNumber_of_natural {cs rest : List Char} {n : Nat} (h : Natural cs n) (hrest : Delimits rest) :
    readUnsignedNumber false (cs ++ rest) = .ok (.natural n, rest) := by
  obtain ⟨⟨hdigits, hzero⟩, added, hadd⟩ := h
  obtain ⟨htake, hdrop⟩ := span_isDigit hdigits.2 hrest.endsDigits
  have hread : readDigits false (cs ++ rest) = .ok (.natural n, rest) := by
    rw [readDigits, htake, hdrop, hadd]
    cases rest with
    | nil => rfl
    | cons c rest =>
      obtain ⟨-, hpoint, he, hE⟩ := hrest.not_mem_number
      dsimp only
      split <;> simp_all [makeInteger]
  obtain _ | ⟨c, cs⟩ := cs
  · exact absurd rfl hdigits.1
  have hlone : ¬ (c = '0' ∧ (cs ++ rest).head?.any Char.isDigit = true) := by
    rintro ⟨rfl, hany⟩
    obtain rfl : cs = [] := by simpa using hzero rfl
    rw [List.nil_append, show _ = false from hrest.endsDigits] at hany
    cases hany
  rw [List.cons_append] at hread ⊢
  simp only [readUnsignedNumber, hdigits.2 c (List.mem_cons_self ..)]
  rw [if_neg (by simp), if_neg hlone, hread]

theorem makeFloat_ne_natural {negative : Bool} {significand n : Nat} {e : Int} :
    makeFloat negative significand e ≠ .ok (.natural n) := by
  intro h
  obtain ⟨x, -, h⟩ := bind_eq_ok_iff.mp h
  cases h

theorem readExponent_ne_natural {negative : Bool} {significand n : Nat} {start : Int} {cs rest : List Char} :
    readExponent negative significand start cs ≠ .ok (.natural n, rest) := by
  intro h
  unfold readExponent at h
  dsimp only at h
  split_ifs at h
  all_goals first
    | cases h
    | obtain ⟨x, hx, h⟩ := bind_eq_ok_iff.mp h
      cases h
      exact makeFloat_ne_natural hx

theorem readScale_ne_natural {negative : Bool} {significand n : Nat} {start : Int} {cs rest : List Char} :
    readScale negative significand start cs ≠ .ok (.natural n, rest) := by
  intro h
  unfold readScale at h
  split at h
  · exact readExponent_ne_natural h
  · exact readExponent_ne_natural h
  · obtain ⟨x, hx, h⟩ := bind_eq_ok_iff.mp h
    cases h
    exact makeFloat_ne_natural hx

theorem readFraction_ne_natural {negative : Bool} {significand n : Nat} {start : Int} {cs rest : List Char} :
    readFraction negative significand start cs ≠ .ok (.natural n, rest) := by
  intro h
  unfold readFraction at h
  dsimp only at h
  split_ifs at h
  exact readScale_ne_natural h

/-- A number is read as a natural one only if it is written with digits alone, all of which count. -/
theorem addDigits_of_readDigits {negative : Bool} {cs rest : List Char} {n : Nat}
    (h : readDigits negative cs = .ok (.natural n, rest)) :
    negative = false ∧ cs = cs.takeWhile Char.isDigit ++ rest
      ∧ ∃ added, addDigits 0 (cs.takeWhile Char.isDigit) = (n, added, 0) := by
  unfold readDigits at h
  rcases hadd : addDigits 0 (cs.takeWhile Char.isDigit) with ⟨s, added, left⟩
  simp only [hadd] at h
  split at h
  · exact absurd h readFraction_ne_natural
  · exact absurd h readExponent_ne_natural
  · exact absurd h readExponent_ne_natural
  · split_ifs at h with hleft
    · obtain ⟨hn, rfl⟩ := Prod.mk.inj (Except.ok.inj h)
      unfold makeInteger at hn
      split_ifs at hn with hsign
      cases hn
      exact ⟨by simpa using hsign, List.takeWhile_append_dropWhile.symm, added, by rw [hleft]⟩
    · obtain ⟨x, hx, h⟩ := bind_eq_ok_iff.mp h
      cases h
      exact absurd hx makeFloat_ne_natural

theorem natural_of_readUnsignedNumber {negative : Bool} {cs rest : List Char} {n : Nat}
    (h : readUnsignedNumber negative cs = .ok (.natural n, rest)) :
    negative = false ∧ ∃ digits, cs = digits ++ rest ∧ Natural digits n := by
  unfold readUnsignedNumber at h
  split at h
  · cases h
  · rename_i c cs
    split_ifs at h with hc hlone
    have hdigit : c.isDigit = true := by simpa using hc
    obtain ⟨hsign, hsplit, hadd⟩ := addDigits_of_readDigits h
    rw [List.takeWhile_cons_of_pos hdigit] at hsplit hadd
    exact ⟨hsign, _, hsplit, wholeNumber_takeWhile hdigit hlone, hadd⟩

-- ---------------------------------------------------------------------------
-- Natural numbers as they are written
-- ---------------------------------------------------------------------------

theorem text_natural (n : Nat) : Number.text (.natural n) = Nat.toDigits 10 n := by
  simp [Number.text, toString, Nat.toList_repr]

/-- One more digit, as long as the number stays within bounds. -/
theorem addDigits_concat {significand n added : Nat} {digits : List Char} {c : Char}
    (h : addDigits significand digits = (n, added, 0)) (hc : n * 10 + (c.toNat - 48) ≤ maxNatural) :
    addDigits significand (digits ++ [c]) = (n * 10 + (c.toNat - 48), added + 1, 0) := by
  induction digits generalizing significand added with
  | nil =>
    obtain ⟨rfl, rfl⟩ : significand = n ∧ 0 = added := by simpa [addDigits] using h
    simp [addDigits, Nat.not_lt.mpr hc]
  | cons d digits ih =>
    simp only [addDigits] at h
    split at h
    · simp at h
    · rename_i hbound
      rcases hrest : addDigits (significand * 10 + (d.toNat - 48)) digits with ⟨s, count, left⟩
      rw [hrest] at h
      obtain ⟨rfl, rfl, rfl⟩ : s = n ∧ count + 1 = added ∧ left = 0 := by simpa using h
      simp [addDigits, if_neg hbound, ih hrest]

theorem toNat_digitChar {d : Nat} (h : d < 10) : d.digitChar.toNat - 48 = d := by
  interval_cases d <;> rfl

theorem addDigits_toDigits {n : Nat} (h : n ≤ maxNatural) :
    addDigits 0 (Nat.toDigits 10 n) = (n, (Nat.toDigits 10 n).length, 0) := by
  induction n using Nat.strongRecOn with
  | ind n ih =>
    by_cases hsmall : n < 10
    · have hdigit := toNat_digitChar hsmall
      simp [Nat.toDigits_of_lt_base hsmall, addDigits, hdigit, Nat.not_lt.mpr h]
    · have hdigit : (n % 10).digitChar.toNat - 48 = n % 10 := toNat_digitChar (Nat.mod_lt n (by simp))
      have hfront := ih (n / 10) (by omega) (by omega)
      have hsum : n / 10 * 10 + (n % 10) = n := by omega
      rw [Nat.toDigits_of_base_le (by simp) (by omega), addDigits_concat hfront (by omega), hdigit, hsum]
      simp

/-- Only zero is written with a leading zero. -/
theorem head?_toDigits_ne_zero {n : Nat} (h : 0 < n) : (Nat.toDigits 10 n).head? ≠ some '0' := by
  induction n using Nat.strongRecOn with
  | ind n ih =>
    by_cases hsmall : n < 10
    · rw [Nat.toDigits_of_lt_base hsmall]
      interval_cases n <;> decide
    · have hfront := ih (n / 10) (by omega) (by omega)
      rw [Nat.toDigits_of_base_le (by simp) (by omega)]
      rwa [List.head?_append_of_ne_nil _ Nat.toDigits_ne_nil]

theorem natural_toDigits {n : Nat} (h : n ≤ maxNatural) : Natural (Nat.toDigits 10 n) n := by
  have hdigits : Digits (Nat.toDigits 10 n) :=
    ⟨Nat.toDigits_ne_nil, fun c hc => Nat.isDigit_of_mem_toDigits (by simp) (by simp) hc⟩
  refine ⟨⟨hdigits, fun hhead => ?_⟩, _, addDigits_toDigits h⟩
  by_cases hn : n = 0
  · subst hn
    rfl
  · exact absurd hhead (head?_toDigits_ne_zero (Nat.pos_of_ne_zero hn))

end DocMark.Json
