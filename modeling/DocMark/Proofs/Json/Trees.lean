-- SUMMARY: JSON texts as trees of their pieces, and which texts spell a tree.
import Mathlib
import DocMark.Proofs.Json.Spelling

/-!
# Syntax trees of JSON texts

A tree keeps strings and numbers as they are written and leaves out the blanks between the pieces of a text. The
grammar is that of JSON: a string may have an escape for half of a surrogate pair, and a number may be as great
as it likes. Such a string stands for no text, and such a number for none that can be computed with, but both
may stand where a value is passed over.
-/
namespace DocMark.Json

-- ---------------------------------------------------------------------------
-- Strings
-- ---------------------------------------------------------------------------

/-- Four hexadecimal digits and their number. -/
inductive HexNumber : List Char → Nat → Prop where
  | mk {a b c d : Char} {w x y z : Nat} (ha : hexValue? a = some w) (hb : hexValue? b = some x)
      (hc : hexValue? c = some y) (hd : hexValue? d = some z) :
      HexNumber [a, b, c, d] (((w * 16 + x) * 16 + y) * 16 + z)

/-- What may stand between the quotes of a string. -/
inductive StringContent : List Char → Prop where
  | nil : StringContent []
  | plain {c : Char} {cs : List Char} (hcontrol : 32 ≤ c.toNat) (hquote : c ≠ '"') (hslash : c ≠ '\\')
      (h : StringContent cs) : StringContent (c :: cs)
  | letter {e : Char} {cs : List Char} (he : (escapeLetter? e).isSome = true) (h : StringContent cs) :
      StringContent ('\\' :: e :: cs)
  | number {digits cs : List Char} {n : Nat} (hdigits : HexNumber digits n) (h : StringContent cs) :
      StringContent ('\\' :: 'u' :: (digits ++ cs))

/-- What the content of a string stands for. A number beyond the reach of one escape is written as two halves. -/
inductive Unescaped : List Char → List Char → Prop where
  | nil : Unescaped [] []
  | plain {c : Char} {cs xs : List Char} (hcontrol : 32 ≤ c.toNat) (hquote : c ≠ '"') (hslash : c ≠ '\\')
      (h : Unescaped cs xs) : Unescaped (c :: cs) (c :: xs)
  | letter {e x : Char} {cs xs : List Char} (he : escapeLetter? e = some x) (h : Unescaped cs xs) :
      Unescaped ('\\' :: e :: cs) (x :: xs)
  | number {digits cs xs : List Char} {n : Nat} (hdigits : HexNumber digits n) (hlow : isLowHalf n = false)
      (hhigh : isHighHalf n = false) (h : Unescaped cs xs) :
      Unescaped ('\\' :: 'u' :: (digits ++ cs)) (Char.ofNat n :: xs)
  | halves {digits lowDigits cs xs : List Char} {high low : Nat} (hdigits : HexNumber digits high)
      (hhigh : isHighHalf high = true) (hlowDigits : HexNumber lowDigits low) (hlow : isLowHalf low = true)
      (h : Unescaped cs xs) :
      Unescaped ('\\' :: 'u' :: (digits ++ '\\' :: 'u' :: (lowDigits ++ cs)))
        (Char.ofNat (0x10000 + (high - 0xD800) * 0x400 + (low - 0xDC00)) :: xs)

theorem Unescaped.stringContent {cs xs : List Char} (h : Unescaped cs xs) : StringContent cs := by
  induction h with
  | nil => exact .nil
  | plain hcontrol hquote hslash _ ih => exact .plain hcontrol hquote hslash ih
  | letter he _ ih => exact .letter (by rw [he]; rfl) ih
  | number hdigits _ _ _ ih => exact .number hdigits ih
  | halves hdigits _ hlowDigits _ _ ih => exact .number hdigits (.number hlowDigits ih)

theorem hexValue?_hexDigit {n : Nat} (h : n < 16) : hexValue? (hexDigit n) = some n := by
  interval_cases n <;> decide

/-- What is written for a character stands for it. -/
theorem Unescaped.escapeChar {cs xs : List Char} (c : Char) (h : Unescaped cs xs) :
    Unescaped (escapeChar c ++ cs) (c :: xs) := by
  unfold Json.escapeChar
  split_ifs with hquote hslash hn hr ht hb hf hcontrol
  · subst hquote
    exact .letter rfl h
  · subst hslash
    exact .letter rfl h
  · subst hn
    exact .letter rfl h
  · subst hr
    exact .letter rfl h
  · subst ht
    exact .letter rfl h
  · subst hb
    exact .letter rfl h
  · subst hf
    exact .letter rfl h
  · -- A control character without a letter of its own is written as its number.
    have hdigits : HexNumber ['0', '0', hexDigit (c.toNat / 16), hexDigit (c.toNat % 16)]
        (((0 * 16 + 0) * 16 + c.toNat / 16) * 16 + c.toNat % 16) :=
      .mk rfl rfl (hexValue?_hexDigit (by omega)) (hexValue?_hexDigit (by omega))
    have hsum : ((0 * 16 + 0) * 16 + c.toNat / 16) * 16 + c.toNat % 16 = c.toNat := by omega
    rw [hsum] at hdigits
    have hlow : isLowHalf c.toNat = false := by simp [isLowHalf]; omega
    have hhigh : isHighHalf c.toNat = false := by simp [isHighHalf]; omega
    have hnumber := Unescaped.number hdigits hlow hhigh h
    rwa [Char.ofNat_toNat] at hnumber
  · exact .plain (Nat.not_lt.mp hcontrol) hquote hslash h

theorem unescaped_escaped (xs : List Char) : Unescaped (xs.flatMap Json.escapeChar) xs := by
  induction xs with
  | nil => exact .nil
  | cons c xs ih => exact ih.escapeChar c

/-- Characters that are written as they are stand for themselves. -/
theorem unescaped_self {cs : List Char} (h : ∀ c ∈ cs, 32 ≤ c.toNat ∧ c ≠ '"' ∧ c ≠ '\\') :
    Unescaped cs cs := by
  induction cs with
  | nil => exact .nil
  | cons c cs ih =>
    obtain ⟨⟨hcontrol, hquote, hslash⟩, hcs⟩ := List.forall_mem_cons.mp h
    exact .plain hcontrol hquote hslash (ih hcs)

-- ---------------------------------------------------------------------------
-- Numbers
-- ---------------------------------------------------------------------------

/-- One or more digits. -/
def Digits (cs : List Char) : Prop := cs ≠ [] ∧ ∀ c ∈ cs, c.isDigit = true

/-- Digits without a leading zero. -/
def WholeNumber (cs : List Char) : Prop := Digits cs ∧ (cs.head? = some '0' → cs = ['0'])

inductive FractionPart : List Char → Prop where
  | none : FractionPart []
  | some {cs : List Char} (h : Digits cs) : FractionPart ('.' :: cs)

inductive ExponentPart : List Char → Prop where
  | none : ExponentPart []
  | some {e : Char} {sign cs : List Char} (he : e = 'e' ∨ e = 'E')
      (hsign : sign = [] ∨ sign = ['+'] ∨ sign = ['-']) (h : Digits cs) : ExponentPart (e :: (sign ++ cs))

inductive UnsignedNumber : List Char → Prop where
  | mk {whole fraction exponent : List Char} (hwhole : WholeNumber whole) (hfraction : FractionPart fraction)
      (hexponent : ExponentPart exponent) : UnsignedNumber (whole ++ (fraction ++ exponent))

theorem UnsignedNumber.exists_digit {cs : List Char} (h : UnsignedNumber cs) :
    ∃ c more, cs = c :: more ∧ c.isDigit = true := by
  obtain ⟨⟨hdigits, -⟩, -, -⟩ := h
  rename_i whole fraction exponent
  obtain _ | ⟨c, whole⟩ := whole
  · exact absurd rfl hdigits.1
  · exact ⟨c, _, rfl, hdigits.2 c (List.mem_cons_self ..)⟩

inductive NumberText : List Char → Prop where
  | unsigned {cs : List Char} (h : UnsignedNumber cs) : NumberText cs
  | negative {cs : List Char} (h : UnsignedNumber cs) : NumberText ('-' :: cs)

-- ---------------------------------------------------------------------------
-- Trees
-- ---------------------------------------------------------------------------

inductive Tree where
  | null
  | bool (b : Bool)
  | number (written : List Char)
  | string (written : List Char)
  | array (elements : List Tree)
  | object (members : List (List Char × Tree))

namespace Tree

mutual

inductive Spells : Tree → List Char → Prop where
  | null : Spells .null "null".toList
  | bool (b : Bool) : Spells (.bool b) (if b then "true".toList else "false".toList)
  | number {cs : List Char} (h : NumberText cs) : Spells (.number cs) cs
  | string {cs : List Char} (h : StringContent cs) : Spells (.string cs) ('"' :: (cs ++ ['"']))
  | array {elements : List Tree} {cs : List Char} (h : Listed ']' Spells elements cs) :
      Spells (.array elements) ('[' :: cs)
  | object {members : List (List Char × Tree)} {cs : List Char}
      (h : Listed '}' SpellsMember members cs) : Spells (.object members) ('{' :: cs)

inductive SpellsMember : List Char × Tree → List Char → Prop where
  | mk {key : List Char} {t : Tree} {before after cs : List Char} (hkey : StringContent key)
      (hbefore : AllBlank before) (hafter : AllBlank after) (ht : Spells t cs) :
      SpellsMember (key, t) ('"' :: (key ++ '"' :: (before ++ ':' :: (after ++ cs))))

end

/-- The first character of a tree's text. -/
def Opens : Tree → Char → Prop
  | null, c => c = 'n'
  | bool b, c => c = if b then 't' else 'f'
  | number _, c => c = '-' ∨ c.isDigit = true
  | string _, c => c = '"'
  | array _, c => c = '['
  | object _, c => c = '\x7b'

theorem Spells.opens {t : Tree} {cs : List Char} (h : t.Spells cs) : ∃ c more, cs = c :: more ∧ t.Opens c := by
  cases h with
  | null => exact ⟨'n', _, rfl, rfl⟩
  | bool b => cases b <;> exact ⟨_, _, rfl, rfl⟩
  | number h =>
    cases h with
    | negative h => exact ⟨'-', _, rfl, .inl rfl⟩
    | unsigned h =>
      obtain ⟨c, more, hcs, hc⟩ := h.exists_digit
      exact ⟨c, more, hcs, .inr hc⟩
  | string h => exact ⟨'"', _, rfl, rfl⟩
  | array h => exact ⟨'[', _, rfl, rfl⟩
  | object h => exact ⟨'\x7b', _, rfl, rfl⟩

theorem Opens.isBlank {t : Tree} {c : Char} (h : t.Opens c) : isBlank c = false := by
  cases t with
  | bool b =>
    subst h
    cases b <;> rfl
  | number written =>
    rcases h with rfl | h
    · rfl
    · exact isBlank_of_isDigit h
  | _ =>
    subst h
    rfl

theorem Opens.ne_bracket {t : Tree} {c : Char} (h : t.Opens c) : c ≠ ']' := by
  rintro rfl
  cases t with
  | bool b => cases b <;> cases h
  | number written => rcases h with h | h <;> cases h
  | _ => cases h

theorem Spells.beginsItem {t : Tree} {cs : List Char} (h : t.Spells cs) : BeginsItem ']' cs := by
  obtain ⟨c, more, hcs, hc⟩ := h.opens
  exact ⟨c, more, hcs, hc.isBlank, hc.ne_bracket⟩

theorem SpellsMember.quote {m : List Char × Tree} {cs : List Char} (h : SpellsMember m cs) :
    ∃ more, cs = '"' :: more := by
  cases h
  exact ⟨_, rfl⟩

/-- A text spells a tree, perhaps with blanks around it. -/
def SpelledIn (t : Tree) (text : String) : Prop :=
  ∃ before cs after, text.toList = before ++ (cs ++ after) ∧ AllBlank before ∧ t.Spells cs ∧ AllBlank after

end Tree

end DocMark.Json
