-- SUMMARY: Well-formed UTF-16: encoding and decoding are inverse, and where a well-formed text may be cut.
import Mathlib
import DocMark.Text.Utf16

/-!
# Well-formed code units

A sequence of code units is well formed if every high half is followed by a low half and every low
half follows a high one. Encoded texts are well formed, and a well-formed sequence is the encoding
of what it decodes to. Two well-formed sequences may be joined, and one may be cut
anywhere but before a low half. Pieces that are decoded apart give the text of the whole if and only if
they are cut at such places.
-/
namespace DocMark.Text.Utf16

/-- Whether surrogate halves come in pairs only. -/
def isWellFormed : List UInt16 → Bool
  | [] => true
  | [u] => !isHigh u && !isLow u
  | u :: v :: rest =>
    if isHigh u then isLow v && isWellFormed rest else !isLow u && isWellFormed (v :: rest)

/-! ## Single characters -/

theorem toNat_lt_surrogates_or_gt (c : Char) : c.toNat < 0xD800 ∨ 0xDFFF < c.toNat := by
  have h : c.toNat.isValidChar := c.valid
  simp only [Nat.isValidChar] at h
  omega

theorem toNat_lt_limit (c : Char) : c.toNat < 0x110000 := by
  have h : c.toNat.isValidChar := c.valid
  simp only [Nat.isValidChar] at h
  omega

theorem isHigh_iff {u : UInt16} : isHigh u = true ↔ 0xD800 ≤ u.toNat ∧ u.toNat ≤ 0xDBFF := by
  simp [isHigh]

theorem isLow_iff {u : UInt16} : isLow u = true ↔ 0xDC00 ≤ u.toNat ∧ u.toNat ≤ 0xDFFF := by
  simp [isLow]

theorem not_isLow_of_isHigh {u : UInt16} (h : isHigh u = true) : isLow u = false := by
  rw [isHigh_iff] at h
  rw [Bool.eq_false_iff, Ne, isLow_iff]
  omega

theorem not_isHigh_of_isLow {u : UInt16} (h : isLow u = true) : isHigh u = false := by
  cases hhigh : isHigh u with
  | true => exact absurd h (by simp [not_isLow_of_isHigh hhigh])
  | false => rfl

theorem toNat_highHalf {n : Nat} (h : n < 0x110000) :
    (highHalf n).toNat = 0xD800 + (n - 0x10000) / 0x400 := by
  simp only [highHalf, UInt16.toNat_ofNat']
  omega

theorem toNat_lowHalf (n : Nat) : (lowHalf n).toNat = 0xDC00 + (n - 0x10000) % 0x400 := by
  simp only [lowHalf, UInt16.toNat_ofNat']
  omega

theorem isHigh_highHalf {n : Nat} (h : n < 0x110000) : isHigh (highHalf n) = true := by
  rw [isHigh_iff, toNat_highHalf h]
  omega

theorem isLow_lowHalf (n : Nat) : isLow (lowHalf n) = true := by
  rw [isLow_iff, toNat_lowHalf]
  omega

/-- A character below `0x10000` is a unit of its own, and that unit is no half. -/
theorem narrow_unit {c : Char} (h : c.toNat < 0x10000) :
    (UInt16.ofNat c.toNat).toNat = c.toNat ∧ isHigh (UInt16.ofNat c.toNat) = false
      ∧ isLow (UInt16.ofNat c.toNat) = false := by
  have hn : (UInt16.ofNat c.toNat).toNat = c.toNat := by
    simp only [UInt16.toNat_ofNat']
    omega
  have hc := toNat_lt_surrogates_or_gt c
  refine ⟨hn, ?_, ?_⟩
  · rw [Bool.eq_false_iff, Ne, isHigh_iff, hn]
    omega
  · rw [Bool.eq_false_iff, Ne, isLow_iff, hn]
    omega

theorem joinHalves_halves {c : Char} (h : 0x10000 ≤ c.toNat) :
    joinHalves (highHalf c.toNat) (lowHalf c.toNat) = c := by
  have hn : 0x10000 + ((highHalf c.toNat).toNat - 0xD800) * 0x400
      + ((lowHalf c.toNat).toNat - 0xDC00) = c.toNat := by
    rw [toNat_highHalf (toNat_lt_limit c), toNat_lowHalf]
    omega
  rw [joinHalves, hn, Char.ofNat_toNat]

/-! ## Decoding what was encoded -/

/-- A unit that is no half decodes to its own character, whatever follows it. -/
theorem decode_cons_of_whole {u : UInt16} (hh : isHigh u = false) (hl : isLow u = false)
    (rest : List UInt16) : decode (u :: rest) = Char.ofNat u.toNat :: decode rest := by
  cases rest with
  | nil => simp [decode, hh, hl]
  | cons v rest => simp [decode, hh, hl]

theorem decode_pair {u v : UInt16} (hh : isHigh u = true) (hl : isLow v = true)
    (rest : List UInt16) : decode (u :: v :: rest) = joinHalves u v :: decode rest := by
  simp [decode, hh, hl]

theorem decode_encodeChar_append (c : Char) (us : List UInt16) :
    decode (encodeChar c ++ us) = c :: decode us := by
  by_cases h : c.toNat < 0x10000
  · obtain ⟨hn, hh, hl⟩ := narrow_unit h
    simp only [encodeChar, h, if_true, List.cons_append, List.nil_append]
    rw [decode_cons_of_whole hh hl, hn, Char.ofNat_toNat]
  · simp only [encodeChar, h, if_false, List.cons_append, List.nil_append]
    rw [decode_pair (isHigh_highHalf (toNat_lt_limit c)) (isLow_lowHalf _),
      joinHalves_halves (by omega)]

@[simp] theorem encode_nil : encode [] = [] := rfl

@[simp] theorem encode_cons (c : Char) (cs : List Char) :
    encode (c :: cs) = encodeChar c ++ encode cs := rfl

theorem encode_append (cs ds : List Char) : encode (cs ++ ds) = encode cs ++ encode ds :=
  List.flatMap_append

theorem decode_encode_append (cs : List Char) (us : List UInt16) :
    decode (encode cs ++ us) = cs ++ decode us := by
  induction cs with
  | nil => rfl
  | cons c cs ih =>
    rw [encode_cons, List.append_assoc, decode_encodeChar_append, ih, List.cons_append]

theorem decode_encode (cs : List Char) : decode (encode cs) = cs := by
  simpa [decode] using decode_encode_append cs []

theorem length_encodeChar (c : Char) : (encodeChar c).length = width c := by
  unfold encodeChar width
  split <;> rfl

theorem length_encode (s : String) : (encode s.toList).length = length s := by
  unfold length
  induction s.toList with
  | nil => rfl
  | cons c cs ih => rw [encode_cons, List.length_append, length_encodeChar, ih, List.foldr_cons]

theorem encodeChar_ne_nil (c : Char) : encodeChar c ≠ [] := by
  unfold encodeChar
  split <;> simp

theorem encode_eq_nil_iff {cs : List Char} : encode cs = [] ↔ cs = [] := by
  cases cs with
  | nil => simp
  | cons c cs => simp [encodeChar_ne_nil]

/-! ## Encoding what was decoded -/

theorem toNat_ofNat {n : Nat} (h : n.isValidChar) : (Char.ofNat n).toNat = n := by
  rw [Char.ofNat, dif_pos h]
  exact UInt32.toNat_ofNatLT

theorem encode_ofNat_of_whole {u : UInt16} (hh : isHigh u = false) (hl : isLow u = false) :
    encodeChar (Char.ofNat u.toNat) = [u] := by
  have hu := u.toNat_lt
  have hh' : ¬(0xD800 ≤ u.toNat ∧ u.toNat ≤ 0xDBFF) := by simp [← isHigh_iff, hh]
  have hl' : ¬(0xDC00 ≤ u.toNat ∧ u.toNat ≤ 0xDFFF) := by simp [← isLow_iff, hl]
  have hv : u.toNat.isValidChar := by
    simp only [Nat.isValidChar]
    omega
  rw [encodeChar, toNat_ofNat hv, if_pos (by omega)]
  simp

theorem encode_joinHalves {u v : UInt16} (hh : isHigh u = true) (hl : isLow v = true) :
    encodeChar (joinHalves u v) = [u, v] := by
  rw [isHigh_iff] at hh
  rw [isLow_iff] at hl
  have hv : (0x10000 + (u.toNat - 0xD800) * 0x400 + (v.toNat - 0xDC00)).isValidChar := by
    simp only [Nat.isValidChar]
    omega
  have hn : (joinHalves u v).toNat = 0x10000 + (u.toNat - 0xD800) * 0x400 + (v.toNat - 0xDC00) :=
    toNat_ofNat hv
  have hu : highHalf (joinHalves u v).toNat = u := by
    apply UInt16.toNat_inj.mp
    rw [toNat_highHalf (toNat_lt_limit _), hn]
    omega
  have hw : lowHalf (joinHalves u v).toNat = v := by
    apply UInt16.toNat_inj.mp
    rw [toNat_lowHalf, hn]
    omega
  rw [encodeChar, if_neg (by omega), hu, hw]

/-- Nothing is lost in decoding well-formed units. -/
theorem encode_decode {us : List UInt16} (h : isWellFormed us = true) : encode (decode us) = us := by
  induction us using isWellFormed.induct with
  | case1 => rfl
  | case2 u =>
    simp only [isWellFormed, Bool.and_eq_true, Bool.not_eq_true'] at h
    simp [decode, h.1, h.2, encode_ofNat_of_whole h.1 h.2]
  | case3 u v rest hu ih =>
    simp only [isWellFormed, hu, if_true, Bool.and_eq_true] at h
    rw [decode_pair hu h.1, encode_cons, encode_joinHalves hu h.1, ih h.2]
    rfl
  | case4 u v rest hu ih =>
    rw [Bool.not_eq_true] at hu
    simp only [isWellFormed, hu, Bool.false_eq_true, if_false, Bool.and_eq_true,
      Bool.not_eq_true'] at h
    rw [decode_cons_of_whole hu h.1, encode_cons, encode_ofNat_of_whole hu h.1, ih h.2]
    rfl

/-- A half that is replaced counts as one unit still, so decoding changes no length. -/
theorem length_encode_decode (us : List UInt16) : (encode (decode us)).length = us.length := by
  have hreplaced : (encodeChar replacement).length = 1 := by decide
  have hwhole {u : UInt16} (hh : ¬isHigh u = true) (hl : ¬isLow u = true) :
      (encodeChar (Char.ofNat u.toNat)).length = 1 := by
    rw [encode_ofNat_of_whole (by simpa using hh) (by simpa using hl), List.length_singleton]
  induction us using decode.induct with
  | case1 => rfl
  | case2 u =>
    rw [decode, encode_cons, encode_nil, List.append_nil]
    split
    · exact hreplaced
    · rename_i hhalf
      rw [Bool.or_eq_true, not_or] at hhalf
      exact hwhole hhalf.1 hhalf.2
  | case3 u v rest hh hl ih =>
    rw [decode_pair hh hl, encode_cons, encode_joinHalves hh hl, List.length_append, ih]
    exact Nat.add_comm ..
  | case4 u v rest hh hl ih =>
    rw [decode, if_pos hh, if_neg hl, encode_cons, List.length_append, hreplaced, ih]
    exact Nat.add_comm ..
  | case5 u v rest hh hl ih =>
    rw [decode, if_neg hh, if_pos hl, encode_cons, List.length_append, hreplaced, ih]
    exact Nat.add_comm ..
  | case6 u v rest hh hl ih =>
    rw [decode, if_neg hh, if_neg hl, encode_cons, List.length_append, hwhole hh hl, ih]
    exact Nat.add_comm ..

/-! ## Joining and cutting -/

theorem isWellFormed_cons_of_whole {u : UInt16} (hh : isHigh u = false) (hl : isLow u = false)
    (us : List UInt16) : isWellFormed (u :: us) = isWellFormed us := by
  cases us with
  | nil => simp [isWellFormed, hh, hl]
  | cons v us => simp [isWellFormed, hh, hl]

theorem isWellFormed_pair {u v : UInt16} (hh : isHigh u = true) (hl : isLow v = true)
    (us : List UInt16) : isWellFormed (u :: v :: us) = isWellFormed us := by
  simp [isWellFormed, hh, hl]

theorem isWellFormed_encode_append (cs : List Char) (us : List UInt16) :
    isWellFormed (encode cs ++ us) = isWellFormed us := by
  induction cs with
  | nil => rfl
  | cons c cs ih =>
    rw [encode_cons, List.append_assoc]
    by_cases h : c.toNat < 0x10000
    · obtain ⟨-, hh, hl⟩ := narrow_unit h
      simp only [encodeChar, h, if_true, List.cons_append, List.nil_append]
      rw [isWellFormed_cons_of_whole hh hl, ih]
    · simp only [encodeChar, h, if_false, List.cons_append, List.nil_append]
      rw [isWellFormed_pair (isHigh_highHalf (toNat_lt_limit c)) (isLow_lowHalf _), ih]

theorem isWellFormed_encode (cs : List Char) : isWellFormed (encode cs) = true := by
  simpa [isWellFormed] using isWellFormed_encode_append cs []

theorem isWellFormed_append {us vs : List UInt16} (hu : isWellFormed us = true) :
    isWellFormed (us ++ vs) = isWellFormed vs := by
  rw [← encode_decode hu, isWellFormed_encode_append]

/-- No text begins with a low half. -/
theorem head_not_isLow {us : List UInt16} (h : isWellFormed us = true) :
    us.head?.any isLow = false := by
  match us with
  | [] => rfl
  | [u] =>
    simp only [isWellFormed, Bool.and_eq_true, Bool.not_eq_true'] at h
    simpa using h.2
  | u :: v :: rest =>
    cases hu : isHigh u with
    | true => simpa using not_isLow_of_isHigh hu
    | false =>
      simp only [isWellFormed, hu, Bool.false_eq_true, if_false, Bool.and_eq_true,
        Bool.not_eq_true'] at h
      simpa using h.1

/-- A text may be cut in two anywhere but before a low half. -/
theorem isWellFormed_left_of_append {us vs : List UInt16} (h : isWellFormed (us ++ vs) = true)
    (hv : vs.head?.any isLow = false) : isWellFormed us = true := by
  induction us using isWellFormed.induct with
  | case1 => rfl
  | case2 u =>
    cases vs with
    | nil => simpa using h
    | cons v vs =>
      have hv' : isLow v = false := by simpa using hv
      cases hu : isHigh u with
      | true => simp [isWellFormed, hu, hv'] at h
      | false =>
        simp only [List.cons_append, List.nil_append, isWellFormed, hu, Bool.false_eq_true,
          if_false, Bool.and_eq_true, Bool.not_eq_true'] at h
        simp [isWellFormed, hu, h.1]
  | case3 u v rest hu ih =>
    simp only [List.cons_append, isWellFormed, hu, if_true, Bool.and_eq_true] at h
    simp only [isWellFormed, hu, if_true, Bool.and_eq_true]
    exact ⟨h.1, ih h.2⟩
  | case4 u v rest hu ih =>
    rw [Bool.not_eq_true] at hu
    simp only [List.cons_append, isWellFormed, hu, Bool.false_eq_true, if_false,
      Bool.and_eq_true] at h
    simp only [isWellFormed, hu, Bool.false_eq_true, if_false, Bool.and_eq_true]
    exact ⟨h.1, ih h.2⟩

/-! ## Pieces that are decoded apart -/

theorem isWellFormed_iff {us : List UInt16} : isWellFormed us = true ↔ encode (decode us) = us := by
  refine ⟨encode_decode, fun h => ?_⟩
  rw [← h]
  exact isWellFormed_encode _

/-- Nothing is lost in decoding well-formed pieces one by one. -/
theorem flatMap_decode {pieces : List (List UInt16)} (h : ∀ p ∈ pieces, isWellFormed p = true) :
    pieces.flatMap decode = decode pieces.flatten := by
  induction pieces with
  | nil => rfl
  | cons p pieces ih =>
    obtain ⟨hp, hpieces⟩ := List.forall_mem_cons.mp h
    have hjoined : decode (p ++ pieces.flatten) = decode p ++ decode pieces.flatten := by
      conv_lhs => rw [← encode_decode hp]
      exact decode_encode_append _ _
    rw [List.flatMap_cons, ih hpieces, List.flatten_cons, hjoined]

/-- Pieces that keep their lengths and make up the same list are the same pieces. -/
theorem forall_mem_of_flatMap_eq_flatten {α : Type} {f : List α → List α} {pieces : List (List α)}
    (hlength : ∀ p, (f p).length = p.length) (h : pieces.flatMap f = pieces.flatten) :
    ∀ p ∈ pieces, f p = p := by
  induction pieces with
  | nil => exact List.forall_mem_nil _
  | cons p pieces ih =>
    obtain ⟨hp, hpieces⟩ := List.append_inj h (hlength p)
    exact List.forall_mem_cons.mpr ⟨hp, ih hpieces⟩

/-- The pieces of a well-formed sequence decode to the text of the whole if and only if each of them is
    well formed. -/
theorem flatMap_decode_eq_iff {pieces : List (List UInt16)} (h : isWellFormed pieces.flatten = true) :
    pieces.flatMap decode = decode pieces.flatten ↔ ∀ p ∈ pieces, isWellFormed p = true := by
  refine ⟨fun heq => ?_, flatMap_decode⟩
  have hencoded : pieces.flatMap (fun p => encode (decode p)) = pieces.flatten :=
    calc
      pieces.flatMap (fun p => encode (decode p)) = encode (pieces.flatMap decode) :=
        List.flatMap_assoc.symm
      _ = pieces.flatten := by rw [heq, encode_decode h]
  intro p hp
  exact isWellFormed_iff.mpr (forall_mem_of_flatMap_eq_flatten length_encode_decode hencoded p hp)

end DocMark.Text.Utf16
