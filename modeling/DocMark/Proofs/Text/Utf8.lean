-- SUMMARY: What is encoded as UTF-8 is decoded to the same text.
import Mathlib
import DocMark.Proofs.Text.Utf16
import DocMark.Text.Utf8

/-!
# Decoding what was encoded

The leading byte of a character gives its high bits and ranges in which the bytes behind it lie. Each of these
gives six bits more. So the decoder has the character's number after its last byte.
-/
namespace DocMark.Text.Utf8

-- ---------------------------------------------------------------------------
-- Single bytes
-- ---------------------------------------------------------------------------

section Bytes

variable {b : UInt8} {range next : ByteRange} {ranges : List ByteRange}

theorem decodeFrom_single {n : Nat} (h : leading? b.toNat = some (n, [])) (start value index : Nat)
    (bs : List UInt8) : decodeFrom start value [] index (b :: bs) =
      (Char.ofNat n :: ·) <$> decodeFrom index 0 [] (index + 1) bs := by
  simp only [decodeFrom, h]

theorem decodeFrom_leading {n : Nat} (h : leading? b.toNat = some (n, range :: ranges))
    (start value index : Nat) (bs : List UInt8) : decodeFrom start value [] index (b :: bs) =
      decodeFrom index n (range :: ranges) (index + 1) bs := by
  simp only [decodeFrom, h]

theorem decodeFrom_middle (h : range.1 ≤ b.toNat ∧ b.toNat ≤ range.2) (start value index : Nat)
    (bs : List UInt8) : decodeFrom start value (range :: next :: ranges) index (b :: bs) =
      decodeFrom start (0x40 * value + (b.toNat - 0x80)) (next :: ranges) (index + 1) bs := by
  simp only [decodeFrom, if_pos h]

theorem decodeFrom_last (h : range.1 ≤ b.toNat ∧ b.toNat ≤ range.2) (start value index : Nat)
    (bs : List UInt8) : decodeFrom start value [range] index (b :: bs) =
      (Char.ofNat (0x40 * value + (b.toNat - 0x80)) :: ·) <$> decodeFrom index 0 [] (index + 1) bs := by
  simp only [decodeFrom, if_pos h]

end Bytes

-- ---------------------------------------------------------------------------
-- Leading bytes
-- ---------------------------------------------------------------------------

/-- The byte behind a continuation mark. -/
theorem toNat_continuation (n : Nat) : (UInt8.ofNat (0x80 + n % 0x40)).toNat = 0x80 + n % 0x40 := by
  simp only [UInt8.toNat_ofNat']
  omega

theorem continuation_range (n : Nat) :
    continuation.1 ≤ 0x80 + n % 0x40 ∧ 0x80 + n % 0x40 ≤ continuation.2 := by
  simp only [continuation]
  omega

theorem leading?_two {n : Nat} (hlow : 0x80 ≤ n) (hhigh : n < 0x800) :
    leading? (0xC0 + n / 0x40) = some (n / 0x40, [continuation]) := by
  rw [leading?, if_neg (by omega), if_pos (by omega), Nat.add_sub_cancel_left]

/-- The first byte of three restricts the second one to where no surrogate is. -/
theorem leading?_three {n : Nat} (hlow : 0x800 ≤ n) (hhigh : n < 0x10000)
    (hsurrogate : n < 0xD800 ∨ 0xDFFF < n) :
    ∃ range, leading? (0xE0 + n / 0x1000) = some (n / 0x1000, [range, continuation])
      ∧ range.1 ≤ 0x80 + n / 0x40 % 0x40 ∧ 0x80 + n / 0x40 % 0x40 ≤ range.2 := by
  rw [leading?, if_neg (by omega), if_neg (by omega), if_pos (by omega), Nat.add_sub_cancel_left]
  refine ⟨_, rfl, ?_⟩
  split_ifs <;> simp only [continuation] <;> omega

theorem leading?_four {n : Nat} (hlow : 0x10000 ≤ n) (hhigh : n < 0x110000) :
    ∃ range, leading? (0xF0 + n / 0x40000) = some (n / 0x40000, [range, continuation, continuation])
      ∧ range.1 ≤ 0x80 + n / 0x1000 % 0x40 ∧ 0x80 + n / 0x1000 % 0x40 ≤ range.2 := by
  rw [leading?, if_neg (by omega), if_neg (by omega), if_neg (by omega), if_pos (by omega),
    Nat.add_sub_cancel_left]
  refine ⟨_, rfl, ?_⟩
  split_ifs <;> simp only [continuation] <;> omega

-- ---------------------------------------------------------------------------
-- Characters and texts
-- ---------------------------------------------------------------------------

/-- Behind a character the decoder stands between characters again. -/
theorem decodeFrom_encodeChar (c : Char) (start value index : Nat) (bs : List UInt8) :
    ∃ start' index', decodeFrom start value [] index (encodeChar c ++ bs) =
      (c :: ·) <$> decodeFrom start' 0 [] index' bs := by
  have hlimit := Utf16.toNat_lt_limit c
  have hsurrogate := Utf16.toNat_lt_surrogates_or_gt c
  have hc := Char.ofNat_toNat c
  generalize hn : c.toNat = n at hlimit hsurrogate hc
  simp only [encodeChar, hn]
  split_ifs with hone htwo hthree
  · have hb : (UInt8.ofNat n).toNat = n := by
      simp only [UInt8.toNat_ofNat']
      omega
    have hlead : leading? (UInt8.ofNat n).toNat = some (n, []) := by rw [hb, leading?, if_pos hone]
    rw [List.cons_append, decodeFrom_single hlead, hc]
    exact ⟨_, _, rfl⟩
  · have hb : (UInt8.ofNat (0xC0 + n / 0x40)).toNat = 0xC0 + n / 0x40 := by
      simp only [UInt8.toNat_ofNat']
      omega
    have hlead := leading?_two (not_lt.mp hone) htwo
    rw [← hb] at hlead
    have hnumber : 0x40 * (n / 0x40) + (0x80 + n % 0x40 - 0x80) = n := by omega
    simp only [List.cons_append, List.nil_append]
    rw [decodeFrom_leading hlead, decodeFrom_last (by rw [toNat_continuation]; exact continuation_range n),
      toNat_continuation, hnumber, hc]
    exact ⟨_, _, rfl⟩
  · have hb : (UInt8.ofNat (0xE0 + n / 0x1000)).toNat = 0xE0 + n / 0x1000 := by
      simp only [UInt8.toNat_ofNat']
      omega
    obtain ⟨range, hlead, hrange⟩ := leading?_three (not_lt.mp htwo) hthree hsurrogate
    rw [← hb] at hlead
    have hnumber : 0x40 * (0x40 * (n / 0x1000) + (0x80 + n / 0x40 % 0x40 - 0x80))
        + (0x80 + n % 0x40 - 0x80) = n := by omega
    simp only [List.cons_append, List.nil_append]
    rw [decodeFrom_leading hlead, decodeFrom_middle (by rwa [toNat_continuation]),
      decodeFrom_last (by rw [toNat_continuation]; exact continuation_range n), toNat_continuation,
      toNat_continuation, hnumber, hc]
    exact ⟨_, _, rfl⟩
  · have hb : (UInt8.ofNat (0xF0 + n / 0x40000)).toNat = 0xF0 + n / 0x40000 := by
      simp only [UInt8.toNat_ofNat']
      omega
    obtain ⟨range, hlead, hrange⟩ := leading?_four (not_lt.mp hthree) hlimit
    rw [← hb] at hlead
    have hnumber : 0x40 * (0x40 * (0x40 * (n / 0x40000) + (0x80 + n / 0x1000 % 0x40 - 0x80))
        + (0x80 + n / 0x40 % 0x40 - 0x80)) + (0x80 + n % 0x40 - 0x80) = n := by omega
    simp only [List.cons_append, List.nil_append]
    rw [decodeFrom_leading hlead, decodeFrom_middle (by rwa [toNat_continuation]),
      decodeFrom_middle (by rw [toNat_continuation]; exact continuation_range (n / 0x40)),
      decodeFrom_last (by rw [toNat_continuation]; exact continuation_range n), toNat_continuation,
      toNat_continuation, toNat_continuation, hnumber, hc]
    exact ⟨_, _, rfl⟩

theorem decodeFrom_encode (cs : List Char) (start value index : Nat) :
    decodeFrom start value [] index (encode cs) = .ok cs := by
  induction cs generalizing start value index with
  | nil => rfl
  | cons c cs ih =>
    obtain ⟨start', index', hchar⟩ := decodeFrom_encodeChar c start value index (encode cs)
    have hencode : encode (c :: cs) = encodeChar c ++ encode cs := rfl
    rw [hencode, hchar, ih]
    rfl

/-- What is encoded as UTF-8 is decoded to the same text. -/
theorem decode_encode (cs : List Char) : decode (encode cs) = .ok cs := decodeFrom_encode cs 0 0 0

end DocMark.Text.Utf8
