-- SUMMARY: Pieces that stand in a text in their order, with nothing but gaps around them.
import Mathlib
import DocMark.Proofs.Text.Joining

/-!
# Pieces in a text

`Spaced gap pieces text` says that `text` is made of the pieces, each once and in their order, and of gaps:
characters with the property `gap` may stand before, between and behind the pieces. With a property that all
characters have, it says that the pieces occur in their order and without overlap.
-/
namespace DocMark.Text

/-- The pieces stand in the text in their order, and all other characters of the text are gaps. -/
inductive Spaced (gap : Char → Prop) : List String → String → Prop where
  | nil {text : String} : (∀ c ∈ text.toList, gap c) → Spaced gap [] text
  | cons {before piece text : String} {pieces : List String} : (∀ c ∈ before.toList, gap c) →
      Spaced gap pieces text → Spaced gap (piece :: pieces) (before ++ (piece ++ text))

namespace Spaced

variable {gap : Char → Prop} {pieces : List String} {text : String}

/-- Every piece occurs in the text. -/
theorem exists_eq_append_of_mem {piece : String} (h : Spaced gap pieces text) (hpiece : piece ∈ pieces) :
    ∃ before after, text = before ++ (piece ++ after) := by
  induction h with
  | nil htext => cases hpiece
  | @cons start first rest _ _ _ ih =>
    rcases List.mem_cons.mp hpiece with rfl | hpiece
    · exact ⟨start, rest, rfl⟩
    · obtain ⟨before, after, rfl⟩ := ih hpiece
      exact ⟨start ++ (first ++ before), after, by simp only [String.append_assoc]⟩

/-- A gap in front of a text is a gap in front of its first piece, or behind no piece at all. -/
theorem gap_append {start : String} (hstart : ∀ c ∈ start.toList, gap c) (h : Spaced gap pieces text) :
    Spaced gap pieces (start ++ text) := by
  cases h with
  | nil htext =>
    refine nil ?_
    rw [String.toList_append]
    exact List.forall_mem_append.mpr ⟨hstart, htext⟩
  | cons hbefore hrest =>
    rw [← String.append_assoc]
    refine cons ?_ hrest
    rw [String.toList_append]
    exact List.forall_mem_append.mpr ⟨hstart, hbefore⟩

/-- Pieces that are joined have no gaps. -/
theorem join (pieces : List String) : Spaced gap pieces (String.join pieces) := by
  induction pieces with
  | nil => exact nil (List.forall_mem_nil _)
  | cons piece pieces ih =>
    have hpiece : Spaced gap (piece :: pieces) ("" ++ (piece ++ String.join pieces)) :=
      cons (List.forall_mem_nil _) ih
    rwa [String.empty_append, ← String.join_cons] at hpiece

theorem single (piece : String) : Spaced gap [piece] piece := by
  have hpiece : Spaced gap [piece] ("" ++ (piece ++ "")) :=
    cons (List.forall_mem_nil _) (nil (List.forall_mem_nil _))
  rwa [String.empty_append, String.append_empty] at hpiece

/-- The pieces of two texts, where one follows the other. -/
theorem append {more : List String} {rest : String} (h : Spaced gap pieces text)
    (hrest : Spaced gap more rest) : Spaced gap (pieces ++ more) (text ++ rest) := by
  induction h with
  | nil htext => exact hrest.gap_append htext
  | cons hbefore _ ih =>
    rw [List.cons_append, String.append_assoc, String.append_assoc]
    exact cons hbefore ih

theorem intercalate {pieces : List (List String)} {texts : List String} {sep : String}
    (hsep : ∀ c ∈ sep.toList, gap c) (h : List.Forall₂ (Spaced gap) pieces texts) :
    Spaced gap pieces.flatten (sep.intercalate texts) := by
  induction h with
  | nil => exact nil (List.forall_mem_nil _)
  | @cons own text pieces texts hown hothers ih =>
    cases hothers with
    | nil =>
      rw [String.intercalate_singleton, List.flatten_singleton]
      exact hown
    | cons _ _ =>
      rw [String.intercalate_cons_cons, List.flatten_cons, String.append_assoc]
      exact hown.append (ih.gap_append hsep)

/-- Where a text is trimmed, pieces that do not end with white space are not touched. -/
theorem trimEnd (h : Spaced gap pieces text)
    (hpieces : ∀ piece ∈ pieces, ∀ c ∈ piece.toList.getLast?, isWhiteSpace c = false) :
    Spaced gap pieces (String.ofList (Text.trimEnd text.toList)) := by
  have hgap {s : String} (hs : ∀ c ∈ s.toList, gap c) :
      ∀ c ∈ (String.ofList (Text.trimEnd s.toList)).toList, gap c := by
    rw [String.toList_ofList]
    exact fun c hc => hs c (mem_of_mem_trimEnd hc)
  induction h with
  | nil htext => exact nil (hgap htext)
  | @cons before piece text pieces hbefore hrest ih =>
    obtain ⟨hpiece, hpieces⟩ := List.forall_mem_cons.mp hpieces
    have htrimmed := ih hpieces
    rw [String.toList_append, String.toList_append, trimEnd_append, trimEnd_append,
      trimEnd_eq_self hpiece]
    by_cases hblank : Text.trimEnd text.toList = []
    · -- Behind this piece there is nothing left.
      rw [hblank] at htrimmed ⊢
      rw [if_pos rfl]
      by_cases hempty : piece.toList = []
      · obtain rfl : piece = "" := String.toList_eq_nil_iff.mp hempty
        rw [if_pos hempty]
        have hcons : Spaced gap ("" :: pieces) _ := cons (hgap hbefore) htrimmed
        simpa using hcons
      · rw [if_neg hempty]
        have hcons : Spaced gap (piece :: pieces) _ := cons hbefore htrimmed
        simpa using hcons
    · rw [if_neg hblank, if_neg (by simp [hblank])]
      have hcons : Spaced gap (piece :: pieces) _ := cons hbefore htrimmed
      simpa using hcons

section Optional

variable {start rest : String} {piece? : Option String}

/-- A piece that may be missing, with the gap before it. -/
theorem consOptional (piece? : Option String) (hstart : ∀ c ∈ start.toList, gap c)
    (h : Spaced gap pieces rest) :
    Spaced gap (piece?.toList ++ pieces) (start ++ (piece?.getD "" ++ rest)) := by
  cases piece? with
  | none =>
    rw [Option.getD_none, String.empty_append]
    exact h.gap_append hstart
  | some piece => exact h.cons hstart

theorem exists_of_consOptional (h : Spaced gap (piece?.toList ++ pieces) text) :
    ∃ start rest, text = start ++ (piece?.getD "" ++ rest) ∧ (∀ c ∈ start.toList, gap c)
      ∧ Spaced gap pieces rest := by
  cases piece? with
  | none => exact ⟨"", text, by simp, List.forall_mem_nil _, h⟩
  | some piece =>
    cases h with
    | cons hbefore hrest => exact ⟨_, _, rfl, hbefore, hrest⟩

end Optional

/-- Other pieces may be taken for those that stand in a text: gaps may be left out, and pieces without a
    character put in. -/
theorem filterMap {α : Type} {f g : α → Option String} {xs : List α}
    (hfg : ∀ x ∈ xs, g x = f x ∨ (g x).getD "" = "" ∧ ∀ c ∈ ((f x).getD "").toList, gap c)
    (h : Spaced gap (xs.filterMap f) text) : Spaced gap (xs.filterMap g) text := by
  have hcons (f : α → Option String) (x : α) (xs : List α) :
      (x :: xs).filterMap f = (f x).toList ++ xs.filterMap f := by
    cases hf : f x <;> simp [hf]
  induction xs generalizing text with
  | nil => exact h
  | cons x xs ih =>
    obtain ⟨hx, hxs⟩ := List.forall_mem_cons.mp hfg
    rw [hcons] at h
    obtain ⟨start, rest, rfl, hstart, hrest⟩ := exists_of_consOptional h
    rw [hcons]
    rcases hx with hsame | ⟨hempty, hgap⟩
    · rw [← hsame]
      exact consOptional (g x) hstart (ih hxs hrest)
    · have hbehind : Spaced gap (xs.filterMap g) (start ++ ((f x).getD "" ++ rest)) :=
        ((ih hxs hrest).gap_append hgap).gap_append hstart
      have hnothing : ∀ c ∈ "".toList, gap c := List.forall_mem_nil _
      have hput := consOptional (g x) hnothing hbehind
      rwa [hempty, String.empty_append, String.empty_append] at hput

end Spaced

end DocMark.Text
