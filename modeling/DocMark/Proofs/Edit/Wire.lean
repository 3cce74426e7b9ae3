-- SUMMARY: Requests and batches are read back from their JSON, and operations are told apart by it.
import Mathlib
import DocMark.Edit.Request
import DocMark.Proofs.Document.Json

/-!
# Requests in JSON, read back

The content of a request determines it and fits the layout of requests when its indices are within bounds.
No request is nested deep, so every batch is read back from its text, and with it the operations that the
batch was made of.
-/
namespace DocMark.Edit

open Document Json

-- ---------------------------------------------------------------------------
-- Contents determine what they are the contents of
-- ---------------------------------------------------------------------------

theorem Range.ofDatum_toDatum (r : Range) : Range.ofDatum r.toDatum = r := rfl

theorem Request.ofDatum_toDatum (r : Request) : Request.ofDatum r.toDatum = r := by
  cases r with
  | insertText text index => rfl
  | updateParagraphStyle style range fields => rfl
  | createParagraphBullets preset range => rfl
  | updateTextStyle style range fields =>
    rw [toDatum, ofDatum, TextStyle.ofDatum_toDatum, Range.ofDatum_toDatum, textOf]

theorem Batch.ofDatum_toDatum (b : Batch) : Batch.ofDatum b.toDatum = b := by
  have hrequests : (b.requests.map Request.toDatum).map Request.ofDatum = b.requests := by
    simp [Function.comp_def, Request.ofDatum_toDatum]
  rw [toDatum, ofDatum, elementsOf, hrequests]

-- ---------------------------------------------------------------------------
-- The layout
-- ---------------------------------------------------------------------------

theorem record_of_map {K L : Type} {f : K → L} {p : Json.Part K} {typeName : String}
    {members : List (Member L)} (h : p.map f = .record typeName members) :
    ∃ ms, p = .record typeName ms ∧ members = ms.map (Member.map f) := by
  cases p with
  | record name ms =>
    cases h
    exact ⟨ms, rfl, rfl⟩
  | choice alternatives => cases h

theorem choice_of_map {K L : Type} {f : K → L} {p : Json.Part K} {alternatives : List (String × L)}
    (h : p.map f = .choice alternatives) :
    ∃ as, p = .choice as ∧ alternatives = as.map fun (name, part) => (name, f part) := by
  cases p with
  | record name ms => cases h
  | choice as =>
    cases h
    exact ⟨as, rfl, rfl⟩

theorem requestLayout_model (part : Record) : requestLayout (.model part) = (layout part).map .model := rfl

/-- The layout of requests is as lossless as that of documents, which it holds. -/
theorem lossless_requestLayout : requestLayout.Lossless where
  nodup_members {part typeName members} hpart := by
    cases part with
    | model part =>
      obtain ⟨ms, hms, rfl⟩ := record_of_map hpart
      have hnodup := lossless_layout.nodup_members hms
      rwa [List.map_map]
    | _ => cases hpart <;> decide
  restores {part typeName members} hpart := by
    cases part with
    | model part =>
      obtain ⟨ms, hms, rfl⟩ := record_of_map hpart
      exact List.forall_mem_map.mpr (lossless_layout.restores hms)
    | _ => cases hpart <;> simp [Schema.restores_of_never, Member.required]
  nodup_alternatives {part alternatives} hpart := by
    cases part with
    | model part =>
      obtain ⟨as, has, rfl⟩ := choice_of_map hpart
      have hnodup := lossless_layout.nodup_alternatives has
      rwa [Schema.alternativeNames, List.map_map]
    | _ => cases hpart <;> decide

-- ---------------------------------------------------------------------------
-- Indices within bounds
-- ---------------------------------------------------------------------------

def Range.indices (r : Range) : List Nat := [r.startIndex, r.endIndex]

/-- The indices that a request names. -/
def Request.indices : Request → List Nat
  | .insertText _ index => [index]
  | .updateParagraphStyle _ range _ => range.indices
  | .createParagraphBullets _ range => range.indices
  | .updateTextStyle _ range _ => range.indices

def Batch.indices (b : Batch) : List Nat := b.requests.flatMap Request.indices

theorem fits_index {n : Nat} (h : n < 2 ^ 64) : requestLayout.Fits .index (.index n) :=
  .index (Nat.le_of_lt_succ h)

theorem Range.fits {r : Range} (h : InBounds r.indices) : requestLayout.Fits (.one .range) r.toDatum :=
  .record rfl (.cons (.present (fits_index (h _ (by simp [indices]))))
    (.cons (.present (fits_index (h _ (by simp [indices])))) .nil))

theorem fits_paragraphStyle (s : ParagraphStyle) :
    requestLayout.Fits (.one (.model .paragraphStyle)) s.toDatum := s.fits.map requestLayout_model

theorem fits_textStyle (s : TextStyle) : requestLayout.Fits (.one (.model .textStyle)) s.toDatum :=
  s.fits.map requestLayout_model

theorem Request.fits {r : Request} (h : InBounds r.indices) :
    requestLayout.Fits (.one .request) r.toDatum := by
  cases r with
  | insertText text index =>
    have hindex : index < 2 ^ 64 := h _ (List.mem_singleton_self _)
    refine .choice rfl rfl (.record rfl (.cons (.present (.text _)) (.cons (.present ?_) .nil)))
    exact .record rfl (.cons (.present (fits_index hindex)) .nil)
  | updateParagraphStyle style range fields =>
    exact .choice rfl rfl (.record rfl (.cons (.present (fits_paragraphStyle style))
      (.cons (.present (Range.fits h)) (.cons (.present (.text _)) .nil))))
  | createParagraphBullets preset range =>
    exact .choice rfl rfl (.record rfl (.cons (.present (.text _))
      (.cons (.present (Range.fits h)) .nil)))
  | updateTextStyle style range fields =>
    exact .choice rfl rfl (.record rfl (.cons (.present (fits_textStyle style))
      (.cons (.present (Range.fits h)) (.cons (.present (.text _)) .nil))))

theorem Batch.fits {b : Batch} (h : InBounds b.indices) :
    requestLayout.Fits (.one .batch) b.toDatum := by
  refine .record rfl (.cons (.present (.many fun d hd => ?_)) .nil)
  obtain ⟨r, hr, rfl⟩ := List.mem_map.mp hd
  exact Request.fits (inBounds_flatMap.mp h r hr)

-- ---------------------------------------------------------------------------
-- Depth
-- ---------------------------------------------------------------------------

theorem depth_location (index : Nat) : (requestLayout.write .location (.record [.index index])).depth ≤ 1 :=
  Schema.depth_record_le rfl (.cons (Nat.le_refl 0) .nil)

theorem depth_range (r : Range) : (requestLayout.write .range r.toDatum).depth ≤ 1 :=
  Schema.depth_record_le rfl (.cons (Nat.le_refl 0) (.cons (Nat.le_refl 0) .nil))

theorem depth_paragraphStyle (s : ParagraphStyle) :
    (requestLayout.write (.model .paragraphStyle) s.toDatum).depth ≤ 1 := by
  rw [Schema.write_map requestLayout_model]
  exact s.depth_le

theorem depth_textStyle (s : TextStyle) :
    (requestLayout.write (.model .textStyle) s.toDatum).depth ≤ 2 := by
  rw [Schema.write_map requestLayout_model]
  exact s.depth_le

theorem Request.depth_toJson (r : Request) : r.toJson.depth ≤ 4 := by
  cases r with
  | insertText text index =>
    refine Schema.depth_choice_le rfl rfl (Schema.depth_record_le rfl ?_)
    exact .cons (Nat.zero_le 2) (.cons ((depth_location index).trans (Nat.le_succ 1)) .nil)
  | updateParagraphStyle style range fields =>
    refine Schema.depth_choice_le rfl rfl (Schema.depth_record_le rfl ?_)
    exact .cons ((depth_paragraphStyle style).trans (Nat.le_succ 1))
      (.cons ((depth_range range).trans (Nat.le_succ 1)) (.cons (Nat.zero_le 2) .nil))
  | createParagraphBullets preset range =>
    refine Schema.depth_choice_le rfl rfl (Schema.depth_record_le rfl ?_)
    exact .cons (Nat.zero_le 2) (.cons ((depth_range range).trans (Nat.le_succ 1)) .nil)
  | updateTextStyle style range fields =>
    refine Schema.depth_choice_le rfl rfl (Schema.depth_record_le rfl ?_)
    exact .cons (depth_textStyle style)
      (.cons ((depth_range range).trans (Nat.le_succ 1)) (.cons (Nat.zero_le 2) .nil))

theorem Batch.depth_toJson (b : Batch) : b.toJson.depth ≤ 6 := by
  refine Schema.depth_record_le rfl (.cons (Schema.depth_many_le fun d hd => ?_) .nil)
  obtain ⟨r, -, rfl⟩ := List.mem_map.mp hd
  exact r.depth_toJson

-- ---------------------------------------------------------------------------
-- Texts
-- ---------------------------------------------------------------------------

theorem Request.fromJson?_of_spelledIn {r : Request} {text : String} (hindices : InBounds r.indices)
    (htext : SpelledIn r.toJson text) : fromJson? text = .ok r := by
  have hdepth : r.toJson.depth ≤ maxDepth := r.depth_toJson.trans (by decide)
  rw [fromJson?, Schema.read_of_spelledIn lossless_requestLayout (fits hindices) hdepth htext]
  exact congrArg Except.ok r.ofDatum_toDatum

theorem Batch.fromJson?_of_spelledIn {b : Batch} {text : String} (hindices : InBounds b.indices)
    (htext : SpelledIn b.toJson text) : fromJson? text = .ok b := by
  have hdepth : b.toJson.depth ≤ maxDepth := b.depth_toJson.trans (by decide)
  rw [fromJson?, Schema.read_of_spelledIn lossless_requestLayout (fits hindices) hdepth htext]
  exact congrArg Except.ok b.ofDatum_toDatum

-- ---------------------------------------------------------------------------
-- Operations
-- ---------------------------------------------------------------------------

/-- Whether 64 bits hold the indices of an operation, and the end of its range as an exclusive one. -/
def Operation.InBounds : Operation → Prop
  | .insertText _ index => index < 2 ^ 64
  | .setParagraphStyle range _ => range.start < 2 ^ 64 ∧ range.last < 2 ^ 64 - 1
  | .setBulletList range _ => range.start < 2 ^ 64 ∧ range.last < 2 ^ 64 - 1
  | .setLink range _ => range.start < 2 ^ 64 ∧ range.last < 2 ^ 64 - 1

theorem StyleRange.toRange_injective : Function.Injective StyleRange.toRange := by
  rintro ⟨start, last⟩ ⟨start', last'⟩ h
  cases h
  rfl

theorem Request.ofOperation_injective : Function.Injective Request.ofOperation := by
  intro x y h
  cases x <;> cases y <;> simp_all [ofOperation, TextStyle.ofLink, StyleRange.toRange_injective.eq_iff]

theorem StyleRange.inBounds_toRange {r : StyleRange} (h : r.start < 2 ^ 64 ∧ r.last < 2 ^ 64 - 1) :
    Document.InBounds r.toRange.indices := by
  intro n hn
  rcases List.mem_pair.mp hn with rfl | rfl
  · exact h.1
  · exact Nat.add_lt_of_lt_sub h.2

theorem Operation.InBounds.request {x : Operation} (h : x.InBounds) :
    Document.InBounds (Request.ofOperation x).indices := by
  cases x with
  | insertText text index => exact List.forall_mem_singleton.mpr h
  | setParagraphStyle range name => exact StyleRange.inBounds_toRange h
  | setBulletList range preset => exact StyleRange.inBounds_toRange h
  | setLink range url => exact StyleRange.inBounds_toRange h

theorem Batch.inBounds_ofOperations {xs : List Operation} (h : ∀ x ∈ xs, x.InBounds) :
    InBounds (ofOperations xs).indices := by
  refine inBounds_flatMap.mpr fun r hr => ?_
  obtain ⟨x, hx, rfl⟩ := List.mem_map.mp hr
  exact (h x hx).request

theorem Batch.ofOperations_injective : Function.Injective Batch.ofOperations := by
  intro xs ys h
  exact Request.ofOperation_injective.list_map (congrArg Batch.requests h)

/-- Requests and batches are read back from their compact text, and no two lists of operations are
    sent as the same text. -/
theorem Batch.fromJson?_compactText :
    (∀ r : Request, (∀ n ∈ r.indices, n < 2 ^ 64) → Request.fromJson? r.toJson.compactText = .ok r)
      ∧ (∀ b : Batch, (∀ n ∈ b.indices, n < 2 ^ 64) → fromJson? b.toJson.compactText = .ok b)
      ∧ ∀ xs ys : List Operation, (∀ x ∈ xs, x.InBounds) → (∀ y ∈ ys, y.InBounds) →
          (ofOperations xs).toJson.compactText = (ofOperations ys).toJson.compactText → xs = ys := by
  have hbatch : ∀ b : Batch, InBounds b.indices → fromJson? b.toJson.compactText = .ok b :=
    fun b hb => fromJson?_of_spelledIn hb (spelledIn_compactText _)
  refine ⟨fun r hr => Request.fromJson?_of_spelledIn hr (spelledIn_compactText _), hbatch, ?_⟩
  intro xs ys hxs hys htext
  have hx := hbatch _ (inBounds_ofOperations hxs)
  have hy := hbatch _ (inBounds_ofOperations hys)
  rw [htext, hy] at hx
  exact (ofOperations_injective (Except.ok.inj hx)).symm

/-- A link that has to be escaped on the greatest index, and two batches that differ in an index. -/
theorem Batch.fromJson?_compactText_greatestIndex :
    let r : Request := .updateTextStyle ⟨true, false, false, true, some ⟨"\"\\\x01😀"⟩⟩
      ⟨0, 18446744073709551615⟩ "link"
    let xs : List Operation := [.insertText "\n" 1, .setLink ⟨1, 18446744073709551614⟩ ""]
    let ys : List Operation := [.insertText "\n" 1, .setLink ⟨2, 18446744073709551614⟩ ""]
    r.indices = [0, 18446744073709551615] ∧ Request.fromJson? r.toJson.compactText = .ok r
      ∧ fromJson? (Batch.mk [r]).toJson.compactText = .ok ⟨[r]⟩
      ∧ (∀ x ∈ xs, x.InBounds) ∧ (∀ y ∈ ys, y.InBounds)
      ∧ (ofOperations xs).toJson.compactText ≠ (ofOperations ys).toJson.compactText := by
  intro r xs ys
  obtain ⟨hrequest, hbatch, hinjective⟩ := Batch.fromJson?_compactText
  have hindices : r.indices = [0, 18446744073709551615] := rfl
  have hxs : ∀ x ∈ xs, x.InBounds := by simp [xs, Operation.InBounds]
  have hys : ∀ y ∈ ys, y.InBounds := by simp [ys, Operation.InBounds]
  have hb : (Batch.mk [r]).indices = r.indices := List.append_nil _
  refine ⟨hindices, hrequest r (by simp [hindices]), hbatch _ (by simp [hb, hindices]), hxs, hys, ?_⟩
  intro htext
  have heq := hinjective xs ys hxs hys htext
  simp [xs, ys] at heq

end DocMark.Edit
