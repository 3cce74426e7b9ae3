-- SUMMARY: Where the operations of a build stand: insertions at the cursor, ranges from an earlier cursor up to it.
import Mathlib
import DocMark.Proofs.Edit.Reordering

/-!
# Cursor and ranges

The cursor of a build is `1` and what was inserted so far. An insertion goes to the cursor, and a range
reaches from where the cursor once was to the character before it. Nodes are closed in the opposite
order of their opening, so a range that is closed later either encloses an earlier one or begins
behind it.
-/
namespace DocMark.Edit

open Document Markdown Text

/-- The number of code units that operations insert. -/
def insertedLength (operations : List Operation) : Nat :=
  ((operations.filterMap Operation.insertedText?).map Utf16.length).sum

@[simp] theorem insertedLength_nil : insertedLength [] = 0 := rfl

@[simp] theorem insertedLength_insertText (text : String) (index : Nat) :
    insertedLength [.insertText text index] = Utf16.length text := by
  simp [insertedLength, Operation.insertedText?]

theorem insertedLength_append (xs ys : List Operation) :
    insertedLength (xs ++ ys) = insertedLength xs + insertedLength ys := by
  simp [insertedLength]

theorem insertedLength_cons (op : Operation) (rest : List Operation) :
    insertedLength (op :: rest) = insertedLength [op] + insertedLength rest :=
  insertedLength_append [op] rest

/-- The cursor behind operations, the first of which is emitted at the start of the document. -/
def cursorBehind (operations : List Operation) : Nat := 1 + insertedLength operations

/-- What is emitted at a cursor, for a part of the tree that begins at `start`. -/
structure Operation.EmittedAt (start cursor : Nat) (op : Operation) : Prop where
  insertion : ∀ text index, op = .insertText text index → text ≠ "" ∧ index = cursor
  range : op.insertedText? = none → ∃ r, op.range? = some r ∧ start ≤ r.start ∧ r.start ≤ cursor
    ∧ r.start ≤ r.last ∧ r.last = max r.start (cursor - 1)
  link : ∀ r url, op = .setLink r url → r.start < cursor

/-- A range that is closed after another one holds all of it or begins behind it. -/
def StyleRange.EnclosesOrFollows (later earlier : StyleRange) : Prop :=
  later.start ≤ earlier.start ∧ earlier.last ≤ later.last ∨ earlier.last < later.start

/-- The operations of a build and its cursor at the end, as far as indices go. -/
structure FollowsCursor (operations : List Operation) (endCursor : Nat) : Prop where
  emitted : ∀ (i : Nat) (op : Operation), operations[i]? = some op →
    op.EmittedAt 1 (cursorBehind (operations.take i))
  /-- Of ranges that hold what was inserted before they were closed. -/
  nested : ∀ (i j : Nat) (op op' : Operation) (r r' : StyleRange), i < j →
    operations[i]? = some op → operations[j]? = some op' → op.range? = some r →
      op'.range? = some r' → r.start < cursorBehind (operations.take i) →
        r'.start < cursorBehind (operations.take j) → r'.EnclosesOrFollows r
  final : endCursor = cursorBehind operations

-- ---------------------------------------------------------------------------
-- Operations with their cursors
-- ---------------------------------------------------------------------------

/-- Each operation with the cursor at which it is emitted, the first one at `cursor`. -/
def withCursors (cursor : Nat) : List Operation → List (Nat × Operation)
  | [] => []
  | op :: rest => (cursor, op) :: withCursors (cursor + insertedLength [op]) rest

theorem withCursors_append (cursor : Nat) (xs ys : List Operation) :
    withCursors cursor (xs ++ ys) =
      withCursors cursor xs ++ withCursors (cursor + insertedLength xs) ys := by
  induction xs generalizing cursor with
  | nil => simp [withCursors]
  | cons op xs ih =>
    simp only [List.cons_append, withCursors, ih, insertedLength_cons op xs, Nat.add_assoc]

theorem getElem?_withCursors (cursor : Nat) (operations : List Operation) (i : Nat) :
    (withCursors cursor operations)[i]? =
      operations[i]?.map fun op => (cursor + insertedLength (operations.take i), op) := by
  induction operations generalizing cursor i with
  | nil => simp [withCursors]
  | cons op rest ih =>
    cases i with
    | zero => simp [withCursors]
    | succ i =>
      simp only [withCursors, List.getElem?_cons_succ, ih, List.take_succ_cons,
        insertedLength_cons op (rest.take i), Nat.add_assoc]

theorem Operation.EmittedAt.mono {start start' cursor : Nat} {op : Operation}
    (h : op.EmittedAt start cursor) (hstart : start' ≤ start) : op.EmittedAt start' cursor where
  insertion := h.insertion
  range := by
    intro hop
    obtain ⟨r, hr, hfrom, hrest⟩ := h.range hop
    exact ⟨r, hr, hstart.trans hfrom, hrest⟩
  link := h.link

theorem Operation.Closes.emittedAt {start stop : Nat} {op : Operation} (h : op.Closes start stop)
    (hstop : start ≤ stop) : op.EmittedAt start stop where
  insertion := by
    rintro text index rfl
    cases h.range
  range := by
    intro _
    refine ⟨closedRange start stop, h.range, ?_⟩
    simp [closedRange, hstop]
  link := by
    rintro r url rfl
    obtain rfl : r = closedRange start stop := Option.some.inj h.range
    exact h.link _ url rfl

-- ---------------------------------------------------------------------------
-- Bracketed operations
-- ---------------------------------------------------------------------------

/-- Of two operations with their cursors, the later one encloses or follows the earlier one, if both
    have ranges with something in them. -/
def NestedAfter (earlier later : Nat × Operation) : Prop :=
  ∀ r r', earlier.2.range? = some r → later.2.range? = some r' → r.start < earlier.1 →
    r'.start < later.1 → r'.EnclosesOrFollows r

namespace Bracketed

variable {texts : String → Prop} {start stop : Nat} {operations : List Operation}

theorem stop_eq (h : Bracketed texts start operations stop) :
    stop = start + insertedLength operations := by
  induction h with
  | nothing => simp
  | insertion => simp
  | andThen _ _ ihxs ihys => rw [insertedLength_append, ← Nat.add_assoc, ← ihxs, ← ihys]
  | closing _ hop ih =>
    simpa [insertedLength, hop.insertedText?_eq_none] using ih

/-- Whatever a piece of a tree emits lies between the cursors at its two ends. -/
theorem emittedAt (h : Bracketed texts start operations stop) :
    ∀ e ∈ withCursors start operations, e.1 ≤ stop ∧ e.2.EmittedAt start e.1 := by
  induction h with
  | nothing => simp [withCursors]
  | @insertion cursor text hsome htext =>
    intro e he
    obtain rfl : e = (cursor, .insertText text cursor) := by simpa [withCursors] using he
    refine ⟨Nat.le_add_right .., ?_, nofun, nofun⟩
    rintro _ _ ⟨⟩
    exact ⟨hsome, rfl⟩
  | andThen hxs hys ihxs ihys =>
    intro e he
    rw [withCursors_append, ← hxs.stop_eq] at he
    rcases List.mem_append.mp he with he | he
    · obtain ⟨hcursor, hemitted⟩ := ihxs e he
      exact ⟨hcursor.trans hys.le, hemitted⟩
    · obtain ⟨hcursor, hemitted⟩ := ihys e he
      exact ⟨hcursor, hemitted.mono hxs.le⟩
  | @closing start stop xs op hxs hop ih =>
    intro e he
    rw [withCursors_append, ← hxs.stop_eq] at he
    rcases List.mem_append.mp he with he | he
    · exact ih e he
    · obtain rfl : e = (stop, op) := by simpa [withCursors] using he
      exact ⟨le_refl _, hop.emittedAt hxs.le⟩

/-- The start and the last index of a range with something in it, and those of the piece around it. -/
theorem range_within (h : Bracketed texts start operations stop) {e : Nat × Operation}
    (he : e ∈ withCursors start operations) {r : StyleRange} (hr : e.2.range? = some r)
    (hsome : r.start < e.1) : start ≤ r.start ∧ r.last < stop := by
  obtain ⟨hcursor, hemitted⟩ := h.emittedAt e he
  have hstyle : e.2.insertedText? = none := by
    cases hop : e.2 with
    | insertText text index => simp [hop, Operation.range?] at hr
    | setParagraphStyle range name | setBulletList range preset | setLink range url => rfl
  obtain ⟨r', hr', hstart, -, -, hlast⟩ := hemitted.range hstyle
  obtain rfl : r = r' := Option.some.inj (hr.symm.trans hr')
  omega

theorem nestedAfter (h : Bracketed texts start operations stop) :
    (withCursors start operations).Pairwise NestedAfter := by
  induction h with
  | nothing => exact .nil
  | insertion => exact List.pairwise_singleton ..
  | andThen hxs hys ihxs ihys =>
    rw [withCursors_append, ← hxs.stop_eq, List.pairwise_append]
    refine ⟨ihxs, ihys, ?_⟩
    intro e he e' he' r r' hr hr' hsome hsome'
    have hearlier := hxs.range_within he hr hsome
    have hlater := hys.range_within he' hr' hsome'
    exact .inr (hearlier.2.trans_le hlater.1)
  | @closing start stop xs op hxs hop ih =>
    rw [withCursors_append, ← hxs.stop_eq, List.pairwise_append]
    refine ⟨ih, List.pairwise_singleton .., ?_⟩
    intro e he e' he' r r' hr hr' hsome hsome'
    obtain rfl : e' = (stop, op) := by simpa [withCursors] using he'
    obtain rfl : r' = closedRange start stop := Option.some.inj (hr'.symm.trans hop.range)
    -- The range of the whole piece starts where the piece does, and ends behind all that it holds.
    have hinner := hxs.range_within he hr hsome
    refine .inl ⟨hinner.1, ?_⟩
    simp only [closedRange]
    omega

end Bracketed

/-- Every insertion of a build goes to the cursor, every range ends right before the cursor, and
    ranges are nested or apart. -/
theorem build_followsCursor (root : Node) (options : BuildOptions) :
    FollowsCursor (build root options).operations (build root options).endCursor := by
  have h := bracketed_build root options
  generalize (build root options).operations = operations at h ⊢
  have hcursor (i : Nat) (op : Operation) (hop : operations[i]? = some op) :
      (withCursors 1 operations)[i]? = some (cursorBehind (operations.take i), op) := by
    simp [getElem?_withCursors, hop, cursorBehind]
  refine ⟨?_, ?_, h.stop_eq⟩
  · intro i op hop
    exact (h.emittedAt _ (List.mem_of_getElem? (hcursor i op hop))).2
  · intro i j op op' r r' hij hop hop' hr hr' hsome hsome'
    obtain ⟨hi, hge⟩ := List.getElem?_eq_some_iff.mp (hcursor i op hop)
    obtain ⟨hj, hge'⟩ := List.getElem?_eq_some_iff.mp (hcursor j op' hop')
    have hpair := List.pairwise_iff_getElem.mp h.nestedAfter i j hi hj hij
    simp only [Builder.initialCursor] at hpair
    rw [hge, hge'] at hpair
    exact hpair r r' hr hr' hsome hsome'

end DocMark.Edit
