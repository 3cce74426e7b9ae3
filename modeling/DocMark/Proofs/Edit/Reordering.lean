-- SUMMARY: The insertions of a build can all be carried out before its styles, bullets and links.
import Mathlib
import DocMark.Proofs.Edit.Bracketing
import DocMark.Proofs.Edit.Placement
import DocMark.Proofs.Service.Commuting

/-!
# Insertions first

A build mixes insertions with the operations that style what was inserted. Since every style operation
reaches the cursor at most, it can change places with each insertion that follows. So the operations
can be sorted into insertions and all others without a change of the document that they make.
-/
namespace DocMark

open Document Edit Edit.Builder Markdown Service Text

namespace Edit

def insertionsOf (operations : List Operation) : List Operation :=
  operations.filter (·.insertedText?.isSome)

def stylesOf (operations : List Operation) : List Operation :=
  operations.filter (·.insertedText?.isNone)

/-- The same operations, but all insertions before all others. -/
def insertionsFirst (operations : List Operation) : List Operation :=
  insertionsOf operations ++ stylesOf operations

variable {texts : String → Prop} {start stop : Nat} {op : Operation} {xs operations : List Operation}

theorem insertionsOf_append (xs ys : List Operation) :
    insertionsOf (xs ++ ys) = insertionsOf xs ++ insertionsOf ys := List.filter_append ..

theorem stylesOf_append (xs ys : List Operation) : stylesOf (xs ++ ys) = stylesOf xs ++ stylesOf ys :=
  List.filter_append ..

theorem insertionsOf_singleton (h : op.insertedText? = none) : insertionsOf [op] = [] :=
  List.filter_cons_of_neg (by simp [h])

theorem stylesOf_singleton (h : op.insertedText? = none) : stylesOf [op] = [op] :=
  List.filter_cons_of_pos (by simp [h])

theorem Operation.Closes.insertedText?_eq_none (h : op.Closes start stop) : op.insertedText? = none := by
  cases op with
  | insertText text index => cases h.range
  | setParagraphStyle range name | setBulletList range preset | setLink range url => rfl

theorem Operation.Closes.reachesTo (h : op.Closes start stop) (hstart : 1 ≤ start)
    (hstop : start ≤ stop) : op.ReachesTo stop where
  range := ⟨_, h.range, closedRange_within hstart hstop⟩
  link := by
    rintro r url rfl
    have hsome := h.link r url rfl
    have hrange : r = closedRange start stop := Option.some.inj h.range
    rw [hrange, closedRange_of_lt hsome]
    dsimp only
    omega

namespace Bracketed

theorem insertionsOf (h : Bracketed texts start operations stop) :
    Bracketed texts start (insertionsOf operations) stop := by
  induction h with
  | nothing => exact .nothing
  | insertion hsome htext => exact .insertion hsome htext
  | andThen _ _ ihxs ihys =>
    rw [insertionsOf_append]
    exact .andThen ihxs ihys
  | closing _ hop ih =>
    rw [insertionsOf_append, insertionsOf_singleton hop.insertedText?_eq_none, List.append_nil]
    exact ih

theorem reachesTo (h : Bracketed texts start operations stop) (hstart : 1 ≤ start) :
    ∀ op ∈ stylesOf operations, op.ReachesTo stop := by
  induction h with
  | nothing => exact List.forall_mem_nil _
  | insertion hsome htext => exact List.forall_mem_nil _
  | andThen hxs hys ihxs ihys =>
    intro op hop
    rw [stylesOf_append] at hop
    rcases List.mem_append.mp hop with hop | hop
    · exact (ihxs hstart op hop).mono hys.le
    · exact ihys (hstart.trans hxs.le) op hop
  | closing hxs hop ih =>
    intro op hmem
    rw [stylesOf_append] at hmem
    rcases List.mem_append.mp hmem with hmem | hmem
    · exact ih hstart op hmem
    · cases List.mem_singleton.mp (List.mem_of_mem_filter hmem)
      exact hop.reachesTo hstart hxs.le

end Bracketed

end Edit

/-! ## Carrying out -/

namespace Service.LocalDocument

variable {texts : String → Prop} {d d₁ d₂ : LocalDocument} {written : List UInt16} {start stop : Nat}
  {op : Operation}
  {xs operations styles : List Operation}

/-- Operations that follow others are carried out on what these leave. -/
theorem carryOut_append_eq_ok_iff {ys : List Operation} :
    d.carryOut (xs ++ ys) = .ok d₂ ↔ ∃ mid, d.carryOut xs = .ok mid ∧ mid.carryOut ys = .ok d₂ := by
  rw [carryOut_append]
  cases d.carryOut xs with
  | error refusal => simp [bind, Except.bind]
  | ok mid => simp [bind, Except.bind]

theorem carryOut_cons_eq_ok_iff :
    d.carryOut (op :: xs) = .ok d₂ ↔
      ∃ mid, d.apply (.ofOperation op) = .ok mid ∧ mid.carryOut xs = .ok d₂ := by
  rw [← List.singleton_append, carryOut_append_eq_ok_iff, carryOut_singleton]

namespace Holds

/-- The cursor of bracketed operations follows what the document holds. -/
theorem bracketed (h : d.Holds written [CodeUnit.lineFeed] start) (hstart : 1 ≤ start)
    (hops : Bracketed texts start operations stop) (hd : d.carryOut operations = .ok d₁) :
    ∃ written', d₁.Holds written' [CodeUnit.lineFeed] stop := by
  induction hops generalizing d d₁ written with
  | nothing =>
    cases hd
    exact ⟨written, h⟩
  | insertion hsome _ =>
    obtain ⟨e, he, hholds⟩ := h.insertText (by decide) (by decide) hsome
    rw [carryOut_singleton] at hd
    cases hd.symm.trans he
    exact ⟨_, hholds⟩
  | andThen hxs _ ihxs ihys =>
    obtain ⟨mid, hmid, hrest⟩ := carryOut_append_eq_ok_iff.mp hd
    obtain ⟨written', hholds⟩ := ihxs h hstart hmid
    exact ihys hholds (hstart.trans hxs.le) hrest
  | closing hxs hop ih =>
    obtain ⟨mid, hmid, hlast⟩ := carryOut_append_eq_ok_iff.mp hd
    obtain ⟨written', hholds⟩ := ih h hstart hmid
    rw [carryOut_singleton] at hlast
    exact ⟨written', hholds.style_of_ok (hop.reachesTo hstart hxs.le) hlast⟩

/-- A style operation can change places with all insertions that follow. -/
theorem style_insertionsOf (h : d.Holds written [CodeUnit.lineFeed] start) (hstart : 1 ≤ start)
    (hop : op.ReachesTo start) (hops : Bracketed IsChunk start operations stop)
    (hd : d.apply (.ofOperation op) = .ok d₁) (hd₁ : d₁.carryOut (insertionsOf operations) = .ok d₂) :
    ∃ e, d.carryOut (insertionsOf operations) = .ok e ∧ e.apply (.ofOperation op) = .ok d₂ := by
  induction hops generalizing d d₁ d₂ written with
  | nothing =>
    cases hd₁
    exact ⟨d, rfl, hd⟩
  | insertion _ htext =>
    obtain ⟨e, he, hstyled⟩ :=
      h.insertText_style hop htext hd ((carryOut_singleton _ _).symm.trans hd₁)
    exact ⟨e, (carryOut_singleton _ _).trans he, hstyled⟩
  | andThen hxs _ ihxs ihys =>
    rw [insertionsOf_append] at hd₁ ⊢
    obtain ⟨mid, hmid, hrest⟩ := carryOut_append_eq_ok_iff.mp hd₁
    obtain ⟨e₁, he₁, hstyled₁⟩ := ihxs h hstart hop hd hmid
    obtain ⟨written', hholds⟩ := h.bracketed hstart hxs.insertionsOf he₁
    obtain ⟨e₂, he₂, hstyled₂⟩ :=
      ihys hholds (hstart.trans hxs.le) (hop.mono hxs.le) hstyled₁ hrest
    exact ⟨e₂, carryOut_append_eq_ok_iff.mpr ⟨e₁, he₁, he₂⟩, hstyled₂⟩
  | closing _ hlast ih =>
    rw [insertionsOf_append, insertionsOf_singleton hlast.insertedText?_eq_none, List.append_nil] at hd₁ ⊢
    exact ih h hstart hop hd hd₁

theorem styles_insertionsOf (h : d.Holds written [CodeUnit.lineFeed] start) (hstart : 1 ≤ start)
    (hstyles : ∀ op ∈ styles, op.ReachesTo start) (hops : Bracketed IsChunk start operations stop)
    (hd : d.carryOut (styles ++ insertionsOf operations) = .ok d₂) :
    d.carryOut (insertionsOf operations ++ styles) = .ok d₂ := by
  induction styles generalizing d with
  | nil => rwa [List.append_nil]
  | cons op styles ih =>
    have hop := hstyles op (List.mem_cons_self ..)
    obtain ⟨d₁, hd₁, hrest⟩ := carryOut_cons_eq_ok_iff.mp hd
    have hswapped := ih (h.style_of_ok hop hd₁) (fun op hmem => hstyles op (List.mem_cons_of_mem _ hmem))
      hrest
    obtain ⟨mid, hmid, hlast⟩ := carryOut_append_eq_ok_iff.mp hswapped
    obtain ⟨e, he, hstyled⟩ := h.style_insertionsOf hstart hop hops hd₁ hmid
    exact carryOut_append_eq_ok_iff.mpr ⟨e, he, carryOut_cons_eq_ok_iff.mpr ⟨mid, hstyled, hlast⟩⟩

/-- Operations that are bracketed give the same document with all insertions first. -/
theorem carryOut_insertionsFirst (h : d.Holds written [CodeUnit.lineFeed] start) (hstart : 1 ≤ start)
    (hops : Bracketed IsChunk start operations stop) (hd : d.carryOut operations = .ok d₂) :
    d.carryOut (insertionsFirst operations) = .ok d₂ := by
  induction hops generalizing d d₂ written with
  | nothing => exact hd
  | insertion => exact hd
  | andThen hxs hys ihxs ihys =>
    obtain ⟨mid, hmid, hrest⟩ := carryOut_append_eq_ok_iff.mp hd
    obtain ⟨written', hholds⟩ := h.bracketed hstart hxs hmid
    obtain ⟨inserted, hinserted, hstyled⟩ := carryOut_append_eq_ok_iff.mp (ihxs h hstart hmid)
    obtain ⟨later, hlater, hfinal⟩ :=
      carryOut_append_eq_ok_iff.mp (ihys hholds (hstart.trans hxs.le) hrest)
    -- The styles of the first piece go behind the insertions of the second one.
    obtain ⟨base, hbase⟩ := h.bracketed hstart hxs.insertionsOf hinserted
    have hswapped : inserted.carryOut (insertionsOf _ ++ stylesOf _) = .ok later :=
      hbase.styles_insertionsOf (hstart.trans hxs.le) (hxs.reachesTo hstart) hys
        (carryOut_append_eq_ok_iff.mpr ⟨mid, hstyled, hlater⟩)
    rw [insertionsFirst, insertionsOf_append, stylesOf_append, List.append_assoc,
      ← List.append_assoc (insertionsOf _) (stylesOf _)]
    exact carryOut_append_eq_ok_iff.mpr ⟨inserted, hinserted,
      carryOut_append_eq_ok_iff.mpr ⟨later, hswapped, hfinal⟩⟩
  | closing hxs hop ih =>
    obtain ⟨mid, hmid, hlast⟩ := carryOut_append_eq_ok_iff.mp hd
    have hstyle := hop.insertedText?_eq_none
    rw [insertionsFirst, insertionsOf_append, insertionsOf_singleton hstyle, List.append_nil,
      stylesOf_append, stylesOf_singleton hstyle, ← List.append_assoc]
    exact carryOut_append_eq_ok_iff.mpr ⟨mid, ih h hstart hmid, hlast⟩

end Holds

end Service.LocalDocument

/-- A build whose texts hold no line breaks makes the same of a new document, in one batch, if all its
    insertions are sent first. -/
theorem Service.LocalDocument.update_insertionsFirst (documentId title : String) {root : Node}
    (htexts : ∀ content, .text content ∈ root.nodes → '\n' ∉ content.toList) {options : BuildOptions}
    (hpresets : ∀ ordered, options.preset ordered ≠ "") :
    ∃ d, (LocalDocument.new documentId title).update documentId
        ((build root options).operations.map .ofOperation) = .ok d
      ∧ (LocalDocument.new documentId title).update documentId
        ((insertionsFirst (build root options).operations).map .ofOperation) = .ok d := by
  have hcarried := (placed_build hpresets documentId title root).carried
  rw [operations_track] at hcarried
  have hops : Bracketed IsChunk initialCursor (build root options).operations
      (build root options).endCursor :=
    (bracketed_build root options).mono fun text htext => htext.imp_right (htexts text)
  have hholds : (LocalDocument.new documentId title).Holds [] [CodeUnit.lineFeed] initialCursor :=
    ⟨rfl, rfl⟩
  exact ⟨_, update_of_ok hcarried, update_of_ok (hholds.carryOut_insertionsFirst (le_refl _) hops hcarried)⟩

/-- An empty heading before nested lists, a link and an empty item at the end. -/
theorem Service.LocalDocument.update_insertionsFirst_nestedLists :
    let root := Node.document [.heading 1 "h" [], .paragraph [.text "a", .link "u" [.text "b"]],
      .list true false [.listItem [.textBlock [.text "c"], .list false true [.listItem [.text "d"]]],
        .listItem []]]
    (∀ content, .text content ∈ root.nodes → '\n' ∉ content.toList)
      ∧ (∀ ordered, BuildOptions.preset {} ordered ≠ "")
      ∧ insertionsFirst (build root).operations ≠ (build root).operations
      ∧ ∃ d, (LocalDocument.new "doc" "T").update "doc" ((build root).operations.map .ofOperation) = .ok d
        ∧ (LocalDocument.new "doc" "T").update "doc"
          ((insertionsFirst (build root).operations).map .ofOperation) = .ok d := by
  intro root
  have htexts : ∀ content, .text content ∈ root.nodes → '\n' ∉ content.toList := by
    intro content hmem
    have hall : ∀ n ∈ root.nodes, '\n' ∉ n.plainText.toList := by decide
    exact hall _ hmem
  have hpresets : ∀ ordered, BuildOptions.preset {} ordered ≠ "" := by decide
  exact ⟨htexts, hpresets, by decide, update_insertionsFirst "doc" "T" htexts hpresets⟩

end DocMark
