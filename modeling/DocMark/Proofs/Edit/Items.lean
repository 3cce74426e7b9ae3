-- SUMMARY: Every item of a list becomes a bullet, except an empty one with which an outermost list ends.
import Mathlib
import DocMark.Proofs.Edit.Bullets

/-!
# Items

An item of a list begins with a break, and its content comes right after that. The list sets bullets
from where it began up to the unit before the cursor. So the content of an item has a bullet as soon as
anything was inserted in an outermost list after the item's own break. An outermost list that ends with
an empty item ends with that break, which its range does not pass: the paragraph of this item, of which
only the terminator is there, is left without a bullet.
-/
namespace DocMark

open Document Edit Edit.Builder Markdown Service Text

namespace Edit

/-- Whether what is inserted now would be the break of an item of a list. -/
def beginsItem : List Visit → Bool
  | item :: list :: _ => item.node.isListItem && list.node.isList
  | _ => false

theorem beginsItem_cons_eq_false {v : Visit} (h : v.node.isListItem = false) (base : List Visit) :
    beginsItem (v :: base) = false := by
  cases base with
  | nil => rfl
  | cons list base => rw [beginsItem, h, Bool.false_and]

theorem exists_list_of_beginsItem {around : List Visit} (h : beginsItem around = true) :
    ∃ list ∈ around, list.node.isList = true := by
  match around with
  | [] => cases h
  | [_] => cases h
  | item :: list :: base => exact ⟨list, .tail _ (.head _), (Bool.and_eq_true_iff.mp h).2⟩

/-- The unit is the break of an item of a list. -/
def WrittenUnit.isItemBreak (u : WrittenUnit) : Bool := beginsItem u.around

/-- What is inserted right in a node that is no item is no break of one. -/
theorem isItemBreak_eq_false {v : Visit} (hv : v.node.isListItem = false) {base : List Visit}
    {codes : List UInt16} {u : WrittenUnit} (hu : u ∈ codes.map (⟨·, v :: base⟩)) :
    u.isItemBreak = false := by
  obtain ⟨code, -, rfl⟩ := List.mem_map.mp hu
  exact beginsItem_cons_eq_false hv base

theorem WrittenUnit.exists_outermostList {u : WrittenUnit} (h : u.isItemBreak = true) :
    ∃ list, u.outermostList? = some list := by
  obtain ⟨list, hmem, hlist⟩ := exists_list_of_beginsItem h
  have hlists : u.around.filter (·.node.isList) ≠ [] :=
    List.ne_nil_of_mem (List.mem_filter.mpr ⟨hmem, hlist⟩)
  exact ⟨_, List.getLast?_eq_some_getLast hlists⟩

end Edit

namespace Edit.Builder.Tracked

variable {start : LocalDocument} {t t' : Tracked} {options : BuildOptions} {n : Node}

/-! ## The last item -/

/-- If the last thing written is the break of an item, there is no bullet after it. -/
structure EndsPlainly (start : LocalDocument) (t : Tracked) : Prop where
  placed : t.Placed start
  last : ∀ u, t.written.getLast? = some u → u.isItemBreak = true →
    u.code = CodeUnit.lineFeed ∧ (t.attributes start t.written.length).bullet = none

theorem EndsPlainly.inserts (h : t.EndsPlainly start) {text : String} {around : List Visit}
    (hinserts : Inserts start t t' text around)
    (hbreak : beginsItem around = true → text = "\n" ∨ text = "") : t'.EndsPlainly start := by
  refine ⟨hinserts.placed, fun u hu hitem => ?_⟩
  have hlength : t'.written.length = t.written.length + (Utf16.encode text.toList).length := by
    rw [hinserts.written, List.length_append, List.length_map]
  have hfresh := hinserts.continues.last
  rw [← hlength] at hfresh
  rw [hfresh]
  by_cases hnothing : Utf16.encode text.toList = []
  · rw [hinserts.written, hnothing, List.map_nil, List.append_nil] at hu
    obtain ⟨hcode, hbullet⟩ := h.last u hu hitem
    refine ⟨hcode, ?_⟩
    split
    · rfl
    · exact hbullet
  · -- The last unit is of the text that was inserted.
    rw [hinserts.written, List.getLast?_append_of_ne_nil _ (by simpa using hnothing)] at hu
    obtain ⟨code, hcode, rfl⟩ := List.mem_map.mp (List.mem_of_getLast? hu)
    rcases hbreak hitem with rfl | rfl
    · exact ⟨List.mem_singleton.mp hcode, by rw [if_pos (by decide)]⟩
    · exact absurd rfl hnothing

theorem EndsPlainly.enter (h : t.EndsPlainly start) (n : Node) : (t.enter n).EndsPlainly start := by
  refine h.inserts (h.placed.enter n) fun _ => ?_
  rw [breakAt]
  split
  · exact Or.inl rfl
  · exact Or.inr rfl

theorem EndsPlainly.closes (h : t.EndsPlainly start) {first lists : Nat}
    {f : ParagraphAttributes → ParagraphAttributes} (hcloses : Closes start t t' first f lists)
    (hlast : ∀ u, t.written.getLast? = some u → u.isItemBreak = true → u.code = CodeUnit.lineFeed →
      (t'.attributes start t.written.length).bullet = (t.attributes start t.written.length).bullet) :
    t'.EndsPlainly start := by
  refine ⟨hcloses.placed, fun u hu hitem => ?_⟩
  rw [hcloses.written] at hu ⊢
  obtain ⟨hcode, hbullet⟩ := h.last u hu hitem
  exact ⟨hcode, (hlast u hu hitem hcode).trans hbullet⟩

/-- A list whose last unit ends a paragraph does not reach the paragraph after it. -/
theorem Placed.attributes_exit_list (h : t.Placed start) (hn : n.isList = true)
    (hexit : (t.exit options n).Placed start) {first : Nat} (hstart : t.state.popStart.1 = first + 1)
    (hsome : first < t.written.length)
    (hline : (t.written.getLast?).map (·.code) = some CodeUnit.lineFeed) :
    (t.exit options n).attributes start t.written.length = t.attributes start t.written.length := by
  have hcarried := h.carryOut_step hexit (emissions_exit options t n)
  cases n with
  | list ordered tight items =>
    rw [leaving, hstart, LocalDocument.carryOut_singleton] at hcarried
    have hlength : (t.written.map (·.code)).length = t.written.length := List.length_map ..
    obtain ⟨-, first', last, hcheck, hd⟩ := LocalDocument.createParagraphBullets_eq_ok_iff.mp hcarried
    cases hcheck.symm.trans (h.holds.checkRange_closedRange (hlength ▸ hsome.le))
    have hlast := h.holds.attributes_last (hlength ▸ hsome) (List.getLast?_map.trans hline)
      (f := ({ · with bullet := some (listBullet ((t.document start).listsCreated + 1)) }))
      (congrArg LocalDocument.units hd)
    rwa [hlength] at hlast
  | _ => cases hn

section Nodes

variable (hpresets : ∀ ordered, options.preset ordered ≠ "")

include hpresets

/-- If a list is left right after the break of an item, that break is its own item's or deeper. -/
theorem Placed.lt_of_isItemBreak (h : t.Placed start) (hn : n.isList = true) {u : WrittenUnit}
    (hu : ((t.enter n).run options (Node.walkAll n.children)).written.getLast? = some u)
    (hitem : u.isItemBreak = true) :
    (t.enter n).written.length <
      ((t.enter n).run options (Node.walkAll n.children)).written.length := by
  have hgrows := (h.enter n).placed.runAll hpresets n.children
  refine Nat.lt_of_le_of_ne hgrows.length_le fun hlength => ?_
  obtain ⟨new, hwritten, -⟩ := hgrows.written
  have hnew : new = [] := by
    rw [hwritten, List.length_append] at hlength
    exact List.eq_nil_of_length_eq_zero (by omega)
  rw [hwritten, hnew, List.append_nil, (h.enter n).written] at hu
  cases hbreaks : breaksAt t.state.cursor n with
  | true =>
    rw [breakAt, if_pos hbreaks, List.getLast?_append_of_ne_nil _
      (mt List.map_eq_nil_iff.mp (by decide))] at hu
    have hkind : n.isListItem = false := by
      cases n with
      | list ordered tight items => rfl
      | _ => cases hn
    rw [isItemBreak_eq_false hkind (List.mem_of_getLast? hu)] at hitem
    cases hitem
  | false =>
    rw [breakAt, hbreaks, h.written_eq_nil (by rw [hn, Bool.or_true]) hbreaks] at hu
    cases hu

theorem EndsPlainly.leave (h : t.EndsPlainly start) (hn : n.isText = false)
    (hchildren : ((t.enter n).run options (Node.walkAll n.children)).EndsPlainly start) :
    (t.run options n.walk).EndsPlainly start := by
  have hleave := h.placed.leave hpresets hn ((h.placed.enter n).placed.runAll hpresets n.children)
  refine hchildren.closes hleave fun u hu hitem hcode => ?_
  cases hlist : n.isList with
  | false => exact hleave.bullet_eq (bullet_restyle hlist _) (le_refl _)
  | true =>
    have hopens : opensRange n = true := by
      cases n with
      | list ordered tight items => rfl
      | _ => cases hlist
    have hstart : ((t.enter n).run options (Node.walkAll n.children)).state.popStart.1 =
        (t.enter n).written.length + 1 :=
      (popStart_runAll hopens n.children t).trans (h.placed.enter n).placed.length
    have hplaced := hleave.placed
    rw [run_walk] at hplaced ⊢
    rw [hchildren.placed.attributes_exit_list hlist hplaced hstart
      (h.placed.lt_of_isItemBreak hpresets hlist hu hitem) (by rw [hu, Option.map_some, hcode])]

theorem EndsPlainly.run (h : t.EndsPlainly start) (n : Node) :
    (t.run options n.walk).EndsPlainly start := by
  induction n using Node.induction_children generalizing t with
  | node n ih =>
    have hchildren : ((t.enter n).run options (Node.walkAll n.children)).EndsPlainly start :=
      run_walkAll_keeps (fun m hm t ht => ih m hm ht) (h.enter n)
    by_cases htext : n.isText = true
    · obtain ⟨content, rfl⟩ := Node.exists_eq_text htext
      refine hchildren.inserts (hchildren.placed.exit_text options content) fun hbreak => ?_
      have hself : beginsItem (⟨t.entered, .text content⟩ :: t.around) = true := hbreak
      rw [beginsItem_cons_eq_false rfl] at hself
      cases hself
    · exact h.leave hpresets (by simpa using htext) hchildren

end Nodes

/-! ## All items -/

/-- The outermost list around a unit goes on after it. -/
def GoesOn (units : List WrittenUnit) (i : Nat) (u : WrittenUnit) : Prop :=
  ∃ v, units[i + 1]? = some v ∧ v.outermostList? = u.outermostList?

/-- Outside lists: exactly the items in whose lists something follows their break have bullets. -/
structure Itemized (start : LocalDocument) (t : Tracked) : Prop where
  ends : t.EndsPlainly start
  outside : ∀ v ∈ t.around, v.node.isList = false
  entered : ∀ u ∈ t.written, ∀ list, u.outermostList? = some list → list.number < t.entered
  items : ∀ i u, t.written[i]? = some u → u.isItemBreak = true →
    ((t.attributes start (i + 1)).bullet.isSome = true ↔ GoesOn t.written i u)

/-- What is written outside the lists so far leaves their items alone, also a last one that holds
    nothing yet. -/
theorem Itemized.of_grows (h : t.Itemized start) {base : List Visit} {nodes : List Node}
    (hgrows : Grows start base nodes t t') (hends : t'.EndsPlainly start)
    (houtside : ∀ v ∈ t'.around, v.node.isList = false)
    (hlast : t.written ≠ [] → (t.attributes start t.written.length).bullet = none →
      (t'.attributes start t.written.length).bullet = none)
    (hlists : ∀ i u, t.written.length ≤ i → t'.written[i]? = some u → ∀ list,
      u.outermostList? = some list → t.entered ≤ list.number ∧ list.number < t'.entered)
    (hitems : ∀ i u, t.written.length ≤ i → t'.written[i]? = some u → u.isItemBreak = true →
      ((t'.attributes start (i + 1)).bullet.isSome = true ↔ GoesOn t'.written i u)) :
    t'.Itemized start := by
  refine ⟨hends, houtside, fun u hmem list hlist => ?_, fun i u hu hitem => ?_⟩
  · obtain ⟨i, hu⟩ := List.getElem?_of_mem hmem
    by_cases hi : i < t.written.length
    · rw [hgrows.getElem?_written hi] at hu
      exact (h.entered u (List.mem_of_getElem? hu) list hlist).trans_le hgrows.entered
    · exact (hlists i u (Nat.le_of_not_lt hi) hu list hlist).2
  · by_cases hi : i < t.written.length
    · rw [hgrows.getElem?_written hi] at hu
      by_cases hnext : i + 1 < t.written.length
      · rw [hgrows.attributes _ hnext, GoesOn, hgrows.getElem?_written hnext]
        exact h.items i u hu hitem
      · -- The item ended with its break, and what comes next is in another list or in none.
        have hend : i + 1 = t.written.length := by omega
        have hfinal : t.written.getLast? = some u := by
          rw [List.getLast?_eq_getElem?, ← hend, Nat.add_sub_cancel]
          exact hu
        have hnone := hlast (List.ne_nil_of_mem (List.mem_of_getLast? hfinal))
          (h.ends.last u hfinal hitem).2
        rw [hend, hnone]
        refine iff_of_false Bool.false_ne_true ?_
        rintro ⟨v, hv, hsame⟩
        obtain ⟨list, hlist⟩ := WrittenUnit.exists_outermostList hitem
        have hbefore := h.entered u (List.mem_of_getElem? hu) list hlist
        have hafter := (hlists _ v hend.ge hv list (hsame.trans hlist)).1
        exact absurd hbefore (Nat.not_lt_of_le hafter)
    · exact hitems i u (Nat.le_of_not_lt hi) hu hitem

/-- What is inserted outside lists is in no list. -/
theorem Itemized.inserts (h : t.Itemized start) {text : String} {around : List Visit}
    (hinserts : Inserts start t t' text around) (hends : t'.EndsPlainly start)
    (haround : ∀ v ∈ around, v.node.isList = false)
    (houtside : ∀ v ∈ t'.around, v.node.isList = false) (hentered : t.entered ≤ t'.entered) :
    t'.Itemized start := by
  have hgrows : Grows start around [] t t' :=
    Inserts.grows [] hinserts (List.forall_mem_nil _) hentered
  have hnone : ∀ i u, t.written.length ≤ i → t'.written[i]? = some u → u.outermostList? = none := by
    intro i u hi hu
    rw [hinserts.written, List.getElem?_append_right hi] at hu
    obtain ⟨code, -, rfl⟩ := List.mem_map.mp (List.mem_of_getElem? hu)
    exact WrittenUnit.outermostList?_eq_none haround
  refine h.of_grows hgrows hends houtside ?_ ?_ ?_
  · intro _ hbullet
    rcases hinserts.continues.after _ (le_refl _) (Nat.le_add_right ..) with hsame | hfresh
    · rw [hsame, hbullet]
    · rw [hfresh]
  · intro i u hi hu list hlist
    rw [hnone i u hi hu] at hlist
    cases hlist
  · intro i u hi hu hitem
    obtain ⟨list, hlist⟩ := WrittenUnit.exists_outermostList hitem
    rw [hnone i u hi hu] at hlist
    cases hlist

theorem Itemized.closes (h : t.Itemized start) {first lists : Nat}
    {f : ParagraphAttributes → ParagraphAttributes} (hcloses : Closes start t t' first f lists)
    (hf : ∀ a, (f a).bullet = a.bullet) (hends : t'.EndsPlainly start)
    (houtside : ∀ v ∈ t'.around, v.node.isList = false) (hentered : t.entered ≤ t'.entered) :
    t'.Itemized start := by
  refine ⟨hends, houtside, fun u hu list hlist => ?_, fun i u hu hitem => ?_⟩
  · rw [hcloses.written] at hu
    exact (h.entered u hu list hlist).trans_le hentered
  · rw [hcloses.written] at hu ⊢
    rw [hcloses.bullet_eq hf (List.getElem?_eq_some_iff.mp hu).1]
    exact h.items i u hu hitem

section Nodes

variable (hpresets : ∀ ordered, options.preset ordered ≠ "")

include hpresets

/-- All that is written for a node that is no text lies within its visit. -/
theorem Placed.exists_around_run (h : t.Placed start) (htext : n.isText = false) {i : Nat}
    (hi : t.written.length ≤ i) {u : WrittenUnit}
    (hu : (t.run options n.walk).written[i]? = some u) :
    ∃ inner, u.around = inner ++ ⟨t.entered, n⟩ :: t.around := by
  have hinside := (h.enter n).placed.runAll hpresets n.children
  have henter : Grows start (⟨t.entered, n⟩ :: t.around) (Node.nodesAll n.children) t (t.enter n) :=
    Inserts.grows [] (h.enter n) (List.forall_mem_nil _) (Nat.le_succ _)
  rw [(h.leave hpresets htext hinside).written] at hu
  obtain ⟨inner, haround, -⟩ := (henter.trans hinside).exists_around hi hu
  exact ⟨inner, haround⟩

/-- A list begins a paragraph, and so it gives no bullet to what was written before. -/
theorem Placed.bullet_before_list (h : t.Placed start) (hn : n.isList = true) (hsome : t.written ≠ [])
    (hbullet : (t.attributes start t.written.length).bullet = none) :
    ((t.run options n.walk).attributes start t.written.length).bullet = none := by
  have henter := h.enter n
  have hinside := henter.placed.runAll hpresets n.children
  have hbreaks : breaksAt t.state.cursor n = true := by
    by_contra hnone
    exact hsome (h.written_eq_nil (by rw [hn, Bool.or_true]) (by simpa using hnone))
  have hbreak : t.written.length < (t.enter n).written.length := by
    rw [henter.written, List.length_append, List.length_map, breakAt, if_pos hbreaks]
    exact Nat.lt_add_of_pos_right (by decide)
  have hkind : n.isText = false := by
    cases n with
    | list ordered tight items => rfl
    | _ => cases hn
  rw [(h.leave hpresets hkind hinside).restyles.before _ hbreak, hinside.attributes _ hbreak]
  rcases henter.continues.after _ (le_refl _) (Nat.le_add_right ..) with hsame | hfresh
  · rw [hsame, hbullet]
  · rw [hfresh]

/-- The break with which a node begins is no break of an item, unless the node is one. -/
theorem Placed.enter_le_of_isItemBreak (h : t.Placed start) (htext : n.isText = false)
    (hn : n.isListItem = false) {i : Nat} (hi : t.written.length ≤ i) {u : WrittenUnit}
    (hu : (t.run options n.walk).written[i]? = some u) (hitem : u.isItemBreak = true) :
    (t.enter n).written.length ≤ i := by
  have henter := h.enter n
  have hinside := henter.placed.runAll hpresets n.children
  by_contra hbreak
  rw [(h.leave hpresets htext hinside).written, hinside.getElem?_written (Nat.lt_of_not_le hbreak),
    henter.written, List.getElem?_append_right hi] at hu
  rw [isItemBreak_eq_false hn (List.mem_of_getElem? hu)] at hitem
  cases hitem

/-- A list gives bullets to all of its items but one that it ends with and that holds nothing. -/
theorem Itemized.run_list (h : t.Itemized start) (hn : n.isList = true) :
    (t.run options n.walk).Itemized start := by
  have hkind : n.isText = false ∧ n.isListItem = false := by
    cases n with
    | list ordered tight items => exact ⟨rfl, rfl⟩
    | _ => cases hn
  have hplaced := h.ends.placed
  have hleave := hplaced.leave hpresets hkind.1 ((hplaced.enter n).placed.runAll hpresets n.children)
  have hends := h.ends.run hpresets n
  have houtermost : ∀ i u, t.written.length ≤ i → (t.run options n.walk).written[i]? = some u →
      u.outermostList? = some ⟨t.entered, n⟩ := by
    intro i u hi hu
    obtain ⟨inner, haround⟩ := hplaced.exists_around_run hpresets hkind.1 hi hu
    exact WrittenUnit.outermostList?_eq_some haround hn h.outside
  refine h.of_grows (hplaced.run hpresets n) hends ?_ (hplaced.bullet_before_list hpresets hn) ?_ ?_
  · rw [around_run]
    exact h.outside
  · intro i u hi hu list hlist
    rw [houtermost i u hi hu] at hlist
    cases hlist
    exact ⟨le_refl _, hplaced.entered_lt hpresets n⟩
  · intro i u hi hu hitem
    have hfirst := hplaced.enter_le_of_isItemBreak hpresets hkind.1 hkind.2 hi hu hitem
    by_cases hnext : i + 1 < (t.run options n.walk).written.length
    · have hnext' := hnext
      rw [hleave.written] at hnext'
      rw [hleave.restyles.within _ (hfirst.trans (Nat.le_succ _)) hnext', bullet_restyle_of_isList hn]
      refine iff_of_true rfl ⟨_, List.getElem?_eq_getElem hnext, ?_⟩
      rw [houtermost i u hi hu]
      exact houtermost _ _ (hi.trans (Nat.le_succ _)) (List.getElem?_eq_getElem hnext)
    · have hend : i + 1 = (t.run options n.walk).written.length := by
        have hlength := (List.getElem?_eq_some_iff.mp hu).1
        omega
      have hfinal : (t.run options n.walk).written.getLast? = some u := by
        rw [List.getLast?_eq_getElem?, ← hend, Nat.add_sub_cancel]
        exact hu
      rw [hend, (hends.last u hfinal hitem).2]
      refine iff_of_false Bool.false_ne_true ?_
      rintro ⟨v, hv, -⟩
      exact absurd (List.getElem?_eq_some_iff.mp hv).1 hnext

theorem Itemized.run (h : t.Itemized start) (n : Node) : (t.run options n.walk).Itemized start := by
  induction n using Node.induction_children generalizing t with
  | node n ih =>
    by_cases hlist : n.isList = true
    · exact h.run_list hpresets hlist
    · have hlist' : n.isList = false := by simpa using hlist
      have hplaced := h.ends.placed
      have hends := h.ends.run hpresets n
      have hinner : ∀ v ∈ (t.enter n).around, v.node.isList = false := by
        intro v hv
        rcases List.mem_cons.mp hv with rfl | hv
        · exact hlist'
        · exact h.outside v hv
      have henter := h.inserts (hplaced.enter n) (h.ends.enter n) hinner hinner (Nat.le_succ _)
      have hchildren : ((t.enter n).run options (Node.walkAll n.children)).Itemized start :=
        run_walkAll_keeps (fun m hm t ht => ih m hm ht) henter
      have houtside : ∀ v ∈ (t.run options n.walk).around, v.node.isList = false := by
        rw [around_run]
        exact h.outside
      have hentered : ((t.enter n).run options (Node.walkAll n.children)).entered ≤
          (t.run options n.walk).entered := by
        rw [run_walk]
        exact le_refl _
      by_cases htext : n.isText = true
      · obtain ⟨content, rfl⟩ := Node.exists_eq_text htext
        exact hchildren.inserts (hchildren.ends.placed.exit_text options content) hends
          hchildren.outside houtside hentered
      · have hleave := hplaced.leave hpresets (by simpa using htext)
          ((hplaced.enter n).placed.runAll hpresets n.children)
        exact hchildren.closes hleave (bullet_restyle hlist' _) hends houtside hentered

end Nodes

end Edit.Builder.Tracked

/-- Submitting a build to a new document gives the content of an item of a list a bullet if and only if
    anything was inserted in the item's outermost list after its own break. -/
theorem Service.LocalDocument.submit_build_items (documentId title : String) (root : Node)
    {options : BuildOptions} (hpresets : ∀ ordered, options.preset ordered ≠ "") (policy : Policy)
    {token : Cancellation} (ht : token.NeverCancelled) :
    ∃ report s, (LocalDocument.new documentId title).submit documentId (build root options).operations
        policy token = (.ok report, s)
      ∧ s.document.codes = (writtenUnits root options).map (·.code) ++ [CodeUnit.lineFeed]
      ∧ ∀ i u, (writtenUnits root options)[i]? = some u → u.isItemBreak = true →
        ((s.document.attributes (i + 1)).bullet.isSome = true ↔
          ∃ v, (writtenUnits root options)[i + 1]? = some v ∧ v.outermostList? = u.outermostList?) := by
  obtain ⟨report, s, hsubmit, hcodes, hattributes⟩ :=
    submit_build_units hpresets documentId title root policy ht
  have hstart : ({} : Tracked).Itemized (.new documentId title) :=
    { ends := ⟨Tracked.placed_start documentId title, fun u hu => by cases hu⟩
      outside := List.forall_mem_nil _
      entered := List.forall_mem_nil _
      items := fun i u hu => by cases hu }
  have hitemized := hstart.run hpresets root
  refine ⟨report, s, hsubmit, hcodes, fun i u hu hitem => ?_⟩
  rw [hattributes]
  exact hitemized.items i u hu hitem

/-- An empty item has a bullet in the middle of a list, but not at its end. -/
theorem Service.LocalDocument.submit_build_items_empty :
    let root := Node.document [
      .list false true [.listItem [.textBlock [.text "a"]], .listItem [], .listItem []],
      .paragraph [.text "b"]]
    ∃ report s, (LocalDocument.new "doc" "T").submit "doc" (build root {}).operations (.sequential 5) {} =
        (.ok report, s)
      ∧ s.document.text = "\na\n\n\nb\n"
      ∧ (s.document.attributes 1).bullet.isSome = true
      ∧ (s.document.attributes 3).bullet.isSome = true
      ∧ (s.document.attributes 4).bullet.isSome = false := by
  intro root
  obtain ⟨report, s, hsubmit, hcodes, hitems⟩ := submit_build_items "doc" "T" root
    (show ∀ ordered, BuildOptions.preset {} ordered ≠ "" by decide) (.sequential 5)
    Cancellation.neverCancelled_default
  have hwritten : (writtenUnits root {}).map (·.code) = Utf16.encode "\na\n\n\nb".toList := by decide
  refine ⟨report, s, hsubmit, ?_, ?_, ?_, ?_⟩
  · rw [text, hcodes, hwritten]
    decide
  · exact (hitems 0 _ rfl rfl).mpr ⟨_, rfl, rfl⟩
  · exact (hitems 2 _ rfl rfl).mpr ⟨_, rfl, rfl⟩
  · rw [Bool.eq_false_iff]
    refine mt (hitems 3 _ rfl rfl).mp ?_
    rintro ⟨v, hv, hsame⟩
    cases hv
    cases hsame

/-- So a list that ends with an empty item has an item without a bullet. -/
theorem Service.LocalDocument.bullet_eq_none_of_emptyLastItem :
    let root := Node.document [.list false true [.listItem [.textBlock [.text "a"]], .listItem []]]
    ∃ report s, (LocalDocument.new "doc" "T").submit "doc" (build root {}).operations (.sequential 5) {} =
        (.ok report, s)
      ∧ s.document.text = "\na\n\n"
      ∧ (∃ u, (writtenUnits root {})[2]? = some u ∧ u.isItemBreak = true)
      ∧ (s.document.attributes 3).bullet = none := by
  intro root
  obtain ⟨report, s, hsubmit, hcodes, hattributes⟩ := submit_build_units
    (show ∀ ordered, BuildOptions.preset {} ordered ≠ "" by decide) "doc" "T" root (.sequential 5)
    Cancellation.neverCancelled_default
  have hwritten : (writtenUnits root {}).map (·.code) = Utf16.encode "\na\n".toList := by decide
  refine ⟨report, s, hsubmit, ?_, ⟨_, rfl, rfl⟩, ?_⟩
  · rw [text, hcodes, hwritten]
    decide
  · rw [hattributes]
    decide

end DocMark
