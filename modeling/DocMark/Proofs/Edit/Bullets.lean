-- SUMMARY: The text of a list lies in items of one list of its own, and text outside lists in no item.
import Mathlib
import DocMark.Proofs.Edit.Placement

/-!
# Where bullets land

Every list sets the bullets of all its paragraphs when it is left. The bullets of inner lists are set
first and then overwritten, so that in the end the text of an outermost list, and no other text, has
the bullet of that list. A break after a list begins a paragraph without a bullet.

Only a list without items could set a bullet where nothing was written yet; a heading that is the
first thing written would take that paragraph over.
-/
namespace DocMark

open Document Edit Edit.Builder Markdown Service Text

namespace Service

theorem listBullet_inj {m n : Nat} (h : listBullet m = listBullet n) : m = n :=
  Nat.repr_inj.mp ((String.append_right_inj "list.").mp (congrArg Bullet.listId h))

theorem listId_listBullet_inj {m n : Nat} :
    (listBullet m).listId = (listBullet n).listId ↔ listBullet m = listBullet n :=
  ⟨fun h => congrArg (Bullet.mk · none) h, congrArg Bullet.listId⟩

end Service

namespace Edit

/-- A visit to a node that is no heading, paragraph or list. -/
def Visit.IsOutside (v : Visit) : Prop := v.node.isStyled = false ∧ v.node.isList = false

theorem WrittenUnit.outermostList?_eq_none {u : WrittenUnit}
    (h : ∀ v ∈ u.around, v.node.isList = false) : u.outermostList? = none := by
  rw [outermostList?, List.filter_eq_nil_iff.mpr fun v hv => by simp [h v hv]]
  rfl

theorem WrittenUnit.outermostList?_eq_some {u : WrittenUnit} {inner base : List Visit} {v : Visit}
    (hu : u.around = inner ++ v :: base) (hv : v.node.isList = true)
    (hbase : ∀ w ∈ base, w.node.isList = false) : u.outermostList? = some v := by
  have hnone : base.filter (·.node.isList) = [] :=
    List.filter_eq_nil_iff.mpr fun w hw => by simp [hbase w hw]
  have houtermost : (v :: base).filter (·.node.isList) = [v] := by
    rw [List.filter_cons, if_pos hv, hnone]
  rw [outermostList?, hu, List.filter_append, houtermost]
  exact List.getLast?_concat

end Edit

namespace Edit.Builder

theorem bullet_restyle {n : Node} (h : n.isList = false) (number : Nat) (a : ParagraphAttributes) :
    (restyle number n a).bullet = a.bullet := by
  cases n with
  | list ordered tight items => cases h
  | _ => rfl

theorem bullet_restyle_of_isList {n : Node} (h : n.isList = true) (number : Nat)
    (a : ParagraphAttributes) : (restyle number n a).bullet = some (listBullet number) := by
  cases n with
  | list ordered tight items => rfl
  | _ => cases h

namespace Tracked

variable {start : LocalDocument} {t t' : Tracked} {options : BuildOptions} {n : Node}

/-- A closing operation that sets no bullets leaves all of them as they are. -/
theorem Closes.bullet_eq {first lists : Nat} {f : ParagraphAttributes → ParagraphAttributes}
    (hcloses : Closes start t t' first f lists) (hf : ∀ a, (f a).bullet = a.bullet) {i : Nat}
    (hi : i ≤ t.written.length) : (t'.attributes start i).bullet = (t.attributes start i).bullet := by
  by_cases hbefore : i < first
  · rw [hcloses.restyles.before i hbefore]
  · rcases Nat.lt_or_eq_of_le hi with hwithin | rfl
    · rw [hcloses.restyles.within i (Nat.le_of_not_lt hbefore) hwithin, hf]
    · rcases hcloses.restyles.last with hsame | hchanged
      · rw [hsame]
      · rw [hchanged, hf]

/-! ## Text without bullets -/

/-- From a position up to the last terminator nothing has a bullet. -/
structure Unlisted (start : LocalDocument) (first : Nat) (t : Tracked) : Prop where
  placed : t.Placed start
  within : first ≤ t.written.length
  bullet : ∀ i, first ≤ i → i ≤ t.written.length → (t.attributes start i).bullet = none

section Unlisted

variable {first : Nat}

theorem Unlisted.inserts (h : t.Unlisted start first) {text : String} {around : List Visit}
    (hinserts : Inserts start t t' text around) : t'.Unlisted start first := by
  have hlength : t'.written.length = t.written.length + (Utf16.encode text.toList).length := by
    rw [hinserts.written, List.length_append, List.length_map]
  refine ⟨hinserts.placed, ?_, fun i hi hlast => ?_⟩
  · rw [hlength]
    exact h.within.trans (Nat.le_add_right ..)
  · by_cases hold : i < t.written.length
    · rw [hinserts.continues.before i hold]
      exact h.bullet i hi hold.le
    · rw [hlength] at hlast
      rcases hinserts.continues.after i (Nat.le_of_not_lt hold) hlast with hsame | hfresh
      · rw [hsame]
        exact h.bullet _ h.within (le_refl _)
      · rw [hfresh]

theorem Unlisted.closes (h : t.Unlisted start first) {position lists : Nat}
    {f : ParagraphAttributes → ParagraphAttributes} (hf : ∀ a, (f a).bullet = a.bullet)
    (hcloses : Closes start t t' position f lists) : t'.Unlisted start first := by
  refine ⟨hcloses.placed, hcloses.written ▸ h.within, fun i hi hlast => ?_⟩
  rw [hcloses.written] at hlast
  rw [hcloses.bullet_eq hf hlast]
  exact h.bullet i hi hlast

variable (hpresets : ∀ ordered, options.preset ordered ≠ "")

include hpresets

theorem Unlisted.leave (h : ((t.enter n).run options (Node.walkAll n.children)).Unlisted start first)
    (ht : t.Placed start) (hn : n.isList = false) : (t.run options n.walk).Unlisted start first := by
  by_cases htext : n.isText = true
  · obtain ⟨content, rfl⟩ := Node.exists_eq_text htext
    exact h.inserts (h.placed.exit_text options content)
  · have hchildren := (ht.enter n).placed.runAll hpresets n.children
    exact h.closes (bullet_restyle hn _) (ht.leave hpresets (by simpa using htext) hchildren)

/-- Nodes without lists give no bullets. -/
theorem Unlisted.run (h : t.Unlisted start first) (hn : ∀ m ∈ n.nodes, m.isList = false) :
    (t.run options n.walk).Unlisted start first := by
  induction n using Node.induction_children generalizing t with
  | node n ih =>
    refine Unlisted.leave hpresets ?_ h.placed (hn n (Node.mem_nodes_self n))
    refine run_walkAll_keeps (fun m hm t ht => ih m hm ht fun k hk => ?_)
      (h.inserts (h.placed.enter n))
    exact hn k (Node.nodes_subset_of_mem_children hm hk)

theorem Unlisted.runAll (h : t.Unlisted start first) {ns : List Node}
    (hns : ∀ m ∈ Node.nodesAll ns, m.isList = false) :
    (t.run options (Node.walkAll ns)).Unlisted start first :=
  run_walkAll_keeps (fun _ hn _ ht => ht.run hpresets fun m hm =>
    hns m (Node.nodes_subset_nodesAll hn hm)) h

end Unlisted

/-! ## Outermost lists -/

/-- Some text of an outermost list lies in a paragraph with this bullet. -/
def InList (start : LocalDocument) (t : Tracked) (list : Visit) (bullet : Option Bullet) : Prop :=
  ∃ i u, t.written[i]? = some u ∧ u.isText = true ∧ u.outermostList? = some list
    ∧ (t.attributes start i).bullet = bullet

/-- A text unit of a heading or paragraph outside all lists has no bullet. -/
def NeedsNoBullet (u : WrittenUnit) (a : ParagraphAttributes) : Prop :=
  u.isText = true → u.outermostList? = none → (∃ v ∈ u.around, v.node.isStyled = true) →
    a.bullet = none

/-- Outside headings, paragraphs and lists: the bullets of all text written so far are as they should
    be. -/
structure Bulleted (start : LocalDocument) (t : Tracked) : Prop where
  placed : t.Placed start
  outside : ∀ v ∈ t.around, v.IsOutside
  plain : t.Each start NeedsNoBullet
  listed : ∀ {list bullet}, t.InList start list bullet →
    list.number < t.entered ∧ ∃ k ≤ t.listsCreated start, bullet = some (listBullet k)
  matched : ∀ {list bullet list' bullet'}, t.InList start list bullet →
    t.InList start list' bullet' → (list = list' ↔ bullet = bullet')
  unwritten : t.written = [] → t.Unlisted start 0

section Lists

variable {base : List Visit} {nodes : List Node} {list : Visit} {bullet : Option Bullet}

theorem InList.of_grows (h : t'.InList start list bullet) (hgrows : Grows start base nodes t t') :
    t.InList start list bullet
      ∨ ∃ i u, t.written.length ≤ i ∧ t'.written[i]? = some u ∧ u.isText = true
        ∧ u.outermostList? = some list ∧ (t'.attributes start i).bullet = bullet := by
  obtain ⟨i, u, hu, hisText, hlist, hbullet⟩ := h
  by_cases hi : i < t.written.length
  · left
    rw [hgrows.getElem?_written hi] at hu
    rw [hgrows.attributes i hi] at hbullet
    exact ⟨i, u, hu, hisText, hlist, hbullet⟩
  · exact Or.inr ⟨i, u, Nat.le_of_not_lt hi, hu, hisText, hlist, hbullet⟩

/-- What is written outside lists leaves the text of the lists alone. -/
theorem Bulleted.of_grows (h : t.Bulleted start) (hgrows : Grows start base nodes t t')
    (hnew : ∀ i u, t.written.length ≤ i → t'.written[i]? = some u → u.isText = true →
      u.outermostList? = none ∧ ((∃ v ∈ u.around, v.node.isStyled = true) →
        (t'.attributes start i).bullet = none))
    (houtside : ∀ v ∈ t'.around, v.IsOutside) (hunwritten : t'.written = [] → t'.Unlisted start 0) :
    t'.Bulleted start := by
  have hold : ∀ {list bullet}, t'.InList start list bullet → t.InList start list bullet := by
    intro list bullet hin
    rcases hin.of_grows hgrows with hin | ⟨i, u, hi, hu, hisText, hlist, -⟩
    · exact hin
    · rw [(hnew i u hi hu hisText).1] at hlist
      cases hlist
  refine ⟨hgrows.placed, houtside, ?_, ?_, ?_, hunwritten⟩
  · exact h.plain.of_grows hgrows fun i u hi hu hisText _ hstyled =>
      (hnew i u hi hu hisText).2 hstyled
  · intro list bullet hin
    obtain ⟨hnumber, k, hk, hbullet⟩ := h.listed (hold hin)
    exact ⟨hnumber.trans_le hgrows.entered, k, hk.trans hgrows.listsCreated, hbullet⟩
  · intro list bullet list' bullet' hin hin'
    exact h.matched (hold hin) (hold hin')

/-- What is written for a node that is no heading, paragraph or list, around no other. -/
theorem Bulleted.of_outside (h : t.Bulleted start) (hgrows : Grows start base [n] t t')
    (hbase : ∀ v ∈ base, v.IsOutside) (hn : n.isStyled = false) (hlist : n.isList = false)
    (houtside : ∀ v ∈ t'.around, v.IsOutside) (hunwritten : t'.written = [] → t'.Unlisted start 0) :
    t'.Bulleted start := by
  refine h.of_grows hgrows (fun i u hi hu _ => ?_) houtside hunwritten
  obtain ⟨inner, haround, hinner⟩ := hgrows.exists_around hi hu
  have hall : ∀ v ∈ u.around, v.IsOutside := by
    intro v hv
    rw [haround] at hv
    rcases List.mem_append.mp hv with hv | hv
    · rw [Visit.IsOutside, List.mem_singleton.mp (hinner v hv)]
      exact ⟨hn, hlist⟩
    · exact hbase v hv
  refine ⟨WrittenUnit.outermostList?_eq_none fun v hv => (hall v hv).2, ?_⟩
  rintro ⟨v, hv, hstyled⟩
  rw [(hall v hv).1] at hstyled
  cases hstyled

theorem Bulleted.unwritten_of_inserts (h : t.Bulleted start) {text : String} {around : List Visit}
    (hinserts : Inserts start t t' text around) (hnil : t'.written = []) : t'.Unlisted start 0 := by
  rw [hinserts.written] at hnil
  exact (h.unwritten (List.append_eq_nil_iff.mp hnil).1).inserts hinserts

/-- Closing operations other than those of lists change no bullets. -/
theorem Bulleted.of_closes (h : t.Bulleted start) {first lists : Nat}
    {f : ParagraphAttributes → ParagraphAttributes} (hf : ∀ a, (f a).bullet = a.bullet)
    (hcloses : Closes start t t' first f lists) (hentered : t.entered ≤ t'.entered)
    (houtside : ∀ v ∈ t'.around, v.IsOutside) : t'.Bulleted start := by
  have hold : ∀ {list bullet}, t'.InList start list bullet → t.InList start list bullet := by
    rintro list bullet ⟨i, u, hu, hisText, hlist, rfl⟩
    rw [hcloses.written] at hu
    exact ⟨i, u, hu, hisText, hlist,
      (hcloses.bullet_eq hf (List.getElem?_eq_some_iff.mp hu).1.le).symm⟩
  refine ⟨hcloses.placed, houtside, ?_, ?_, ?_, ?_⟩
  · refine h.plain.of_closes hcloses fun u a hu hisText hlist hstyled => ?_
    rw [hf]
    exact hu hisText hlist hstyled
  · intro list bullet hin
    obtain ⟨hnumber, k, hk, hbullet⟩ := h.listed (hold hin)
    refine ⟨hnumber.trans_le hentered, k, hk.trans ?_, hbullet⟩
    rw [hcloses.listsCreated]
    exact Nat.le_add_right ..
  · intro list bullet list' bullet' hin hin'
    exact h.matched (hold hin) (hold hin')
  · intro hnil
    rw [hcloses.written] at hnil
    exact (h.unwritten hnil).closes hf hcloses

end Lists

/-! ## Nodes -/

section Nodes

/-- A heading or a paragraph begins without a bullet. -/
theorem Bulleted.unlisted_enter (h : t.Bulleted start) (hn : n.isStyled = true) :
    (t.enter n).Unlisted start (t.enter n).written.length := by
  have henter := h.placed.enter n
  cases hbreaks : breaksAt t.state.cursor n with
  | true =>
    rw [breakAt, if_pos hbreaks] at henter
    refine ⟨henter.placed, le_refl _, fun i hi hlast => ?_⟩
    have hlength : (t.enter n).written.length =
        t.written.length + (Utf16.encode "\n".toList).length := by
      rw [henter.written, List.length_append, List.length_map]
    have hfresh := henter.continues.last
    rw [if_pos (by decide), ← hlength] at hfresh
    rw [Nat.le_antisymm hlast hi, hfresh]
  | false =>
    have hnil : t.written = [] := h.placed.written_eq_nil (by rw [hn, Bool.true_or]) hbreaks
    have hlength : (t.enter n).written.length = 0 := by
      rw [henter.written, hnil, breakAt, hbreaks]
      rfl
    rw [hlength]
    exact (h.unwritten hnil).inserts henter

theorem Bulleted.enter (h : t.Bulleted start) (hn : n.isStyled = false) (hlist : n.isList = false) :
    (t.enter n).Bulleted start := by
  refine h.of_outside (h.placed.grows_enter n) h.outside hn hlist ?_
    (h.unwritten_of_inserts (h.placed.enter n))
  intro v hv
  rcases List.mem_cons.mp hv with rfl | hv
  · exact ⟨hn, hlist⟩
  · exact h.outside v hv

variable (hpresets : ∀ ordered, options.preset ordered ≠ "")

include hpresets

theorem Bulleted.leave (h : t.Bulleted start) (hn : n.isStyled = false) (hlist : n.isList = false)
    (hchildren : ((t.enter n).run options (Node.walkAll n.children)).Bulleted start) :
    (t.run options n.walk).Bulleted start := by
  have houtside : ∀ v ∈ (t.run options n.walk).around, v.IsOutside := by
    rw [around_run]
    exact h.outside
  by_cases htext : n.isText = true
  · obtain ⟨content, rfl⟩ := Node.exists_eq_text htext
    exact hchildren.of_outside (hchildren.placed.grows_exit_text options content rfl) h.outside rfl rfl
      houtside (hchildren.unwritten_of_inserts (hchildren.placed.exit_text options content))
  · have hgrows := (h.placed.enter n).placed.runAll hpresets n.children
    have hleave := h.placed.leave hpresets (by simpa using htext) hgrows
    refine hchildren.of_closes (bullet_restyle hlist _) hleave ?_ houtside
    rw [run_walk]
    exact le_refl _

/-- The text of a heading or a paragraph has no bullet, and there is no list in it. -/
theorem Bulleted.run_styled (h : t.Bulleted start) (hn : n.isStyled = true)
    (hinline : ∀ m ∈ Node.nodesAll n.children, m.isInline = true) :
    (t.run options n.walk).Bulleted start := by
  have hkind : n.isText = false ∧ n.isList = false := by
    cases n with
    | heading level anchor cs | paragraph cs => exact ⟨rfl, rfl⟩
    | _ => cases hn
  have hunlisted : (t.run options n.walk).Unlisted start (t.enter n).written.length :=
    Unlisted.leave hpresets ((h.unlisted_enter hn).runAll hpresets fun m hm =>
      Node.isList_eq_false_of_isInline (hinline m hm)) h.placed hkind.2
  refine h.of_grows (h.placed.run hpresets n) (fun i u hi hu hisText => ?_) ?_ ?_
  · obtain ⟨inner, haround, hinner, hfirst, -⟩ :=
      h.placed.exists_inner hpresets hkind.1 hi hu hisText
    refine ⟨WrittenUnit.outermostList?_eq_none fun v hv => ?_, fun _ => ?_⟩
    · rw [haround] at hv
      rcases List.mem_append.mp hv with hv | hv
      · exact Node.isList_eq_false_of_isInline (hinline _ (hinner v hv))
      · rcases List.mem_cons.mp hv with rfl | hv
        · exact hkind.2
        · exact (h.outside v hv).2
    · exact hunlisted.bullet i hfirst (List.getElem?_eq_some_iff.mp hu).1.le
  · rw [around_run]
    exact h.outside
  · intro hnil
    have hlength := hunlisted.within
    rw [hnil] at hlength
    rwa [Nat.le_zero.mp hlength] at hunlisted

theorem Placed.written_run_listItem (h : t.Placed start) (hn : n.isListItem = true) :
    (t.run options n.walk).written ≠ [] := by
  obtain ⟨cs, rfl⟩ : ∃ cs, n = .listItem cs := by
    cases n with
    | listItem cs => exact ⟨cs, rfl⟩
    | _ => cases hn
  have henter := h.enter (.listItem cs)
  have hchildren := henter.placed.runAll hpresets (Node.listItem cs).children
  have hlength := hchildren.length_le
  have hbreak : (Utf16.encode (breakAt t.state.cursor (.listItem cs)).toList).length = 1 := by
    have hbreaks : breaksAt t.state.cursor (.listItem cs) = true := rfl
    rw [breakAt, if_pos hbreaks]
    decide
  rw [henter.written, List.length_append, List.length_map, hbreak] at hlength
  rw [(h.leave hpresets rfl hchildren).written]
  exact List.ne_nil_of_length_pos ((Nat.succ_pos _).trans_le hlength)

/-- Where there is an item, its break at least is written. -/
theorem Placed.written_runAll_listItem (h : t.Placed start) {item : Node} {ns : List Node}
    (hitem : item ∈ ns) (hkind : item.isListItem = true) :
    (t.run options (Node.walkAll ns)).written ≠ [] := by
  induction ns generalizing t with
  | nil => cases hitem
  | cons n ns ih =>
    have hplaced := (h.run hpresets n).placed
    rw [Node.walkAll, run_append]
    rcases List.mem_cons.mp hitem with rfl | hitem
    · have hsome := List.length_pos_iff.mpr (h.written_run_listItem hpresets hkind)
      exact List.ne_nil_of_length_pos (hsome.trans_le (hplaced.runAll hpresets ns).length_le)
    · exact ih hplaced hitem

/-- When an outermost list is left, all of its text has its bullet, which no other text has. -/
theorem Bulleted.run_list (h : t.Bulleted start) (hn : n.isList = true)
    (hitem : ∃ item ∈ n.children, item.isListItem = true) :
    (t.run options n.walk).Bulleted start := by
  have htext : n.isText = false := by
    cases n with
    | list ordered tight items => rfl
    | _ => cases hn
  have hwhole := h.placed.run hpresets n
  have hinside := (h.placed.enter n).placed.runAll hpresets n.children
  have hleave := h.placed.leave hpresets htext hinside
  have hlists := hleave.listsCreated
  rw [if_pos hn] at hlists
  have hentered := h.placed.entered_lt hpresets n
  -- The list is the outermost one around its text, and its bullet is the last one that was set.
  have hnew : ∀ i u, t.written.length ≤ i → (t.run options n.walk).written[i]? = some u →
      u.isText = true → u.outermostList? = some ⟨t.entered, n⟩
        ∧ ((t.run options n.walk).attributes start i).bullet =
          some (listBullet ((t.run options n.walk).listsCreated start)) := by
    intro i u hi hu hisText
    obtain ⟨inner, haround, -, -, hrestyled⟩ := h.placed.exists_inner hpresets htext hi hu hisText
    refine ⟨WrittenUnit.outermostList?_eq_some haround hn fun v hv => (h.outside v hv).2, ?_⟩
    rw [hrestyled, bullet_restyle_of_isList hn, hlists]
  have hcases : ∀ {list bullet}, (t.run options n.walk).InList start list bullet →
      t.InList start list bullet ∨ list = ⟨t.entered, n⟩
        ∧ bullet = some (listBullet ((t.run options n.walk).listsCreated start)) := by
    intro list bullet hin
    rcases hin.of_grows hwhole with hin | ⟨i, u, hi, hu, hisText, hlist, rfl⟩
    · exact Or.inl hin
    · obtain ⟨houtermost, hbullet⟩ := hnew i u hi hu hisText
      rw [houtermost] at hlist
      exact Or.inr ⟨(Option.some.inj hlist).symm, hbullet⟩
  -- Both the visit and the bullet are later than all that there were before.
  have hapart : ∀ {list bullet}, t.InList start list bullet → list ≠ ⟨t.entered, n⟩
      ∧ bullet ≠ some (listBullet ((t.run options n.walk).listsCreated start)) := by
    intro list bullet hin
    obtain ⟨hnumber, k, hk, rfl⟩ := h.listed hin
    refine ⟨?_, ?_⟩
    · rintro rfl
      exact absurd hnumber (lt_irrefl _)
    · intro heq
      have hsame := listBullet_inj (Option.some.inj heq)
      have hbefore := hinside.listsCreated
      rw [(h.placed.enter n).listsCreated] at hbefore
      omega
  refine ⟨hwhole.placed, ?_, ?_, ?_, ?_, ?_⟩
  · rw [around_run]
    exact h.outside
  · refine h.plain.of_grows hwhole fun i u hi hu hisText hnone _ => ?_
    rw [(hnew i u hi hu hisText).1] at hnone
    cases hnone
  · intro list bullet hin
    rcases hcases hin with hin | ⟨rfl, rfl⟩
    · obtain ⟨hnumber, k, hk, hbullet⟩ := h.listed hin
      exact ⟨hnumber.trans hentered, k, hk.trans hwhole.listsCreated, hbullet⟩
    · exact ⟨hentered, _, le_refl _, rfl⟩
  · intro list bullet list' bullet' hin hin'
    rcases hcases hin with hin | ⟨rfl, rfl⟩
    · rcases hcases hin' with hin' | ⟨rfl, rfl⟩
      · exact h.matched hin hin'
      · exact iff_of_false (hapart hin).1 (hapart hin).2
    · rcases hcases hin' with hin' | ⟨rfl, rfl⟩
      · exact iff_of_false (hapart hin').1.symm (hapart hin').2.symm
      · exact iff_of_true rfl rfl
  · intro hnil
    rw [hleave.written] at hnil
    obtain ⟨item, hmem, hkind⟩ := hitem
    exact absurd hnil ((h.placed.enter n).placed.written_runAll_listItem hpresets hmem hkind)

theorem Bulleted.run (h : t.Bulleted start) (hstyles : n.StylesInlines) (hlists : n.ListsHaveItems) :
    (t.run options n.walk).Bulleted start := by
  induction n using Node.induction_children generalizing t with
  | node n ih =>
    have hself := Node.mem_nodes_self n
    by_cases hn : n.isStyled = true
    · exact h.run_styled hpresets hn (hstyles n hself hn)
    · by_cases hlist : n.isList = true
      · exact h.run_list hpresets hlist (hlists n hself hlist)
      · have hn' : n.isStyled = false := by simpa using hn
        have hlist' : n.isList = false := by simpa using hlist
        refine h.leave hpresets hn' hlist' ?_
        exact run_walkAll_keeps (fun m hm t ht => ih m hm ht (hstyles.of_mem_children hm)
          (hlists.of_mem_children hm)) (h.enter hn' hlist')

end Nodes

end Tracked

end Edit.Builder

/-- Submitting a build to a new document gives the text of every list a bullet, the same for all of an
    outermost list and for no other; and headings and paragraphs outside lists get none. -/
theorem Service.LocalDocument.submit_build_bullets (documentId title : String) {root : Node}
    (hstyles : root.StylesInlines) (hlists : root.ListsHaveItems) {options : BuildOptions}
    (hpresets : ∀ ordered, options.preset ordered ≠ "") (policy : Policy) {token : Cancellation}
    (ht : token.NeverCancelled) :
    ∃ report s, (LocalDocument.new documentId title).submit documentId (build root options).operations
        policy token = (.ok report, s)
      ∧ s.document.codes = (writtenUnits root options).map (·.code) ++ [CodeUnit.lineFeed]
      ∧ ∀ i u, (writtenUnits root options)[i]? = some u → u.isText = true →
        (u.outermostList? = none → (∃ n ∈ u.nodes, n.isStyled = true) →
            (s.document.attributes i).bullet = none)
          ∧ ∀ list, u.outermostList? = some list →
            (s.document.attributes i).bullet.isSome = true
              ∧ ∀ j v list', (writtenUnits root options)[j]? = some v → v.isText = true →
                v.outermostList? = some list' →
                  (list = list' ↔ (s.document.attributes i).bullet.map (·.listId) =
                    (s.document.attributes j).bullet.map (·.listId)) := by
  obtain ⟨report, s, hsubmit, hcodes, hattributes⟩ :=
    submit_build_units hpresets documentId title root policy ht
  have hstart : ({} : Tracked).Bulleted (.new documentId title) :=
    { placed := Tracked.placed_start documentId title
      outside := List.forall_mem_nil _
      plain := fun i u hu => by cases hu
      listed := fun ⟨i, u, hu, _⟩ => by cases hu
      matched := fun ⟨i, u, hu, _⟩ => by cases hu
      unwritten := fun _ => ⟨Tracked.placed_start documentId title, le_refl _, fun i _ hi => by
        cases Nat.le_zero.mp hi
        rfl⟩ }
  have hbulleted := hstart.run hpresets hstyles hlists
  refine ⟨report, s, hsubmit, hcodes, fun i u hu hisText => ⟨?_, fun list hlist => ?_⟩⟩
  · rintro hnone ⟨n, hn, hstyled⟩
    obtain ⟨v, hv, rfl⟩ := List.mem_map.mp hn
    rw [hattributes]
    exact hbulleted.plain i u hu hisText hnone ⟨v, hv, hstyled⟩
  · have hin : (Tracked.run options {} root.walk).InList (.new documentId title) list _ :=
      ⟨i, u, hu, hisText, hlist, rfl⟩
    obtain ⟨-, k, -, hbullet⟩ := hbulleted.listed hin
    rw [hattributes]
    refine ⟨by rw [hbullet]; rfl, fun j v list' hv hvisText hlist' => ?_⟩
    have hin' : (Tracked.run options {} root.walk).InList (.new documentId title) list' _ :=
      ⟨j, v, hv, hvisText, hlist', rfl⟩
    obtain ⟨-, k', -, hbullet'⟩ := hbulleted.listed hin'
    rw [hbulleted.matched hin hin', hbullet, hbullet', Option.map_some, Option.map_some,
      Option.some_inj, Option.some_inj]
    exact listId_listBullet_inj.symm

/-- Two lists, the first of which holds another one, and a paragraph between them. -/
theorem Service.LocalDocument.submit_build_bullets_nestedLists :
    let root := Node.document [
      .list true false [.listItem [.textBlock [.text "a"], .list false true [.listItem [.text "b"]]]],
      .paragraph [.text "c"], .list false false [.listItem [.text "d"]]]
    ∃ report s, (LocalDocument.new "doc" "T").submit "doc" (build root {}).operations (.sequential 5) {} =
        (.ok report, s)
      ∧ s.document.text = "\na\n\nb\nc\n\nd\n"
      ∧ (s.document.attributes 1).bullet.isSome = true
      ∧ ((s.document.attributes 1).bullet.map (·.listId) =
        (s.document.attributes 4).bullet.map (·.listId))
      ∧ (s.document.attributes 6).bullet = none
      ∧ ((s.document.attributes 4).bullet.map (·.listId) ≠
        (s.document.attributes 9).bullet.map (·.listId)) := by
  intro root
  obtain ⟨report, s, hsubmit, hcodes, hbullets⟩ := submit_build_bullets "doc" "T"
    (show root.StylesInlines by decide) (show root.ListsHaveItems by decide)
    (show ∀ ordered, BuildOptions.preset {} ordered ≠ "" by decide) (.sequential 5)
    Cancellation.neverCancelled_default
  have hwritten : (writtenUnits root {}).map (·.code) =
      Utf16.encode "\na\n\nb\nc\n\nd".toList := by decide
  obtain ⟨hbullet, hsame⟩ := (hbullets 1 _ rfl rfl).2 _ rfl
  obtain ⟨-, hother⟩ := (hbullets 4 _ rfl rfl).2 _ rfl
  refine ⟨report, s, hsubmit, ?_, hbullet, (hsame 4 _ _ rfl rfl rfl).mp rfl, ?_, ?_⟩
  · rw [text, hcodes, hwritten]
    decide
  · exact (hbullets 6 _ rfl rfl).1 rfl ⟨_, .tail _ (.head _), rfl⟩
  · refine mt (hother 9 _ _ rfl rfl rfl).mpr fun heq => ?_
    cases congrArg Visit.number heq

end DocMark
