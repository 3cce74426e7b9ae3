-- SUMMARY: Texts of two blocks stand in different paragraphs, if the later block begins one.
import Mathlib
import DocMark.Proofs.Edit.Placement
import DocMark.Proofs.Markdown.LeafBlocks

/-!
# Blocks in paragraphs of their own

Headings and paragraphs bring their own breaks. A text block has none: it counts on the break of its
item, and so it begins a paragraph only if it is the first node of the item. Behind a heading, a rule
or another block in the item its text goes on in the paragraph where that block ended.

All that is written from where a block begins until it ends lies in the block. So two blocks of one tree
cannot share a paragraph, if the later one begins one.
-/
namespace DocMark

open Document Edit Edit.Builder Markdown Service Text

namespace Edit.Builder.Tracked

variable {start : LocalDocument} {t t' t₁ t₂ : Tracked} {options : BuildOptions} {n : Node}

/-! ## Blocks around a unit -/

/-- The node is the first one in an item of a list, where these nodes are open. -/
def OpensItem (c : Visit) (around : List Visit) : Prop :=
  ∃ inner item base, around = inner ++ c :: item :: base ∧ item.node.isListItem = true
    ∧ c.number = item.number + 1

theorem opensItem_of_getElem? {c item : Visit} {around : List Visit} {k : Nat} (hc : around[k]? = some c)
    (hitem : around[k + 1]? = some item) (hkind : item.node.isListItem = true)
    (hnumber : c.number = item.number + 1) : OpensItem c around := by
  obtain ⟨hk, rfl⟩ := List.getElem?_eq_some_iff.mp hc
  obtain ⟨hnext, rfl⟩ := List.getElem?_eq_some_iff.mp hitem
  refine ⟨around.take k, around[k + 1], around.drop (k + 2), ?_, hkind, hnumber⟩
  rw [← List.drop_eq_getElem_cons hnext, ← List.drop_eq_getElem_cons hk, List.take_append_drop]

/-- From the beginning of a paragraph up to a position all units lie in the node. -/
def FillsUpTo (units : List WrittenUnit) (i : Nat) (c : Visit) : Prop :=
  ∃ p ≤ i, BeginsAt units p ∧ ∀ k u, p ≤ k → k ≤ i → units[k]? = some u → c ∈ u.around

theorem FillsUpTo.of_grows {base : List Visit} {nodes : List Node} {i : Nat} {c : Visit}
    (h : FillsUpTo t.written i c) (hi : i < t.written.length) (hgrows : Grows start base nodes t t') :
    FillsUpTo t'.written i c := by
  obtain ⟨p, hp, hbegins, hfills⟩ := h
  refine ⟨p, hp, hbegins.of_grows (hp.trans hi.le) hgrows, fun k u hk hki hu => ?_⟩
  rw [hgrows.getElem?_written (hki.trans_lt hi)] at hu
  exact hfills k u hk hki hu

/-- Of some nodes around a unit at most one is a block that holds text. All units of its paragraph so
    far are its own, unless it is a text block behind something else. -/
structure StandsApart (units : List WrittenUnit) (i : Nat) (around inner : List Visit) : Prop where
  sole : ∀ b ∈ inner, ∀ c ∈ inner, b.node.isLeafBlock = true → c.node.isLeafBlock = true → b = c
  fills : ∀ c ∈ inner, c.node.isLeafBlock = true →
    (c.node.isTextBlock = true → OpensItem c around) → FillsUpTo units i c

theorem StandsApart.of_forall {units : List WrittenUnit} {i : Nat} {around inner : List Visit}
    (h : ∀ v ∈ inner, v.node.isLeafBlock = false) : StandsApart units i around inner where
  sole := fun b hb c _ hleaf _ => by
    rw [h b hb] at hleaf
    cases hleaf
  fills := fun c hc hleaf _ => by
    rw [h c hc] at hleaf
    cases hleaf

theorem StandsApart.leave {units : List WrittenUnit} {i : Nat} {around inner : List Visit} {b : Visit}
    (h : StandsApart units i around inner)
    (hsole : b.node.isLeafBlock = true → ∀ v ∈ inner, v.node.isLeafBlock = false)
    (hfills : b.node.isLeafBlock = true → (b.node.isTextBlock = true → OpensItem b around) →
      FillsUpTo units i b) : StandsApart units i around (inner ++ [b]) where
  sole := by
    have hone : ∀ v ∈ inner, v.node.isLeafBlock = true → b.node.isLeafBlock = true → v = b := by
      intro v hv hvleaf hbleaf
      rw [hsole hbleaf v hv] at hvleaf
      cases hvleaf
    intro v hv w hw hvleaf hwleaf
    rcases List.mem_append.mp hv with hvin | hvlast <;> rcases List.mem_append.mp hw with hwin | hwlast
    · exact h.sole v hvin w hwin hvleaf hwleaf
    · obtain rfl := List.mem_singleton.mp hwlast
      exact hone v hvin hvleaf hwleaf
    · obtain rfl := List.mem_singleton.mp hvlast
      exact (hone w hwin hwleaf hvleaf).symm
    · exact (List.mem_singleton.mp hvlast).trans (List.mem_singleton.mp hwlast).symm
  fills := by
    intro v hv
    rcases List.mem_append.mp hv with hv | hv
    · exact h.fills v hv
    · obtain rfl := List.mem_singleton.mp hv
      exact hfills

/-- From `t` to `t'` texts were written within `base`, and stand apart as far as the nodes inside of it
    go. -/
def Apart (base : List Visit) (t t' : Tracked) : Prop :=
  ∀ i u, t.written.length ≤ i → t'.written[i]? = some u → u.isText = true →
    ∃ inner, u.around = inner ++ base ∧ StandsApart t'.written i u.around inner

theorem Apart.refl (base : List Visit) (t : Tracked) : Apart base t t := by
  intro i u hi hu
  exact absurd (List.getElem?_eq_some_iff.mp hu).1 (Nat.not_lt_of_le hi)

theorem Apart.trans {base : List Visit} {nodes : List Node} (h : Apart base t t₁) (h' : Apart base t₁ t₂)
    (hgrows : Grows start base nodes t₁ t₂) : Apart base t t₂ := by
  intro i u hi hu hisText
  by_cases hold : i < t₁.written.length
  · rw [hgrows.getElem?_written hold] at hu
    obtain ⟨inner, haround, happart⟩ := h i u hi hu hisText
    exact ⟨inner, haround, happart.sole, fun c hc hleaf hopens =>
      (happart.fills c hc hleaf hopens).of_grows hold hgrows⟩
  · exact h' i u (Nat.le_of_not_lt hold) hu hisText

/-! ## Beginnings of paragraphs -/

/-- Between two nodes: the open nodes were entered before, and where the last one is an item in which no
    node was entered yet, a paragraph begins. -/
structure Ready (start : LocalDocument) (t : Tracked) : Prop where
  placed : t.Placed start
  earlier : ∀ v ∈ t.around, v.number < t.entered
  opened : ∀ item base, t.around = item :: base → item.node.isListItem = true →
    t.entered = item.number + 1 → BeginsAt t.written t.written.length

theorem Ready.enter (h : t.Ready start) (n : Node) : (t.enter n).Ready start where
  placed := (h.placed.enter n).placed
  earlier := by
    intro v hv
    rcases List.mem_cons.mp hv with rfl | hv
    · exact Nat.lt_succ_self _
    · exact (h.earlier v hv).trans (Nat.lt_succ_self _)
  opened := by
    intro item base haround hitem _
    obtain ⟨rfl, -⟩ := List.cons_eq_cons.mp haround
    refine h.placed.beginsAt_of_breaks ?_
    cases n with
    | listItem cs => rfl
    | _ => cases hitem

/-- A block begins a paragraph, unless it is a text block behind something else. -/
theorem Ready.beginsAt_enter (h : t.Ready start) (hleaf : n.isLeafBlock = true) {inner : List Visit}
    (hinner : ∀ v ∈ inner, v.node.isLeafBlock = false)
    (hopens : n.isTextBlock = true → OpensItem ⟨t.entered, n⟩ (inner ++ ⟨t.entered, n⟩ :: t.around)) :
    BeginsAt (t.enter n).written (t.enter n).written.length := by
  by_cases hstyled : n.isStyled = true
  · exact h.placed.beginsAt_enter (by rw [hstyled, Bool.true_or])
  · cases n with
    | textBlock cs =>
      obtain ⟨inner', item, base, haround, hitem, hnumber⟩ := hopens rfl
      have hnotInner : (⟨t.entered, .textBlock cs⟩ : Visit) ∉ inner := fun hmem => by
        rw [hinner _ hmem] at hleaf
        cases hleaf
      have hnotAround : (⟨t.entered, .textBlock cs⟩ : Visit) ∉ t.around := fun hmem =>
        absurd (h.earlier _ hmem) (lt_irrefl _)
      obtain ⟨-, -, hbase⟩ := (List.append_cons_inj_of_notMem hnotInner hnotAround).mp haround
      have hbegins := h.opened item base hbase hitem hnumber
      have hwritten : (t.enter (.textBlock cs)).written = t.written :=
        (h.placed.enter (.textBlock cs)).written.trans (List.append_nil _)
      rwa [hwritten]
    | heading level anchor cs | paragraph cs => exact absurd rfl hstyled
    | _ => cases hleaf

section Nodes

variable (hpresets : ∀ ordered, options.preset ordered ≠ "")

include hpresets

theorem Ready.run (h : t.Ready start) (n : Node) : (t.run options n.walk).Ready start where
  placed := (h.placed.run hpresets n).placed
  earlier := by
    rw [around_run]
    exact fun v hv => (h.earlier v hv).trans (h.placed.entered_lt hpresets n)
  opened := by
    -- The node that was just left is in every item that is still open.
    rw [around_run]
    intro item base haround _ hentered
    have hbefore : item.number < t.entered := h.earlier item (haround ▸ List.mem_cons_self ..)
    have hafter := h.placed.entered_lt hpresets n
    omega

theorem Ready.apart_run (h : t.Ready start) (hleaves : n.LeafBlocksInline) :
    Apart t.around t (t.run options n.walk) := by
  induction n using Node.induction_children generalizing t with
  | node n ih =>
    intro i u hi hu hisText
    by_cases htext : n.isText = true
    · obtain ⟨content, rfl⟩ := Node.exists_eq_text htext
      obtain ⟨inner, haround, hinner⟩ := (h.placed.run hpresets (.text content)).exists_around hi hu
      refine ⟨inner, haround, .of_forall fun v hv => ?_⟩
      rw [List.mem_singleton.mp (hinner v hv)]
      rfl
    · have htext' : n.isText = false := by simpa using htext
      have hentered := h.enter n
      have hinside := hentered.placed.runAll hpresets n.children
      have hleave := h.placed.leave hpresets htext' hinside
      obtain ⟨inner, haround, hinner, hfirst, -⟩ := h.placed.exists_inner hpresets htext' hi hu hisText
      have hchildren : Apart (t.enter n).around (t.enter n)
          ((t.enter n).run options (Node.walkAll n.children)) := by
        refine (run_walkAll_within (R := fun base t t' =>
          Grows start base (Node.nodesAll n.children) t t' ∧ Apart base t t') ?_ ?_ ?_ hentered).2.2
        · exact fun t ht => ⟨Grows.refl ht.placed _ _, Apart.refl _ t⟩
        · exact fun _ _ _ _ _ hfirst hnext => ⟨hfirst.1.trans hnext.1, hfirst.2.trans hnext.2 hnext.1⟩
        · intro m hm t ht
          exact ⟨ht.run hpresets m, (ht.placed.run hpresets m).mono (Node.nodes_subset_nodesAll hm),
            ih m hm ht (hleaves.of_mem_children hm)⟩
      rw [hleave.written] at hu ⊢
      obtain ⟨inner', haround', happart⟩ := hchildren i u hfirst hu hisText
      obtain rfl : inner' = inner := List.append_cancel_right (haround'.symm.trans haround)
      have hsole : n.isLeafBlock = true → ∀ v ∈ inner', v.node.isLeafBlock = false := fun hleaf v hv =>
        Node.isLeafBlock_eq_false_of_isInline
          (hleaves n (Node.mem_nodes_self n) hleaf v.node (hinner v hv))
      refine ⟨inner' ++ [⟨t.entered, n⟩], by rw [haround, List.append_assoc]; rfl,
        happart.leave hsole fun hleaf hopens => ?_⟩
      -- All that was written since the node was entered lies in it.
      rw [haround] at hopens
      refine ⟨_, hfirst, (h.beginsAt_enter hleaf (hsole hleaf) hopens).of_grows (le_refl _) hinside,
        fun k w hk _ hw => ?_⟩
      obtain ⟨deeper, hdeeper, -⟩ := hinside.exists_around hk hw
      rw [hdeeper]
      exact List.mem_append_right _ (List.mem_cons_self ..)

end Nodes

/-! ## Texts of blocks -/

/-- The unit at a position is text of a block. -/
structure TextOf (units : List WrittenUnit) (i : Nat) (u : WrittenUnit) (b : Visit) : Prop where
  unit : units[i]? = some u
  isText : u.isText = true
  around : b ∈ u.around
  isLeafBlock : b.node.isLeafBlock = true

theorem exists_textOf {units : List WrittenUnit} {i number : Nat}
    (h : (units[i]?).any (fun u => u.isText &&
      u.around.any fun b => b.node.isLeafBlock && b.number == number) = true) :
    ∃ u b, TextOf units i u b ∧ b.number = number := by
  obtain ⟨u, hu, h⟩ := (Option.any_eq_true _ _).mp h
  obtain ⟨hisText, h⟩ := Bool.and_eq_true_iff.mp h
  obtain ⟨b, hb, h⟩ := List.any_eq_true.mp h
  obtain ⟨hleaf, hnumber⟩ := Bool.and_eq_true_iff.mp h
  exact ⟨u, b, ⟨hu, hisText, hb, hleaf⟩, beq_iff_eq.mp hnumber⟩

end Edit.Builder.Tracked

/-- Submitting a Markdown text to a new document keeps the texts of two blocks in different paragraphs,
    unless the later block is a text block that is not the first node in its item. -/
theorem Service.LocalDocument.submit_parse_blocks (documentId title source : String)
    {options : BuildOptions} (hpresets : ∀ ordered, options.preset ordered ≠ "") (policy : Policy)
    {token : Cancellation} (ht : token.NeverCancelled) :
    ∃ report s, (LocalDocument.new documentId title).submit documentId
        (build (parse source) options).operations policy token = (.ok report, s)
      ∧ s.document.codes = (writtenUnits (parse source) options).map (·.code) ++ [CodeUnit.lineFeed]
      ∧ ∀ i j u v b c, i ≤ j → Tracked.TextOf (writtenUnits (parse source) options) i u b →
        Tracked.TextOf (writtenUnits (parse source) options) j v c → b ≠ c →
        (c.node.isTextBlock = true → Tracked.OpensItem c v.around) →
          terminatorFrom s.document.units i ≠ terminatorFrom s.document.units j := by
  obtain ⟨report, s, hsubmit, hunits⟩ :=
    submit_build_document hpresets documentId title (parse source) policy ht
  have hplaced := placed_build hpresets documentId title (parse source)
  have hstart : ({} : Tracked).Ready (.new documentId title) :=
    { placed := Tracked.placed_start documentId title
      earlier := List.forall_mem_nil _
      opened := fun _ _ haround => by cases haround }
  have happart := hstart.apart_run hpresets (leafBlocksInline_parse source)
  refine ⟨report, s, hsubmit, ?_, ?_⟩
  · rw [codes, hunits]
    exact hplaced.holds.codes
  · intro i j u v b c hij hb hc hne hopens
    obtain ⟨inner, hinner, hstands⟩ := happart i u (Nat.zero_le _) hb.unit hb.isText
    obtain ⟨inner', hinner', hstands'⟩ := happart j v (Nat.zero_le _) hc.unit hc.isText
    rw [List.append_nil] at hinner hinner'
    obtain ⟨p, hp, hbegins, hfills⟩ := hstands'.fills c (hinner' ▸ hc.around) hc.isLeafBlock hopens
    by_cases hi : p ≤ i
    · -- The earlier text would lie in both blocks.
      have hboth : c ∈ inner := hinner ▸ hfills i u hi hij hb.unit
      exact absurd (hstands.sole b (hinner ▸ hb.around) c hboth hb.isLeafBlock hc.isLeafBlock) hne
    · -- The paragraph of the later text begins behind the earlier one.
      have hline := hbegins.resolve_left (by omega)
      rw [← List.getElem?_map] at hline
      obtain ⟨t, hterm, hisTerm⟩ := hplaced.holds.exists_getElem?_terminator hline
      have hwithin : j ≤ ((writtenUnits (parse source) options).map (·.code)).length := by
        rw [List.length_map]
        exact (List.getElem?_eq_some_iff.mp hc.unit).1.le
      rw [hunits]
      exact (LocalDocument.terminatorFrom_lt (by omega) hp hterm hisTerm
        (hplaced.holds.exists_terminator hwithin)).ne

/-- A heading, and behind it the first text block of an item. -/
theorem Service.LocalDocument.submit_parse_blocks_firstInItem :
    let source := "# A\n* b\n  # C\n"
    ∃ report s, (LocalDocument.new "doc" "T").submit "doc" (build (parse source) {}).operations
        (.sequential 5) {} = (.ok report, s)
      ∧ s.document.text = "A\n\nb\nC\n"
      ∧ terminatorFrom s.document.units 0 ≠ terminatorFrom s.document.units 3 := by
  intro source
  obtain ⟨report, s, hsubmit, hcodes, hblocks⟩ := submit_parse_blocks "doc" "T" source
    (show ∀ ordered, BuildOptions.preset {} ordered ≠ "" by decide) (.sequential 5)
    Cancellation.neverCancelled_default
  have hwritten : (writtenUnits (parse source) {}).map (·.code) = Utf16.encode "A\n\nb\nC".toList := by
    decide +kernel
  obtain ⟨u, b, hb, hbnumber⟩ := Tracked.exists_textOf
    (show ((writtenUnits (parse source) {})[0]?).any (fun u => u.isText &&
      u.around.any fun b => b.node.isLeafBlock && b.number == 1) = true by decide +kernel)
  have htext : ((writtenUnits (parse source) {})[3]?).any (fun v => v.isText &&
      ((v.around[1]?).any (fun c => c.node.isLeafBlock && c.number == 5) &&
        (v.around[2]?).any fun item => item.node.isListItem && item.number == 4)) = true := by
    decide +kernel
  obtain ⟨v, hv, htext⟩ := (Option.any_eq_true _ _).mp htext
  obtain ⟨hisText, htext⟩ := Bool.and_eq_true_iff.mp htext
  obtain ⟨hinner, houter⟩ := Bool.and_eq_true_iff.mp htext
  obtain ⟨c, hc, hinner⟩ := (Option.any_eq_true _ _).mp hinner
  obtain ⟨hleaf, hnumber⟩ := Bool.and_eq_true_iff.mp hinner
  obtain ⟨item, hitem, houter⟩ := (Option.any_eq_true _ _).mp houter
  obtain ⟨hkind, hitemNumber⟩ := Bool.and_eq_true_iff.mp houter
  rw [beq_iff_eq] at hnumber hitemNumber
  have hopens : Tracked.OpensItem c v.around := Tracked.opensItem_of_getElem? hc hitem hkind (by omega)
  have htextOf : Tracked.TextOf (writtenUnits (parse source) {}) 3 v c :=
    ⟨hv, hisText, List.mem_of_getElem? hc, hleaf⟩
  have hne : b ≠ c := by
    rintro rfl
    omega
  refine ⟨report, s, hsubmit, ?_, hblocks 0 3 u v b c (by omega) hb htextOf hne fun _ => hopens⟩
  rw [text, hcodes, hwritten]
  decide

/-- A text block behind a heading in the same item goes on in the paragraph of the heading. -/
theorem Service.LocalDocument.terminatorFrom_eq_of_textBlockBehindHeading :
    let source := "* # H\n  b\n"
    ∃ report s, (LocalDocument.new "doc" "T").submit "doc" (build (parse source) {}).operations
        (.sequential 5) {} = (.ok report, s)
      ∧ s.document.text = "\n\nHb\n"
      ∧ ∃ u v b c, Tracked.TextOf (writtenUnits (parse source) {}) 2 u b
        ∧ Tracked.TextOf (writtenUnits (parse source) {}) 3 v c ∧ b ≠ c
        ∧ terminatorFrom s.document.units 2 = terminatorFrom s.document.units 3 := by
  intro source
  obtain ⟨report, s, hsubmit, hcodes, -⟩ := submit_build_units
    (show ∀ ordered, BuildOptions.preset {} ordered ≠ "" by decide) "doc" "T" (parse source)
    (.sequential 5) Cancellation.neverCancelled_default
  have hwritten : (writtenUnits (parse source) {}).map (·.code) = Utf16.encode "\n\nHb".toList := by
    decide +kernel
  have hunits : s.document.units.map (·.code) = (insertedUnits "\n\nHb\n" {}).map (·.code) := by
    refine hcodes.trans ?_
    rw [hwritten]
    decide
  obtain ⟨u, b, hb, hbnumber⟩ := Tracked.exists_textOf
    (show ((writtenUnits (parse source) {})[2]?).any (fun u => u.isText &&
      u.around.any fun b => b.node.isLeafBlock && b.number == 3) = true by decide +kernel)
  obtain ⟨v, c, hc, hcnumber⟩ := Tracked.exists_textOf
    (show ((writtenUnits (parse source) {})[3]?).any (fun u => u.isText &&
      u.around.any fun b => b.node.isLeafBlock && b.number == 5) = true by decide +kernel)
  refine ⟨report, s, hsubmit, ?_, u, v, b, c, hb, hc, ?_, ?_⟩
  · rw [text, hcodes, hwritten]
    decide
  · rintro rfl
    omega
  · rw [terminatorFrom_of_codes hunits, terminatorFrom_of_codes hunits]
    decide

end DocMark
