-- SUMMARY: No text spells two trees.
import Mathlib
import DocMark.Proofs.Json.Skipping

/-!
# One tree for a text

Where a value ends is decided by what is passed over as a value, so two trees spelled at one place of a text
have the same text. Its first character tells which kind of tree it is, and its items are told apart one by one.
-/
namespace DocMark.Json

-- ---------------------------------------------------------------------------
-- Lists of items
-- ---------------------------------------------------------------------------

section Lists

variable {α : Type} {close : Char} {spells : α → List Char → Prop} {n : Nat} {as bs : List α} {cs : List Char}

/-- Items are told apart that are no longer than `n`, whatever follows them in a list. -/
structure Separable (close : Char) (spells : α → List Char → Prop) (n : Nat) : Prop where
  begins : ∀ {a cs}, spells a cs → BeginsItem close cs
  unique : ∀ {a b cs cs' rest rest'}, spells a cs → spells b cs' → cs.length ≤ n → Delimits rest →
    Delimits rest' → cs ++ rest = cs' ++ rest' → a = b ∧ rest = rest'

/-- Blanks in front do not hide where an item begins. -/
theorem Separable.blank_append_inj (h : Separable close spells n) {a b : α}
    {blank blank' piece piece' more more' : List Char} (hblank : AllBlank blank) (hblank' : AllBlank blank')
    (ha : spells a piece) (hb : spells b piece') (heq : blank ++ (piece ++ more) = blank' ++ (piece' ++ more')) :
    piece ++ more = piece' ++ more' := by
  obtain ⟨c, cs, rfl, hc, -⟩ := h.begins ha
  obtain ⟨d, ds, rfl, hd, -⟩ := h.begins hb
  have hskip := congrArg skipBlank heq
  rwa [skipBlank_append hblank, skipBlank_append hblank', List.cons_append, List.cons_append, skipBlank_cons hc,
    skipBlank_cons hd] at hskip

theorem Continued.delimits_self (h : Continued close spells as cs) (hclose : close = ']' ∨ close = '}') :
    Delimits cs := by
  have hdelimits := h.delimits hclose []
  rwa [List.append_nil] at hdelimits

theorem Continued.unique (hclose : close = ']' ∨ close = '}') (hspells : Separable close spells n)
    (ha : Continued close spells as cs) (hb : Continued close spells bs cs) (hlength : cs.length ≤ n) :
    as = bs := by
  have hblank : isBlank close = false := by rcases hclose with rfl | rfl <;> rfl
  have hcomma : isBlank ',' = false := by decide
  have hne : close ≠ ',' := by rcases hclose with rfl | rfl <;> decide
  generalize hcs : cs = ds at hb
  induction ha generalizing bs ds with
  | nil hend =>
    cases hb with
    | nil => rfl
    | cons hbefore hafter hb hbs =>
      have hskip := congrArg skipBlank hcs
      rw [skipBlank_append hend, skipBlank_append hbefore, skipBlank_cons hblank, skipBlank_cons hcomma] at hskip
      exact absurd (List.cons.inj hskip).1 hne
  | @cons before after piece more a as hbefore hafter ha has ih =>
    cases hb with
    | nil hend =>
      have hskip := congrArg skipBlank hcs
      rw [skipBlank_append hend, skipBlank_append hbefore, skipBlank_cons hblank, skipBlank_cons hcomma] at hskip
      exact absurd (List.cons.inj hskip).1 hne.symm
    | cons hbefore' hafter' hb hbs =>
      have hskip := congrArg skipBlank hcs
      rw [skipBlank_append hbefore, skipBlank_append hbefore', skipBlank_cons hcomma,
        skipBlank_cons hcomma] at hskip
      have hitems := hspells.blank_append_inj hafter hafter' ha hb (List.cons.inj hskip).2
      simp only [List.length_append, List.length_cons] at hlength
      obtain ⟨rfl, hmore⟩ := hspells.unique ha hb (by omega) (has.delimits_self hclose)
        (hbs.delimits_self hclose) hitems
      rw [ih (by omega) _ hmore hbs]

theorem Listed.unique (hclose : close = ']' ∨ close = '}') (hspells : Separable close spells n)
    (ha : Listed close spells as cs) (hb : Listed close spells bs cs) (hlength : cs.length ≤ n) : as = bs := by
  have hblank : isBlank close = false := by rcases hclose with rfl | rfl <;> rfl
  generalize hcs : cs = ds at hb
  cases ha with
  | nil hend =>
    cases hb with
    | nil => rfl
    | cons hfirst hb hbs =>
      obtain ⟨c, more, rfl, hc, hne⟩ := hspells.begins hb
      have hskip := congrArg skipBlank hcs
      rw [skipBlank_append hend, skipBlank_append hfirst, List.cons_append, skipBlank_cons hblank,
        skipBlank_cons hc] at hskip
      exact absurd (List.cons.inj hskip).1.symm hne
  | cons hfirst ha has =>
    cases hb with
    | nil hend =>
      obtain ⟨c, more, rfl, hc, hne⟩ := hspells.begins ha
      have hskip := congrArg skipBlank hcs
      rw [skipBlank_append hend, skipBlank_append hfirst, List.cons_append, skipBlank_cons hblank,
        skipBlank_cons hc] at hskip
      exact absurd (List.cons.inj hskip).1 hne
    | cons hfirst' hb hbs =>
      have hitems := hspells.blank_append_inj hfirst hfirst' ha hb hcs
      simp only [List.length_append] at hlength
      obtain ⟨rfl, rfl⟩ := hspells.unique ha hb (by omega) (has.delimits_self hclose)
        (hbs.delimits_self hclose) hitems
      rw [has.unique hclose hspells hbs (by omega)]

end Lists

-- ---------------------------------------------------------------------------
-- Trees
-- ---------------------------------------------------------------------------

namespace Tree

/-- Where a value ends does not depend on the tree that it is taken for. -/
theorem Spells.append_inj {t t' : Tree} {cs cs' rest rest' : List Char} (h : t.Spells cs) (h' : t'.Spells cs')
    (hrest : Delimits rest) (hrest' : Delimits rest') (heq : cs ++ rest = cs' ++ rest') :
    cs = cs' ∧ rest = rest' := by
  have hskip := skipValue_of_spells allBlank_nil h hrest
  rw [heq, skipValue_of_spells allBlank_nil h' hrest'] at hskip
  cases hskip
  exact ⟨List.append_cancel_right heq, rfl⟩

theorem separable_spellsMember {n : Nat} (h : Separable ']' Spells n) : Separable '}' SpellsMember n where
  begins := by
    rintro _ _ ⟨⟩
    exact ⟨'"', _, rfl, by decide, by decide⟩
  unique := by
    intro a b cs cs' rest rest' ha hb hlength hrest hrest' heq
    cases ha with
    | @mk key t before after piece hkey hbefore hafter ht =>
      cases hb with
      | @mk key' t' before' after' piece' hkey' hbefore' hafter' ht' =>
        simp only [List.length_append, List.length_cons] at hlength
        simp only [List.cons_append, List.append_assoc, List.cons.injEq, true_and] at heq
        obtain ⟨rfl, hcolon⟩ := hkey.unique hkey' heq
        have hcolonChar : isBlank ':' = false := by decide
        have hskip := congrArg skipBlank hcolon
        rw [skipBlank_append hbefore, skipBlank_append hbefore', skipBlank_cons hcolonChar,
          skipBlank_cons hcolonChar] at hskip
        have hvalue := h.blank_append_inj hafter hafter' ht ht' (List.cons.inj hskip).2
        obtain ⟨rfl, rfl⟩ := h.unique ht ht' (by omega) hrest hrest' hvalue
        exact ⟨rfl, rfl⟩

/-- Trees that may begin with the same character. -/
inductive SameKind : Tree → Tree → Prop where
  | null : SameKind .null .null
  | bool (b : Bool) : SameKind (.bool b) (.bool b)
  | number (v w : List Char) : SameKind (.number v) (.number w)
  | string (v w : List Char) : SameKind (.string v) (.string w)
  | array (ts us : List Tree) : SameKind (.array ts) (.array us)
  | object (ms ls : List (List Char × Tree)) : SameKind (.object ms) (.object ls)

theorem Opens.sameKind {t t' : Tree} {c : Char} (h : t.Opens c) (h' : t'.Opens c) : SameKind t t' := by
  -- A number is the only kind that more than one character may begin.
  have hnumber : ∀ {v : List Char} {d : Char},
      (Tree.number v).Opens d → d ∉ ['n', 't', 'f', '"', '[', '\x7b'] := by
    rintro v d (rfl | hd) hmem
    · revert hmem
      decide
    · simp only [List.mem_cons, List.not_mem_nil, or_false] at hmem
      rcases hmem with rfl | rfl | rfl | rfl | rfl | rfl <;> cases hd
  cases t with
  | number v =>
    cases t' with
    | number w => exact .number v w
    | bool b => exact absurd (by cases b <;> simp_all [Opens]) (hnumber h)
    | _ => exact absurd (by simp_all [Opens]) (hnumber h)
  | bool b =>
    cases t' with
    | number w => exact absurd (by cases b <;> simp_all [Opens]) (hnumber h')
    | bool b' => cases b <;> cases b' <;> first | exact .bool _ | (subst h; cases h')
    | _ => cases b <;> subst h <;> cases h'
  | _ =>
    cases t' with
    | number w => exact absurd (by simp_all [Opens]) (hnumber h')
    | bool b => cases b <;> subst h <;> cases h'
    | _ => first | (subst h; cases h'; done) | constructor

theorem Opens.eq_null {t : Tree} (h : t.Opens 'n') : t = .null := by
  have hkind : SameKind t .null := h.sameKind rfl
  cases hkind
  rfl

theorem Spells.sameKind {t t' : Tree} {cs : List Char} (h : t.Spells cs) (h' : t'.Spells cs) :
    SameKind t t' := by
  obtain ⟨c, more, rfl, hc⟩ := h.opens
  obtain ⟨d, more', heq, hd⟩ := h'.opens
  obtain ⟨rfl, -⟩ := List.cons.inj heq
  exact hc.sameKind hd

/-- A text spells one tree at most. -/
theorem Spells.unique {t t' : Tree} {cs : List Char} (h : t.Spells cs) (h' : t'.Spells cs) : t = t' := by
  -- The induction is on a bound for the length; the items of a list are shorter than it.
  suffices hbound :
      ∀ n (t t' : Tree) (cs : List Char), cs.length ≤ n → t.Spells cs → t'.Spells cs → t = t' from
    hbound cs.length t t' cs (Nat.le_refl _) h h'
  intro n
  induction n with
  | zero =>
    intro t t' cs hlength ht
    obtain ⟨c, more, rfl, -⟩ := ht.opens
    cases hlength
  | succ n ih =>
    intro t t' cs hlength ht ht'
    have hseparable : Separable ']' Spells n :=
      ⟨Spells.beginsItem, fun {a b piece piece' rest rest'} ha hb hle hrest hrest' heq => by
        obtain ⟨rfl, rfl⟩ := ha.append_inj hb hrest hrest' heq
        exact ⟨ih a b piece hle ha hb, rfl⟩⟩
    cases ht.sameKind ht' with
    | null => rfl
    | bool b => rfl
    | number v w =>
      cases ht
      cases ht'
      rfl
    | string v w =>
      cases ht
      generalize hcs : '"' :: (v ++ ['"']) = cs at ht'
      cases ht'
      simpa using hcs
    | array ts us =>
      cases ht with
      | array hts =>
        cases ht' with
        | array hus => rw [hts.unique (.inl rfl) hseparable hus (Nat.le_of_succ_le_succ hlength)]
    | object ms ls =>
      cases ht with
      | object hms =>
        cases ht' with
        | object hls =>
          rw [hms.unique (.inr rfl) (separable_spellsMember hseparable) hls (Nat.le_of_succ_le_succ hlength)]

/-- Blanks around it do not matter. -/
theorem SpelledIn.unique {t t' : Tree} {text : String} (h : t.SpelledIn text) (h' : t'.SpelledIn text) :
    t = t' := by
  obtain ⟨before, cs, after, htext, hbefore, hcs, hafter⟩ := h
  obtain ⟨before', cs', after', htext', hbefore', hcs', hafter'⟩ := h'
  obtain ⟨c, more, rfl, hc⟩ := hcs.opens
  obtain ⟨d, more', rfl, hd⟩ := hcs'.opens
  have hskip := congrArg skipBlank (htext.symm.trans htext')
  rw [skipBlank_append hbefore, skipBlank_append hbefore', List.cons_append, List.cons_append,
    skipBlank_cons hc.isBlank, skipBlank_cons hd.isBlank] at hskip
  have hdelimits : ∀ {blank : List Char}, AllBlank blank → Delimits blank := fun hblank => by
    have hend := Delimits.blank_append hblank delimits_nil
    rwa [List.append_nil] at hend
  have hpieces : c :: more = d :: more' := (hcs.append_inj hcs' (hdelimits hafter) (hdelimits hafter') hskip).1
  exact hcs.unique (hpieces ▸ hcs')

end Tree

end DocMark.Json
