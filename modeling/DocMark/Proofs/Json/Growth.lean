-- SUMMARY: What a tree holds stays the same when its objects get unknown members or their members change places.
import Mathlib
import DocMark.Proofs.Json.Holding

/-!
# Growing objects

An object that is read as a record may get further members, under names that the record does not know, and its
members may change places. Neither changes what the whole tree holds, wherever the object stands in it.
-/
namespace DocMark.Json.Schema

open Results

variable {K : Type} {schema : Schema K}

-- ---------------------------------------------------------------------------
-- Growth
-- ---------------------------------------------------------------------------

/-- One tree grows into another, as what a shape asks for: in some object that is read as a record a member is
    inserted that the record does not know, or the members change places. New keys are among the `allowed` ones. -/
inductive Grows (schema : Schema K) (allowed : List Char → Prop) : Shape K → Tree → Tree → Prop where
  | insert {part : K} {typeName : String} {members : List (Member K)} {key : List Char} {t : Tree}
      {before after : List (List Char × Tree)} (hpart : schema part = .record typeName members)
      (hallowed : allowed key) (hunknown : ∀ m ∈ members, ¬ Unescaped key m.name.toList) :
      Grows schema allowed (.one part) (.object (before ++ after)) (.object (before ++ (key, t) :: after))
  | permute {part : K} {typeName : String} {members : List (Member K)} {ms ls : List (List Char × Tree)}
      (hpart : schema part = .record typeName members) (h : ms.Perm ls) :
      Grows schema allowed (.one part) (.object ms) (.object ls)
  | member {part : K} {typeName : String} {members : List (Member K)} {m : Member K} {key : List Char} {t u : Tree}
      {before after : List (List Char × Tree)} (hpart : schema part = .record typeName members) (hm : m ∈ members)
      (hkey : Unescaped key m.name.toList) (h : Grows schema allowed m.shape t u) :
      Grows schema allowed (.one part) (.object (before ++ (key, t) :: after))
        (.object (before ++ (key, u) :: after))
  | position {part : K} {typeName : String} {members : List (Member K)} {m : Member K} {t u : Tree}
      {before after : List Tree} (hpart : schema part = .record typeName members)
      (hm : members[before.length]? = some m) (h : Grows schema allowed m.shape t u) :
      Grows schema allowed (.one part) (.array (before ++ t :: after)) (.array (before ++ u :: after))
  | element {part : K} {t u : Tree} {before after : List Tree} (h : Grows schema allowed (.one part) t u) :
      Grows schema allowed (.many part) (.array (before ++ t :: after)) (.array (before ++ u :: after))
  | choice {part inner : K} {alternatives : List (String × K)} {key : List Char} {name : String} {i : Nat}
      {t u : Tree} (hpart : schema part = .choice alternatives) (hkey : Unescaped key name.toList)
      (hname : alternative? alternatives name = .ok (i, inner)) (h : Grows schema allowed (.one inner) t u) :
      Grows schema allowed (.one part) (.object [(key, t)]) (.object [(key, u)])

/-- A key that stands for some name. One with an escape for half of a pair does not. -/
def Named (key : List Char) : Prop := ∃ name : String, Unescaped key name.toList

theorem Grows.ne_null {allowed : List Char → Prop} {shape : Shape K} {t u : Tree}
    (h : Grows schema allowed shape t u) : t ≠ .null ∧ u ≠ .null := by
  cases h <;> exact ⟨nofun, nofun⟩

-- ---------------------------------------------------------------------------
-- Members of objects
-- ---------------------------------------------------------------------------

section Slots

variable {below : Contents K} {members : List (Member K)} {slots filled : List (Option Datum)}
  {before after : List (List Char × Tree)} {key : List Char} {t : Tree}

theorem position?_eq_none_iff {name : String} :
    position? members name = none ↔ ∀ m ∈ members, m.name ≠ name := by
  simp [position?, List.findIdx?_eq_none_iff]

theorem Fills.insert {name : String} (hkey : Unescaped key name.toList) (hname : position? members name = none)
    (h : Fills below members slots (before ++ after) filled) :
    Fills below members slots (before ++ (key, t) :: after) filled := by
  induction before generalizing slots with
  | nil => exact .unknown hkey hname h
  | cons m before ih =>
    cases h with
    | unknown hkey' hname' h => exact .unknown hkey' hname' (ih h)
    | known hkey' hname' hslot hm hd h => exact .known hkey' hname' hslot hm hd (ih h)

/-- The order of the members does not matter, since each slot is filled once. -/
theorem Fills.perm {ms ls : List (List Char × Tree)} (hperm : ms.Perm ls)
    (h : Fills below members slots ms filled) : Fills below members slots ls filled := by
  induction hperm generalizing slots with
  | nil => exact h
  | cons m _ ih =>
    cases h with
    | unknown hkey hname h => exact .unknown hkey hname (ih h)
    | known hkey hname hslot hm hd h => exact .known hkey hname hslot hm hd (ih h)
  | swap m l ms =>
    cases h with
    | unknown hkey hname h =>
      cases h with
      | unknown hkey' hname' h => exact .unknown hkey' hname' (.unknown hkey hname h)
      | known hkey' hname' hslot' hm' hd' h => exact .known hkey' hname' hslot' hm' hd' (.unknown hkey hname h)
    | @known _ _ _ _ _ i _ d _ hkey hname hslot hm hd h =>
      cases h with
      | unknown hkey' hname' h => exact .unknown hkey' hname' (.known hkey hname hslot hm hd h)
      | @known _ _ _ _ _ j _ e _ hkey' hname' hslot' hm' hd' h =>
        -- The second member finds its slot empty, so it is not the slot that the first one has filled.
        have hne : i ≠ j := by
          rintro rfl
          have hlt := (List.getElem?_eq_some_iff.mp hslot).1
          rw [List.getElem?_set_self hlt] at hslot'
          cases hslot'
        rw [List.getElem?_set_ne hne] at hslot'
        rw [List.set_comm _ _ hne] at h
        refine .known hkey' hname' hslot' hm' hd' (.known hkey hname ?_ hm hd h)
        rwa [List.getElem?_set_ne hne.symm]
  | trans _ _ ih ih' => exact ih' (ih h)

theorem eq_of_position? {m m' : Member K} {i : Nat} (hnodup : (members.map (·.name)).Nodup) (hm : m ∈ members)
    (hposition : position? members m.name = some i) (hi : members[i]? = some m') : m' = m := by
  obtain ⟨hlt, hname, -⟩ := List.findIdx?_eq_some_iff_getElem.mp hposition
  obtain ⟨-, rfl⟩ := List.getElem?_eq_some_iff.mp hi
  exact List.inj_on_of_nodup_map hnodup (List.getElem_mem hlt) hm (by simpa using hname)

/-- What a known member holds may be written otherwise. -/
theorem Fills.member {m : Member K} {u : Tree} (hnodup : (members.map (·.name)).Nodup) (hm : m ∈ members)
    (hkey : Unescaped key m.name.toList) (hholds : ∀ d, HoldsMember below m t d → HoldsMember below m u d)
    (h : Fills below members slots (before ++ (key, t) :: after) filled) :
    Fills below members slots (before ++ (key, u) :: after) filled := by
  induction before generalizing slots with
  | nil =>
    cases h with
    | unknown hkey' hname h => exact .unknown hkey' hname h
    | known hkey' hname hslot hi hd h =>
      have hsame := hkey.unique hkey'
      rw [← hsame] at hname
      obtain rfl := eq_of_position? hnodup hm hname hi
      exact .known hkey hname hslot hi (hholds _ hd) h
  | cons l before ih =>
    cases h with
    | unknown hkey' hname h => exact .unknown hkey' hname (ih h)
    | known hkey' hname hslot hi hd h => exact .known hkey' hname hslot hi hd (ih h)

end Slots

-- ---------------------------------------------------------------------------
-- Members of arrays
-- ---------------------------------------------------------------------------

theorem HoldsPositions.replace {below : Contents K} {members : List (Member K)} {m : Member K} {t u : Tree}
    {before after : List Tree} {ds : List Datum} (hm : members[before.length]? = some m)
    (hholds : ∀ d, HoldsMember below m t d → HoldsMember below m u d)
    (h : HoldsPositions below members (before ++ t :: after) ds) :
    HoldsPositions below members (before ++ u :: after) ds := by
  induction before generalizing members ds with
  | nil =>
    cases h with
    | cons hd h =>
      obtain rfl : _ = m := by simpa using hm
      exact .cons (hholds _ hd) h
  | cons v before ih =>
    cases h with
    | cons hd h => exact .cons hd (ih (by simpa using hm) h)

theorem forall₂_replace {α β : Type} {r : α → β → Prop} {a b : α} {before after : List α} {bs : List β}
    (hab : ∀ c, r a c → r b c) (h : List.Forall₂ r (before ++ a :: after) bs) :
    List.Forall₂ r (before ++ b :: after) bs := by
  induction before generalizing bs with
  | nil =>
    cases h with
    | cons hd h => exact .cons (hab _ hd) h
  | cons c before ih =>
    cases h with
    | cons hd h => exact .cons hd (ih h)

-- ---------------------------------------------------------------------------
-- Whole trees
-- ---------------------------------------------------------------------------

theorem HoldsMember.of_holdsShape {below : Contents K} {m : Member K} {t u : Tree} {d : Datum} (ht : t ≠ .null)
    (hu : u ≠ .null) (hholds : HoldsShape below m.shape t d → HoldsShape below m.shape u d)
    (h : HoldsMember below m t d) : HoldsMember below m u d := by
  cases h with
  | absent hnullable => exact absurd rfl ht
  | present hnull h => exact .present (fun _ => hu) (hholds h)

/-- A part holds what its description says, one level below. -/
theorem holdsShape_one_iff {depth : Nat} {part : K} {t : Tree} {d : Datum} :
    HoldsShape (contentsAt schema depth) (.one part) t d ↔
      ∃ n, depth = n + 1 ∧ Holds (contentsAt schema n) (schema part) t d := by
  constructor
  · intro h
    cases h with
    | one h =>
      cases depth with
      | zero => cases h
      | succ n => exact ⟨n, rfl, holdsPart_succ.mp h⟩
  · rintro ⟨n, rfl, h⟩
    exact .one (holdsPart_succ.mpr h)

/-- What a tree holds does not change when it grows. -/
theorem HoldsShape.grows
    (hnodup : ∀ {part typeName members}, schema part = .record typeName members → (members.map (·.name)).Nodup)
    {shape : Shape K} {t u : Tree} (hgrows : Grows schema Named shape t u) {depth : Nat} {d : Datum}
    (h : HoldsShape (contentsAt schema depth) shape t d) : HoldsShape (contentsAt schema depth) shape u d := by
  induction hgrows generalizing depth d with
  | insert hpart hallowed hunknown =>
    obtain ⟨name, hkey⟩ := hallowed
    have hname : position? _ name = none := position?_eq_none_iff.mpr fun m hm heq =>
      hunknown m hm (heq ▸ hkey)
    simp only [holdsShape_one_iff, hpart] at h ⊢
    obtain ⟨n, rfl, h⟩ := h
    refine ⟨n, rfl, ?_⟩
    cases h with
    | object hslots hsettle => exact .object (hslots.insert hkey hname) hsettle
  | permute hpart hperm =>
    simp only [holdsShape_one_iff, hpart] at h ⊢
    obtain ⟨n, rfl, h⟩ := h
    refine ⟨n, rfl, ?_⟩
    cases h with
    | object hslots hsettle => exact .object (hslots.perm hperm) hsettle
  | member hpart hm hkey hgrows ih =>
    simp only [holdsShape_one_iff, hpart] at h ⊢
    obtain ⟨n, rfl, h⟩ := h
    refine ⟨n, rfl, ?_⟩
    cases h with
    | object hslots hsettle =>
      refine .object (hslots.member (hnodup hpart) hm hkey fun d => ?_) hsettle
      exact HoldsMember.of_holdsShape hgrows.ne_null.1 hgrows.ne_null.2 ih
  | position hpart hm hgrows ih =>
    simp only [holdsShape_one_iff, hpart] at h ⊢
    obtain ⟨n, rfl, h⟩ := h
    refine ⟨n, rfl, ?_⟩
    cases h with
    | array h =>
      refine .array (h.replace hm fun d => ?_)
      exact HoldsMember.of_holdsShape hgrows.ne_null.1 hgrows.ne_null.2 ih
  | @element part t u before after _ ih =>
    cases h with
    | many helement h =>
      cases depth with
      | zero => cases helement
      | succ depth =>
        cases helement
        refine .many rfl (forall₂_replace (fun d hd => ?_) h)
        have hshape : HoldsShape (contentsAt schema depth) (.one part) u d := ih (.one hd)
        cases hshape with
        | one hd => exact hd
  | choice hpart hkey hname _ ih =>
    simp only [holdsShape_one_iff, hpart] at h ⊢
    obtain ⟨n, rfl, h⟩ := h
    refine ⟨n, rfl, ?_⟩
    cases h with
    | choice hkey' hname' h =>
      have hsame := hkey.unique hkey'
      rw [← hsame, hname] at hname'
      cases hname'
      have hshape := ih (.one h)
      cases hshape with
      | one h => exact .choice hkey hname h

/-- A text is read as the same contents when the tree that it spells has grown. -/
theorem read_of_grows
    (hnodup : ∀ {part typeName members}, schema part = .record typeName members → (members.map (·.name)).Nodup)
    {part : K} {text text' : String} {t t' : Tree} {d : Datum} (h : schema.read part text = .ok d)
    (ht : t.SpelledIn text) (hgrows : Grows schema Named (.one part) t t') (ht' : t'.SpelledIn text') :
    schema.read part text' = .ok d := by
  obtain ⟨s, hs, hd⟩ := read_eq_ok_iff.mp h
  obtain rfl := ht.unique hs
  have hshape : HoldsShape (contentsAt schema maxDepth) (.one part) t' d :=
    HoldsShape.grows hnodup hgrows (.one hd)
  cases hshape with
  | one hd' => exact read_eq_ok_iff.mpr ⟨t', ht', hd'⟩

end DocMark.Json.Schema
