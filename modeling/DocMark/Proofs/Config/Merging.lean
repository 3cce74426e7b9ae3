-- SUMMARY: What stands under a key after a value is set or a table is put over a configuration.
import Mathlib
import DocMark.Config.Path

/-!
# Setting and merging entries

Changing the entry under one key leaves the others as they are. So putting a table over another one changes
the entries that it has and keeps the rest.
-/
namespace DocMark.Config

-- ---------------------------------------------------------------------------
-- Entries
-- ---------------------------------------------------------------------------

section Lookup

variable {κ α : Type} [BEq κ] [LawfulBEq κ]

theorem lookup_cons [DecidableEq κ] (key other : κ) (a : α) (entries : List (κ × α)) :
    ((key, a) :: entries).lookup other = if other = key then some a else entries.lookup other := by
  rw [List.lookup_cons]
  by_cases h : other = key
  · simp [h]
  · simp [h, beq_eq_false_iff_ne.mpr h]

theorem lookup_eq_none {entries : List (κ × α)} {key : κ} (h : key ∉ entries.map (·.1)) :
    entries.lookup key = none := by
  rw [List.lookup_eq_none_iff]
  intro e he
  rw [bne_iff_ne]
  rintro rfl
  exact h (List.mem_map_of_mem he)

theorem mem_of_lookup {entries : List (κ × α)} {key : κ} {a : α}
    (h : entries.lookup key = some a) : (key, a) ∈ entries := by
  obtain ⟨before, after, rfl, -⟩ := List.lookup_eq_some_iff.mp h
  simp

end Lookup

theorem lookup_put (key other : String) (v : Value) (entries : Entries) :
    (put key v entries).lookup other = if other = key then some v else entries.lookup other := by
  induction entries with
  | nil => rw [put, lookup_cons]
  | cons e entries ih =>
    obtain ⟨k, w⟩ := e
    by_cases hk : k = key
    · rw [put, if_pos hk, lookup_cons, lookup_cons, hk]
      split_ifs <;> rfl
    · rw [put, if_neg hk, lookup_cons, lookup_cons, ih]
      split_ifs with hother hkey <;> first | rfl | exact absurd (hother.symm.trans hkey) hk

namespace Value

variable {v : Value}

def IsTable (v : Value) : Prop := ∃ origin entries, v = .table origin entries

theorem isTable_mapEntry (v : Value) (key : String) (f : Option Value → Value) :
    (v.mapEntry key f).IsTable := ⟨_, _, rfl⟩

theorem get?_mapEntry (v : Value) (key other : String) (f : Option Value → Value) :
    (v.mapEntry key f).get? other = if other = key then some (f (v.get? key)) else v.get? other :=
  lookup_put ..

-- ---------------------------------------------------------------------------
-- Tables over values
-- ---------------------------------------------------------------------------

theorem overlay_scalar (origin : Option String) (s : Scalar) (there : Option Value) :
    overlay (.scalar origin s) there = .scalar origin s := by simp [overlay]

theorem overlay_table (origin : Option String) (entries : Entries) (there : Option Value) :
    overlay (.table origin entries) there = overlayAll entries (there.getD empty) := by rw [overlay]

theorem isTable_overlayAll {entries : Entries} {target : Value} (h : target.IsTable) :
    (overlayAll entries target).IsTable := by
  induction entries generalizing target with
  | nil => rwa [overlayAll]
  | cons e entries ih =>
    rw [overlayAll]
    exact ih (isTable_mapEntry ..)

/-- Entries for a table of scalars, with keys as they are kept and no key twice. -/
structure Plain (entries : Entries) : Prop where
  nodup : (entries.map (·.1)).Nodup
  lower : ∀ e ∈ entries, lowerKey e.1 = e.1
  scalar : ∀ e ∈ entries, ∃ origin s, e.2 = .scalar origin s

theorem get?_overlayAll {entries : Entries} (h : Plain entries) (target : Value) (key : String) :
    (overlayAll entries target).get? key = (entries.lookup key).or (target.get? key) := by
  induction entries generalizing target with
  | nil => rw [overlayAll, List.lookup_nil, Option.none_or]
  | cons e entries ih =>
    obtain ⟨name, v⟩ := e
    obtain ⟨origin, s, rfl⟩ := h.scalar _ (List.mem_cons_self ..)
    obtain ⟨hname, hnodup⟩ := List.nodup_cons.mp h.nodup
    have hrest : Plain entries := ⟨hnodup, fun e he => h.lower e (List.mem_cons_of_mem _ he),
      fun e he => h.scalar e (List.mem_cons_of_mem _ he)⟩
    rw [overlayAll, h.lower _ (List.mem_cons_self ..), ih hrest, get?_mapEntry, overlay_scalar,
      lookup_cons]
    split_ifs with hkey
    · rw [hkey, lookup_eq_none hname, Option.none_or, Option.some_or]
    · rfl

end Value

-- ---------------------------------------------------------------------------
-- Values under two names
-- ---------------------------------------------------------------------------

/-- What stands under a name in the table under another one. -/
def Value.under? (root : Value) (table entry : String) : Option Value :=
  (root.get? table).bind (·.get? entry)

end DocMark.Config
