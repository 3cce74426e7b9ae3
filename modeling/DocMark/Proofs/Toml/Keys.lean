-- SUMMARY: The table that a TOML text holds, and every table in it, has no key twice.
import Mathlib
import DocMark.Toml.Parse

/-!
# Distinct keys

Every change of a table puts one entry in place of the one with its key, so a table never has a key twice while
it grows. Tables in braces grow in the same way, and other values hold tables that were read before.
-/
namespace DocMark.Toml

-- ---------------------------------------------------------------------------
-- Tables that grow
-- ---------------------------------------------------------------------------

/-- A value without a table that has a key twice. -/
inductive Value.Distinct : Value → Prop where
  | string (s : String) : Distinct (.string s)
  | integer (n : Int) : Distinct (.integer n)
  | float (x : Number.Binary64) : Distinct (.float x)
  | boolean (b : Bool) : Distinct (.boolean b)
  | dateTime (text : String) : Distinct (.dateTime text)
  | array {elements : List Value} (h : ∀ v ∈ elements, Distinct v) : Distinct (.array elements)
  | table {entries : Entries} (hkeys : (entries.map (·.1)).Nodup) (h : ∀ e ∈ entries, Distinct e.2) :
      Distinct (.table entries)

theorem Value.Distinct.of_table {entries : Entries} (h : (Value.table entries).Distinct) :
    (entries.map (·.1)).Nodup ∧ ∀ e ∈ entries, e.2.Distinct := by
  cases h with
  | table hkeys h => exact ⟨hkeys, h⟩

/-- An entry without a table that has a key twice. -/
inductive Item.Distinct : Item → Prop where
  | value {v : Value} (h : v.Distinct) : Distinct (.value v)
  | table {origin : TableOrigin} {entries : Items} (hkeys : (entries.map (·.1)).Nodup)
      (h : ∀ e ∈ entries, Distinct e.2) : Distinct (.table origin entries)
  | tables {elements : List Item} (h : ∀ item ∈ elements, Distinct item) : Distinct (.tables elements)

/-- Entries that make a table without a key twice, at any depth. -/
structure Items.Distinct (entries : Items) : Prop where
  keys : (entries.map (·.1)).Nodup
  items : ∀ e ∈ entries, e.2.Distinct

section Put

variable {α : Type} {key : String} {a : α} {entries : List (String × α)}

theorem keys_putEntry (key : String) (a : α) (entries : List (String × α)) :
    (putEntry key a entries).map (·.1) =
      if key ∈ entries.map (·.1) then entries.map (·.1) else entries.map (·.1) ++ [key] := by
  induction entries with
  | nil => simp [putEntry]
  | cons e entries ih =>
    obtain ⟨k, b⟩ := e
    by_cases hk : k = key
    · simp [putEntry, hk]
    · rw [putEntry, if_neg hk, List.map_cons, ih]
      simp only [List.map_cons, List.mem_cons, Ne.symm hk, false_or]
      split_ifs <;> rfl

theorem mem_putEntry {e : String × α} (h : e ∈ putEntry key a entries) : e = (key, a) ∨ e ∈ entries := by
  induction entries with
  | nil => exact .inl (List.mem_singleton.mp h)
  | cons e' entries ih =>
    obtain ⟨k, b⟩ := e'
    by_cases hk : k = key
    · rw [putEntry, if_pos hk, List.mem_cons, hk] at h
      exact h.imp_right (List.mem_cons_of_mem _)
    · rw [putEntry, if_neg hk, List.mem_cons] at h
      obtain rfl | h := h
      · exact .inr (List.mem_cons_self ..)
      · exact (ih h).imp_right (List.mem_cons_of_mem _)

theorem nodup_putEntry (key : String) (a : α) (h : (entries.map (·.1)).Nodup) :
    ((putEntry key a entries).map (·.1)).Nodup := by
  rw [keys_putEntry]
  split_ifs with hkey
  · exact h
  · exact List.Nodup.append h (List.nodup_singleton key) (List.disjoint_singleton.mpr hkey)

end Put

namespace Items.Distinct

variable {entries : Items} {key : String} {item : Item}

theorem nil : Items.Distinct [] := ⟨List.nodup_nil, by simp⟩

theorem put (h : Items.Distinct entries) (hitem : item.Distinct) :
    Items.Distinct (putEntry key item entries) := by
  refine ⟨nodup_putEntry key item h.keys, fun e he => ?_⟩
  obtain rfl | he := mem_putEntry he
  · exact hitem
  · exact h.items e he

theorem of_lookup (h : Items.Distinct entries) (hitem : entries.lookup key = some item) :
    item.Distinct := by
  obtain ⟨before, after, rfl, -⟩ := List.lookup_eq_some_iff.mp hitem
  exact h.items (key, item) (by simp)

theorem toItem (h : Items.Distinct entries) (origin : TableOrigin) :
    (Item.table origin entries).Distinct := .table h.keys h.items

end Items.Distinct

theorem Item.Distinct.toItems {origin : TableOrigin} {entries : Items}
    (h : (Item.table origin entries).Distinct) : Items.Distinct entries := by
  cases h with
  | table hkeys h => exact ⟨hkeys, h⟩

theorem Item.Distinct.of_mem {elements : List Item} {item : Item} (h : (Item.tables elements).Distinct)
    (hitem : item ∈ elements) : item.Distinct := by
  cases h with
  | tables h => exact h item hitem

-- ---------------------------------------------------------------------------
-- What is read
-- ---------------------------------------------------------------------------

/-- What is found has a property, if anything is. -/
def Gives {α : Type} (P : α → Prop) (found : Option α) : Prop := ∀ a ∈ found, P a

namespace Gives

variable {α β : Type} {P : α → Prop} {Q : β → Prop}

theorem none : Gives P none := by
  rintro a ⟨⟩

theorem some {a : α} (h : P a) : Gives P (some a) := by
  rintro _ ⟨⟩
  exact h

theorem any (found : Option α) : Gives (fun _ => True) found := fun _ _ => trivial

theorem bind {found : Option α} {f : α → Option β} (h : Gives P found)
    (hf : ∀ a, P a → Gives Q (f a)) : Gives Q (found >>= f) := by
  cases found with
  | none => exact none
  | some a => exact hf a (h a rfl)

theorem map {found : Option α} {f : α → β} (h : Gives P found) (hf : ∀ a, P a → Q (f a)) :
    Gives Q (found.map f) := by
  cases found with
  | none => exact none
  | some a => exact some (hf a (h a rfl))

theorem ite {c : Prop} [Decidable c] {x y : Option α} (hx : Gives P x) (hy : Gives P y) :
    Gives P (if c then x else y) := by
  split_ifs <;> assumption

theorem foldlM {f : β → α → Option β} (hf : ∀ b, Q b → ∀ a, P a → Gives Q (f b a)) {as : List α}
    (has : ∀ a ∈ as, P a) {b : β} (hb : Q b) : Gives Q (as.foldlM f b) := by
  induction as generalizing b with
  | nil => exact some hb
  | cons a as ih =>
    rw [List.forall_mem_cons] at has
    exact (hf b hb a has.1).bind fun b' hb' => ih has.2 hb'

end Gives

/-- A change keeps tables without a key twice. -/
def KeepsDistinct (change : TableOrigin → Items → Option Items) : Prop :=
  ∀ origin entries, Items.Distinct entries → Gives Items.Distinct (change origin entries)

theorem KeepsDistinct.atPath? {change : TableOrigin → Items → Option Items} (hchange : KeepsDistinct change)
    (isDotted : Bool) (path : List String) : KeepsDistinct (atPath? isDotted change path) := by
  induction path with
  | nil => exact hchange
  | cons key path ih =>
    intro origin entries h
    rw [Toml.atPath?]
    split
    · refine (ih _ _ .nil).bind fun below hbelow => .some ?_
      exact h.put (hbelow.toItem _)
    · exact .none
    · rename_i origin' below hlookup
      refine .ite .none ((ih _ _ (h.of_lookup hlookup).toItems).bind fun below hbelow => .some ?_)
      exact h.put (hbelow.toItem _)
    · rename_i elements hlookup
      have helements := h.of_lookup hlookup
      cases hlast : elements.getLast? with
      | none => exact .none
      | some item =>
        have hitem := helements.of_mem (List.mem_of_getLast? hlast)
        cases item with
        | value v => exact .none
        | tables inner => exact .none
        | table origin' below =>
          refine (ih _ _ hitem.toItems).bind fun below hbelow => .some (h.put (.tables ?_))
          intro item hmem
          obtain hmem | hmem := List.mem_append.mp hmem
          · exact helements.of_mem (List.mem_of_mem_dropLast hmem)
          · rw [List.mem_singleton.mp hmem]
            exact hbelow.toItem _

def Pair.Distinct (pair : Pair) : Prop := pair.value.Distinct

theorem distinct_addPair? {entries : Items} (h : Items.Distinct entries) {pair : Pair} (hpair : pair.Distinct) :
    Gives Items.Distinct (addPair? entries pair) :=
  KeepsDistinct.atPath? (fun _ _ hbelow => .ite .none (.some (hbelow.put (.value hpair)))) true pair.path
    .header entries h

theorem distinct_addPairs? {entries : Items} (h : Items.Distinct entries) {pairs : List Pair}
    (hpairs : ∀ pair ∈ pairs, pair.Distinct) : Gives Items.Distinct (addPairs? entries pairs) :=
  Gives.foldlM (P := Pair.Distinct) (fun _ hentries _ hpair => distinct_addPair? hentries hpair) hpairs h

def Section.Distinct (s : Section) : Prop := ∀ pair ∈ s.pairs, pair.Distinct

theorem distinct_addSection? {root : Items} (h : Items.Distinct root) {s : Section} (hs : s.Distinct) :
    Gives Items.Distinct (addSection? root s) := by
  refine KeepsDistinct.atPath? (fun _ entries hentries => ?_) false s.path .header root h
  split
  · refine (distinct_addPairs? .nil hs).bind fun below hbelow => ?_
    exact .some (hentries.put (hbelow.toItem _))
  · rename_i hlookup
    refine (distinct_addPairs? (hentries.of_lookup hlookup).toItems hs).bind fun below hbelow => ?_
    exact .some (hentries.put (hbelow.toItem _))
  · refine (distinct_addPairs? .nil hs).bind fun below hbelow => .some (hentries.put (.tables ?_))
    exact List.forall_mem_singleton.mpr (hbelow.toItem _)
  · rename_i elements _ hlookup
    refine (distinct_addPairs? .nil hs).bind fun below hbelow => .some (hentries.put (.tables ?_))
    intro item hitem
    obtain hitem | hitem := List.mem_append.mp hitem
    · exact (hentries.of_lookup hlookup).of_mem hitem
    · rw [List.mem_singleton.mp hitem]
      exact hbelow.toItem _
  · exact .none

-- ---------------------------------------------------------------------------
-- Finished values
-- ---------------------------------------------------------------------------

theorem entriesOf_eq_map (entries : Items) : entriesOf entries = entries.map fun e => (e.1, e.2.toValue) := by
  induction entries with
  | nil => rw [entriesOf, List.map_nil]
  | cons e entries ih => rw [entriesOf, ih, List.map_cons]

theorem valuesOf_eq_map (elements : List Item) : valuesOf elements = elements.map Item.toValue := by
  induction elements with
  | nil => rw [valuesOf, List.map_nil]
  | cons item elements ih => rw [valuesOf, ih, List.map_cons]

theorem Item.Distinct.toValue {item : Item} (h : item.Distinct) : item.toValue.Distinct := by
  induction h with
  | value h => rwa [Item.toValue]
  | table hkeys _ ih =>
    rw [Item.toValue, entriesOf_eq_map]
    refine .table ?_ (List.forall_mem_map.mpr ih)
    rwa [List.map_map]
  | tables _ ih =>
    rw [Item.toValue, valuesOf_eq_map]
    exact .array (List.forall_mem_map.mpr ih)

theorem Items.Distinct.entriesOf {entries : Items} (h : Items.Distinct entries) :
    (Value.table (entriesOf entries)).Distinct := by
  have htable := (h.toItem .header).toValue
  rwa [Item.toValue] at htable

-- ---------------------------------------------------------------------------
-- Readers
-- ---------------------------------------------------------------------------

/-- A reader of values gives none with a table that has a key twice. -/
def ReadsDistinct (read : List Char → Option (Value × List Char)) : Prop :=
  ∀ cs, Gives (fun r => r.1.Distinct) (read cs)

theorem distinct_integer? (n : Int) : Gives Value.Distinct (integer? n) :=
  .ite (.some (.integer n)) .none

theorem distinct_float? (negative : Bool) (whole fraction : List Char) (exponent : Int) :
    Gives Value.Distinct (float? negative whole fraction exponent) :=
  .ite .none (.some (.float _))

theorem readsDistinct_readBased? (base : Nat) (isBaseDigit : Char → Bool) :
    ReadsDistinct (readBased? base isBaseDigit) := fun _ =>
  (Gives.any _).bind fun _ _ => (distinct_integer? _).bind fun _ h => .some h

theorem readsDistinct_readPlain? (negative : Bool) : ReadsDistinct (readPlain? negative) := by
  intro cs
  refine (Gives.any _).bind fun r _ => ?_
  obtain ⟨whole, rest⟩ := r
  dsimp only
  split
  · refine (Gives.any _).bind fun _ _ => ?_
    split_ifs
    · refine (Gives.any _).bind fun _ _ => ?_
      exact (distinct_float? _ _ _ _).bind fun _ h => .some h
    · exact (distinct_float? _ _ _ _).bind fun _ h => .some h
  · refine .ite ((Gives.any _).bind fun _ _ => ?_) ((distinct_integer? _).bind fun _ h => .some h)
    exact (distinct_float? _ _ _ _).bind fun _ h => .some h

theorem readsDistinct_readNumber? : ReadsDistinct readNumber? := by
  intro cs
  unfold readNumber?
  split
  · exact readsDistinct_readBased? _ _ _
  · exact readsDistinct_readBased? _ _ _
  · exact readsDistinct_readBased? _ _ _
  · dsimp only
    split
    · exact .some (.float _)
    · exact .some (.float _)
    · exact readsDistinct_readPlain? _ _

theorem readsDistinct_readDateTime? : ReadsDistinct readDateTime? := by
  intro cs
  unfold readDateTime?
  split
  · exact .some (.dateTime _)
  · exact (Gives.any _).map fun _ _ => .dateTime _

section Inner

variable {read : List Char → Option (Value × List Char)} (hread : ReadsDistinct read)
include hread

theorem distinct_readElements? (fuel : Nat) (cs : List Char) :
    Gives (fun r => ∀ v ∈ r.1, v.Distinct) (readElements? read fuel cs) := by
  induction fuel generalizing cs with
  | zero => exact .none
  | succ fuel ih =>
    rw [readElements?]
    split
    · exact .some (by simp)
    · refine (hread _).bind fun r hv => ?_
      obtain ⟨v, rest⟩ := r
      dsimp only
      split
      · exact (ih _).bind fun _ hvs => .some (List.forall_mem_cons.mpr ⟨hv, hvs⟩)
      · exact .some (List.forall_mem_singleton.mpr hv)
      · exact .none

theorem distinct_readPair? (cs : List Char) : Gives (fun r => r.1.Distinct) (readPair? read cs) := by
  refine (Gives.any _).bind fun _ _ => (Gives.any _).bind fun _ _ => ?_
  dsimp only
  split
  · exact (hread _).bind fun _ hv => .some hv
  · exact .none

theorem distinct_readPairs? (fuel : Nat) (cs : List Char) :
    Gives (fun r => ∀ pair ∈ r.1, pair.Distinct) (readPairs? read fuel cs) := by
  induction fuel generalizing cs with
  | zero => exact .none
  | succ fuel ih =>
    refine (distinct_readPair? hread cs).bind fun r hpair => ?_
    obtain ⟨pair, rest⟩ := r
    dsimp only
    split
    · exact (ih _).bind fun _ hpairs => .some (List.forall_mem_cons.mpr ⟨hpair, hpairs⟩)
    · exact .some (List.forall_mem_singleton.mpr hpair)
    · exact .none

end Inner

theorem distinct_inlineTable? {pairs : List Pair} (h : ∀ pair ∈ pairs, pair.Distinct) :
    Gives Value.Distinct (inlineTable? pairs) :=
  (distinct_addPairs? .nil h).map fun _ hentries => hentries.entriesOf

theorem readsDistinct_readValue? (depth : Nat) : ReadsDistinct (readValue? depth) := by
  induction depth using Nat.strongRecOn with
  | ind depth ih =>
    intro cs
    unfold readValue?
    split
    · exact .none
    · exact (Gives.any _).map fun _ _ => .string _
    · exact (Gives.any _).map fun _ _ => .string _
    · split
      · exact .none
      · exact (distinct_readElements? (ih _ (Nat.lt_succ_self _)) _ _).map fun _ h => .array h
    · split
      · exact .none
      · split
        · exact .some (.table List.nodup_nil (by simp))
        · refine (distinct_readPairs? (ih _ (Nat.lt_succ_self _)) _ _).bind fun _ hpairs => ?_
          exact (distinct_inlineTable? hpairs).bind fun _ h => .some h
    · exact .some (.boolean _)
    · exact .some (.boolean _)
    · exact readsDistinct_readNumber? _
    · exact readsDistinct_readNumber? _
    · refine .ite ?_ (.ite (readsDistinct_readNumber? _) .none)
      cases hdate : readDateTime? _ with
      | none => exact readsDistinct_readNumber? _
      | some r => exact .some (readsDistinct_readDateTime? _ r hdate)

theorem distinct_readSections? (fuel : Nat) (cs : List Char) :
    Gives (fun r => (∀ pair ∈ r.1, pair.Distinct) ∧ ∀ s ∈ r.2, s.Distinct) (readSections? fuel cs) := by
  induction fuel generalizing cs with
  | zero => exact .none
  | succ fuel ih =>
    rw [readSections?]
    split
    · exact .some (by simp)
    · exact .ite (.some (by simp)) .none
    · refine (Gives.any _).bind fun _ _ => (Gives.any _).bind fun _ _ => (ih _).bind fun _ h => .some ?_
      exact ⟨by simp, List.forall_mem_cons.mpr ⟨h.1, h.2⟩⟩
    · refine (distinct_readPair? (readsDistinct_readValue? _) _).bind fun _ hpair => ?_
      refine (Gives.any _).bind fun _ _ => (ih _).bind fun _ h => .some ?_
      exact ⟨List.forall_mem_cons.mpr ⟨hpair, h.1⟩, h.2⟩

/-- A text that is read holds no table with a key twice. -/
theorem distinct_of_parse? {text : String} {entries : Entries} (h : parse? text = some entries) :
    (Value.table entries).Distinct := by
  suffices hall : Gives (fun entries => (Value.table entries).Distinct) (parse? text) from hall entries h
  refine (distinct_readSections? _ _).bind fun r hr => ?_
  refine (distinct_addPairs? .nil hr.1).bind fun root hroot => ?_
  exact (Gives.foldlM (P := Section.Distinct) (fun _ h _ hs => distinct_addSection? h hs) hr.2 hroot).bind
    fun _ hitems => .some hitems.entriesOf

end DocMark.Toml
