-- SUMMARY: The texts that spell a JSON value, whatever blanks stand between their pieces.
import Mathlib
import DocMark.Json.Lexeme

/-!
# Spelled values

A JSON value can be spelled in many ways, which differ in the blanks between its pieces. `Spells` says
which texts spell a value. The compact and the indented form are two of them, so what holds of a reader
for every spelling holds for both.
-/
namespace DocMark.Json

-- ---------------------------------------------------------------------------
-- Blanks
-- ---------------------------------------------------------------------------

def AllBlank (cs : List Char) : Prop := ∀ c ∈ cs, isBlank c = true

theorem allBlank_nil : AllBlank [] := List.forall_mem_nil _

theorem skipBlank_append {blank : List Char} (h : AllBlank blank) (cs : List Char) :
    skipBlank (blank ++ cs) = skipBlank cs := List.dropWhile_append_of_pos h

theorem skipBlank_cons {c : Char} (h : isBlank c = false) (cs : List Char) :
    skipBlank (c :: cs) = c :: cs := List.dropWhile_cons_of_neg (by simp [h])

theorem exists_blank (cs : List Char) : ∃ blank, AllBlank blank ∧ cs = blank ++ skipBlank cs :=
  ⟨cs.takeWhile isBlank, fun _ hc => List.mem_takeWhile_imp hc, List.takeWhile_append_dropWhile.symm⟩

theorem skipBlank_eq_cons_iff {c : Char} {cs rest : List Char} (hc : isBlank c = false) :
    skipBlank cs = c :: rest ↔ ∃ blank, cs = blank ++ c :: rest ∧ AllBlank blank := by
  constructor
  · intro h
    obtain ⟨blank, hblank, hcs⟩ := exists_blank cs
    exact ⟨blank, by rw [← h, ← hcs], hblank⟩
  · rintro ⟨blank, rfl, hblank⟩
    rw [skipBlank_append hblank, skipBlank_cons hc]

theorem isBlank_of_isDigit {c : Char} (hc : c.isDigit = true) : isBlank c = false := by
  cases hblank : isBlank c with
  | false => rfl
  | true =>
    simp only [isBlank, Bool.or_eq_true, beq_iff_eq] at hblank
    rcases hblank with ((rfl | rfl) | rfl) | rfl <;> cases hc

/-- What may follow a value in a text, or the end of the text. -/
def Delimits (cs : List Char) : Prop :=
  ∀ c ∈ cs.head?, isBlank c = true ∨ c = ',' ∨ c = ']' ∨ c = '}'

theorem delimits_nil : Delimits [] := by simp [Delimits]

theorem Delimits.cons {c : Char} (h : isBlank c = true ∨ c = ',' ∨ c = ']' ∨ c = '}')
    (cs : List Char) : Delimits (c :: cs) := by simpa [Delimits] using h

theorem Delimits.blank_append {blank cs : List Char} (h : AllBlank blank) (hcs : Delimits cs) :
    Delimits (blank ++ cs) := by
  cases blank with
  | nil => exact hcs
  | cons c blank => exact .cons (.inl (h c (List.mem_cons_self ..))) _

theorem Delimits.not_mem_number {c : Char} {cs : List Char} (h : Delimits (c :: cs)) :
    c.isDigit = false ∧ c ≠ '.' ∧ c ≠ 'e' ∧ c ≠ 'E' := by
  have hc : isBlank c = true ∨ c = ',' ∨ c = ']' ∨ c = '}' := by simpa [Delimits] using h
  simp only [isBlank, Bool.or_eq_true, beq_iff_eq] at hc
  rcases hc with (((rfl | rfl) | rfl) | rfl) | rfl | rfl | rfl <;> decide

-- ---------------------------------------------------------------------------
-- Lists of items
-- ---------------------------------------------------------------------------

section Lists

variable {α : Type} {close : Char} {spells : α → List Char → Prop}

/-- What follows an item of a list: nothing but its closing bracket, or a comma before each further
    item. -/
inductive Continued (close : Char) (spells : α → List Char → Prop) : List α → List Char → Prop where
  | nil {blank : List Char} (hblank : AllBlank blank) : Continued close spells [] (blank ++ [close])
  | cons {before after cs more : List Char} {a : α} {as : List α} (hbefore : AllBlank before)
      (hafter : AllBlank after) (ha : spells a cs) (has : Continued close spells as more) :
      Continued close spells (a :: as) (before ++ ',' :: (after ++ (cs ++ more)))

/-- What follows the opening bracket of a list, up to and with its closing one. -/
inductive Listed (close : Char) (spells : α → List Char → Prop) : List α → List Char → Prop where
  | nil {blank : List Char} (hblank : AllBlank blank) : Listed close spells [] (blank ++ [close])
  | cons {blank cs more : List Char} {a : α} {as : List α} (hblank : AllBlank blank)
      (ha : spells a cs) (has : Continued close spells as more) :
      Listed close spells (a :: as) (blank ++ (cs ++ more))

/-- The text of an item begins with something that is neither a blank nor the end of the list. -/
def BeginsItem (close : Char) (cs : List Char) : Prop :=
  ∃ c more, cs = c :: more ∧ isBlank c = false ∧ c ≠ close

theorem Listed.single {blank cs last : List Char} {a : α} (hblank : AllBlank blank) (ha : spells a cs)
    (hlast : AllBlank last) : Listed close spells [a] (blank ++ cs ++ (last ++ [close])) := by
  rw [List.append_assoc]
  exact .cons hblank ha (.nil hlast)

/-- A further item in front, with a comma behind it. -/
theorem Listed.push {blank cs more : List Char} {a b : α} {as : List α} (hblank : AllBlank blank)
    (ha : spells a cs) (h : Listed close spells (b :: as) more) :
    Listed close spells (a :: b :: as) (blank ++ cs ++ ',' :: more) := by
  cases h with
  | cons hafter hb has =>
    rw [List.append_assoc]
    exact .cons hblank ha (.cons allBlank_nil hafter hb has)

/-- Blanks may stand in front of the first item. -/
theorem Listed.blank {before cs : List Char} {as : List α} (hbefore : AllBlank before)
    (h : Listed close spells as cs) : Listed close spells as (before ++ cs) := by
  cases h with
  | nil hblank =>
    rw [← List.append_assoc]
    exact .nil (List.forall_mem_append.mpr ⟨hbefore, hblank⟩)
  | cons hblank ha has =>
    rw [← List.append_assoc]
    exact .cons (List.forall_mem_append.mpr ⟨hbefore, hblank⟩) ha has

/-- A comma joins what lists further items. -/
theorem Listed.continued {before cs : List Char} {a : α} {as : List α} (hbefore : AllBlank before)
    (h : Listed close spells (a :: as) cs) : Continued close spells (a :: as) (before ++ ',' :: cs) := by
  cases h with
  | cons hafter ha has => exact .cons hbefore hafter ha has

theorem Continued.length_le {as : List α} {cs : List Char} (h : Continued close spells as cs) :
    as.length < cs.length := by
  induction h with
  | nil hblank => simp
  | cons hbefore hafter ha has ih =>
    simp only [List.length_append, List.length_cons]
    omega

/-- No list has more items than characters. -/
theorem Listed.length_le {as : List α} {cs : List Char} (h : Listed close spells as cs) :
    as.length ≤ cs.length := by
  cases h with
  | nil hblank => simp
  | cons hblank ha has =>
    have hmore := has.length_le
    simp only [List.length_append, List.length_cons]
    omega

theorem Listed.length_le_append {as : List α} {cs : List Char} (h : Listed close spells as cs) (rest : List Char) :
    as.length ≤ (cs ++ rest).length := by
  rw [List.length_append]
  exact h.length_le.trans (Nat.le_add_right ..)

/-- An item ends where the list goes on. -/
theorem Continued.delimits {as : List α} {cs : List Char} (h : Continued close spells as cs)
    (hclose : close = ']' ∨ close = '}') (rest : List Char) : Delimits (cs ++ rest) := by
  cases h with
  | nil hblank =>
    rw [List.append_assoc]
    exact .blank_append hblank (.cons (.inr (.inr hclose)) _)
  | cons hbefore hafter ha has =>
    rw [List.append_assoc]
    exact .blank_append hbefore (.cons (.inr (.inl rfl)) _)

end Lists

-- ---------------------------------------------------------------------------
-- Values
-- ---------------------------------------------------------------------------

mutual

inductive Spells : Value → List Char → Prop where
  | null : Spells .null "null".toList
  | bool (b : Bool) : Spells (.bool b) (if b then "true".toList else "false".toList)
  | number (n : Number) : Spells (.number n) n.text
  | string (s : String) : Spells (.string s) (quote s)
  | array {elements : List Value} {cs : List Char} (h : Listed ']' Spells elements cs) :
      Spells (.array elements) ('[' :: cs)
  | object {members : List (String × Value)} {cs : List Char}
      (h : Listed '}' SpellsMember members cs) : Spells (.object members) ('{' :: cs)

inductive SpellsMember : String × Value → List Char → Prop where
  | mk {key : String} {v : Value} {before after cs : List Char} (hbefore : AllBlank before)
      (hafter : AllBlank after) (hv : Spells v cs) :
      SpellsMember (key, v) (quote key ++ (before ++ ':' :: (after ++ cs)))

end

namespace Value

mutual

/-- How many arrays and objects are open at once in a text that spells the value. -/
def depth : Value → Nat
  | .array elements => depthOfElements elements + 1
  | .object members => depthOfMembers members + 1
  | _ => 0

def depthOfElements : List Value → Nat
  | [] => 0
  | v :: rest => max v.depth (depthOfElements rest)

def depthOfMembers : List (String × Value) → Nat
  | [] => 0
  | (_, v) :: rest => max v.depth (depthOfMembers rest)

end

theorem depthOfElements_le_iff {vs : List Value} {n : Nat} :
    depthOfElements vs ≤ n ↔ ∀ v ∈ vs, v.depth ≤ n := by
  induction vs with
  | nil => simp [depthOfElements]
  | cons v vs ih => rw [depthOfElements, Nat.max_le, ih, List.forall_mem_cons]

theorem depth_le_of_mem {v : Value} {vs : List Value} (h : v ∈ vs) : v.depth ≤ depthOfElements vs :=
  depthOfElements_le_iff.mp (Nat.le_refl _) v h

mutual

theorem spells_compact : ∀ v : Value, Spells v v.compact
  | .null => .null
  | .bool b => .bool b
  | .number n => .number n
  | .string s => .string s
  | .array elements => .array (listed_compactElements elements)
  | .object members => .object (listed_compactMembers members)

theorem listed_compactElements : ∀ vs : List Value,
    Listed ']' Spells vs (compactElements vs ++ [']'])
  | [] => .nil allBlank_nil
  | [v] => .single allBlank_nil v.spells_compact allBlank_nil
  | v :: w :: rest => by
    simp only [compactElements, List.append_assoc, List.cons_append]
    exact .push allBlank_nil v.spells_compact (listed_compactElements (w :: rest))

theorem listed_compactMembers : ∀ ms : List (String × Value),
    Listed '}' SpellsMember ms (compactMembers ms ++ ['}'])
  | [] => .nil allBlank_nil
  | [(k, v)] => .single allBlank_nil (.mk allBlank_nil allBlank_nil v.spells_compact) allBlank_nil
  | (k, v) :: m :: rest => by
    have hmember : SpellsMember (k, v) (quote k ++ ':' :: v.compact) :=
      .mk allBlank_nil allBlank_nil v.spells_compact
    have hrest := Listed.push allBlank_nil hmember (listed_compactMembers (m :: rest))
    simpa only [compactMembers, List.append_assoc, List.cons_append, List.nil_append] using hrest

end

theorem allBlank_newLine (level : Nat) : AllBlank (newLine level) := by
  intro c hc
  simp only [newLine, List.mem_cons, List.mem_replicate] at hc
  rcases hc with rfl | ⟨-, rfl⟩ <;> rfl

theorem allBlank_space : AllBlank [' '] := by simp [AllBlank, isBlank]

mutual

theorem spells_prettyAt (level : Nat) : ∀ v : Value, Spells v (v.prettyAt level)
  | .null => .null
  | .bool b => .bool b
  | .number n => .number n
  | .string s => .string s
  | .array [] => .array (.nil allBlank_nil)
  | .array (v :: rest) => by
    simp only [prettyAt, List.append_assoc]
    exact .array (listed_prettyElements (level + 1) (allBlank_newLine level) (v :: rest))
  | .object [] => .object (.nil allBlank_nil)
  | .object (m :: rest) => by
    simp only [prettyAt, List.append_assoc]
    exact .object (listed_prettyMembers (level + 1) (allBlank_newLine level) (m :: rest))

theorem listed_prettyElements (level : Nat) {last : List Char} (hlast : AllBlank last) :
    ∀ vs : List Value, Listed ']' Spells vs (prettyElements level vs ++ (last ++ [']']))
  | [] => .nil hlast
  | [v] => .single (allBlank_newLine level) (v.spells_prettyAt level) hlast
  | v :: w :: rest => by
    have hrest := Listed.push (allBlank_newLine level) (v.spells_prettyAt level)
      (listed_prettyElements level hlast (w :: rest))
    simpa only [prettyElements, List.append_assoc, List.cons_append] using hrest

theorem listed_prettyMembers (level : Nat) {last : List Char} (hlast : AllBlank last) :
    ∀ ms : List (String × Value), Listed '}' SpellsMember ms (prettyMembers level ms ++ (last ++ ['}']))
  | [] => .nil hlast
  | [(k, v)] => by
    have hmember : SpellsMember (k, v) (quote k ++ ':' :: ' ' :: v.prettyAt level) :=
      .mk allBlank_nil allBlank_space (v.spells_prettyAt level)
    have hlisted : Listed '}' SpellsMember [(k, v)] _ :=
      .single (allBlank_newLine level) hmember hlast
    simpa only [prettyMembers, List.append_assoc, List.cons_append] using hlisted
  | (k, v) :: m :: rest => by
    have hmember : SpellsMember (k, v) (quote k ++ ':' :: ' ' :: v.prettyAt level) :=
      .mk allBlank_nil allBlank_space (v.spells_prettyAt level)
    have hrest := Listed.push (allBlank_newLine level) hmember
      (listed_prettyMembers level hlast (m :: rest))
    simpa only [prettyMembers, List.append_assoc, List.cons_append] using hrest

end

end Value

-- ---------------------------------------------------------------------------
-- Texts
-- ---------------------------------------------------------------------------

/-- A text spells a value, perhaps with blanks behind it. -/
def SpelledIn (v : Value) (text : String) : Prop :=
  ∃ cs blank, text.toList = cs ++ blank ∧ Spells v cs ∧ AllBlank blank

theorem spelledIn_compactText (v : Value) : SpelledIn v v.compactText :=
  ⟨v.compact, [], by simp [Value.compactText], v.spells_compact, allBlank_nil⟩

theorem spelledIn_prettyText (v : Value) : SpelledIn v v.prettyText :=
  ⟨v.prettyAt 0, [], by simp [Value.prettyText], v.spells_prettyAt 0, allBlank_nil⟩

theorem SpelledIn.lineFeed {v : Value} {text : String} (h : SpelledIn v text) :
    SpelledIn v (text ++ "\n") := by
  obtain ⟨cs, blank, htext, hcs, hblank⟩ := h
  refine ⟨cs, blank ++ ['\n'], by simp [htext], hcs, ?_⟩
  exact List.forall_mem_append.mpr ⟨hblank, by simp [isBlank]⟩

end DocMark.Json
