-- SUMMARY: What a syntax tree holds according to a schema, and that a text is read as just that.
import Mathlib
import DocMark.Proofs.Json.Continuations
import DocMark.Proofs.Json.Reading
import DocMark.Proofs.Json.Unambiguity

/-!
# Contents of trees

A schema says what a tree holds, without any text: the members of an object are put into slots one after another,
and what stands under an unknown name is of no account. A text is read as certain contents if and only if it spells
a tree that holds them, so what can be shown of trees is true of the readers.
-/
namespace DocMark.Json.Schema

open Results

variable {K : Type}

-- ---------------------------------------------------------------------------
-- What trees hold
-- ---------------------------------------------------------------------------

/-- What the trees below a part hold: as a part held directly, and as the elements of a list, if a list may still
    be opened. -/
structure Contents (K : Type) where
  part : K → Tree → Datum → Prop
  element? : Option (K → Tree → Datum → Prop)

inductive HoldsShape (below : Contents K) : Shape K → Tree → Datum → Prop where
  | text {content : List Char} {s : String} (h : Unescaped content s.toList) :
      HoldsShape below .text (.string content) (.text s)
  | flag (b : Bool) : HoldsShape below .flag (.bool b) (.flag b)
  | index {digits : List Char} {n : Nat} (h : Natural digits n) :
      HoldsShape below .index (.number digits) (.index n)
  | one {part : K} {t : Tree} {d : Datum} (h : below.part part t d) : HoldsShape below (.one part) t d
  | many {part : K} {ts : List Tree} {ds : List Datum} {element : K → Tree → Datum → Prop}
      (helement : below.element? = some element) (h : List.Forall₂ (element part) ts ds) :
      HoldsShape below (.many part) (.array ts) (.list ds)

inductive HoldsMember (below : Contents K) (m : Member K) : Tree → Datum → Prop where
  | absent (h : m.nullable = true) : HoldsMember below m .null .absent
  | present {t : Tree} {d : Datum} (hnull : m.nullable = true → t ≠ .null) (h : HoldsShape below m.shape t d) :
      HoldsMember below m t d

/-- The members of an object, each put into the slot of its name. -/
inductive Fills (below : Contents K) (members : List (Member K)) :
    List (Option Datum) → List (List Char × Tree) → List (Option Datum) → Prop where
  | nil (slots : List (Option Datum)) : Fills below members slots [] slots
  | unknown {slots filled : List (Option Datum)} {key : List Char} {name : String} {t : Tree}
      {ms : List (List Char × Tree)} (hkey : Unescaped key name.toList) (hname : position? members name = none)
      (h : Fills below members slots ms filled) : Fills below members slots ((key, t) :: ms) filled
  | known {slots filled : List (Option Datum)} {key : List Char} {name : String} {t : Tree} {i : Nat}
      {m : Member K} {d : Datum} {ms : List (List Char × Tree)} (hkey : Unescaped key name.toList)
      (hname : position? members name = some i) (hslot : slots[i]? = some none) (hm : members[i]? = some m)
      (hd : HoldsMember below m t d) (h : Fills below members (slots.set i (some d)) ms filled) :
      Fills below members slots ((key, t) :: ms) filled

/-- The members of a record written position by position; those at the end may be missing. -/
inductive HoldsPositions (below : Contents K) : List (Member K) → List Tree → List Datum → Prop where
  | nil : HoldsPositions below [] [] []
  | cons {m : Member K} {ms : List (Member K)} {t : Tree} {ts : List Tree} {d : Datum} {ds : List Datum}
      (hd : HoldsMember below m t d) (h : HoldsPositions below ms ts ds) :
      HoldsPositions below (m :: ms) (t :: ts) (d :: ds)
  | missing {m : Member K} {ms : List (Member K)} {d : Datum} {ds : List Datum} (hd : m.default? = some d)
      (h : HoldsPositions below ms [] ds) : HoldsPositions below (m :: ms) [] (d :: ds)

inductive Holds (below : Contents K) : Part K → Tree → Datum → Prop where
  | object {typeName : String} {members : List (Member K)} {ms : List (List Char × Tree)}
      {slots : List (Option Datum)} {ds : List Datum}
      (hslots : Fills below members (members.map fun _ => none) ms slots)
      (hsettle : settle members slots = .ok ds) :
      Holds below (.record typeName members) (.object ms) (.record ds)
  | array {typeName : String} {members : List (Member K)} {ts : List Tree} {ds : List Datum}
      (h : HoldsPositions below members ts ds) : Holds below (.record typeName members) (.array ts) (.record ds)
  | choice {alternatives : List (String × K)} {key : List Char} {name : String} {i : Nat} {part : K} {t : Tree}
      {d : Datum} (hkey : Unescaped key name.toList) (hname : alternative? alternatives name = .ok (i, part))
      (h : below.part part t d) : Holds below (.choice alternatives) (.object [(key, t)]) (.choice i d)

/-- What a tree holds as a part, in which `depth` arrays and objects may be opened. -/
def HoldsPart (schema : Schema K) : Nat → K → Tree → Datum → Prop
  | 0, _, _, _ => False
  | depth + 1, part, t, d =>
    let below : Contents K := ⟨HoldsPart schema depth, match depth with
      | 0 => none
      | depth + 1 => some (HoldsPart schema depth)⟩
    Holds below (schema part) t d

/-- What the trees below a part hold in which `depth` arrays and objects may still be opened. -/
def contentsAt (schema : Schema K) (depth : Nat) : Contents K :=
  ⟨HoldsPart schema depth, match depth with
    | 0 => none
    | depth + 1 => some (HoldsPart schema depth)⟩

theorem holdsPart_succ {schema : Schema K} {depth : Nat} {part : K} {t : Tree} {d : Datum} :
    HoldsPart schema (depth + 1) part t d ↔ Holds (contentsAt schema depth) (schema part) t d := by
  rw [HoldsPart.eq_def]
  rfl

-- ---------------------------------------------------------------------------
-- Readers that find out what a tree holds
-- ---------------------------------------------------------------------------

/-- A reader succeeds just where the text spells a tree that holds something, and stops behind it. -/
structure Decides (read : Reader) (holds : Tree → Datum → Prop) : Prop where
  complete : ∀ {t d blank cs rest}, holds t d → AllBlank blank → t.Spells cs → Delimits rest →
    read (blank ++ (cs ++ rest)) = .ok (d, rest)
  sound : ∀ {cs d rest}, read cs = .ok (d, rest) →
    ∃ t blank piece, cs = blank ++ (piece ++ rest) ∧ AllBlank blank ∧ t.Spells piece ∧ holds t d

structure BelowDecides (below : Below K) (contents : Contents K) : Prop where
  part : ∀ part, Decides (below.part part) (contents.part part)
  element : Option.Rel (fun read holds => ∀ part, Decides (read part) (holds part)) below.element? contents.element?

-- ---------------------------------------------------------------------------
-- Scalars
-- ---------------------------------------------------------------------------

theorem exists_of_readFlag {b : Bool} {cs rest : List Char} (h : readFlag cs = .ok (b, rest)) :
    ∃ blank, cs = blank ++ ((if b then "true".toList else "false".toList) ++ rest) ∧ AllBlank blank := by
  obtain ⟨blank, hblank, hcs⟩ := exists_blank cs
  unfold readFlag at h
  split at h
  · rename_i heq
    obtain ⟨tail, hword, h⟩ := bind_eq_ok_iff.mp h
    cases h
    exact ⟨blank, by rw [hcs, heq, readWord_eq_ok_iff.mp (lift_eq_ok_iff.mp hword)]; rfl, hblank⟩
  · rename_i heq
    obtain ⟨tail, hword, h⟩ := bind_eq_ok_iff.mp h
    cases h
    exact ⟨blank, by rw [hcs, heq, readWord_eq_ok_iff.mp (lift_eq_ok_iff.mp hword)]; rfl, hblank⟩
  · cases h

theorem exists_of_readIndex {n : Nat} {cs rest : List Char} (h : readIndex cs = .ok (n, rest)) :
    ∃ blank digits, cs = blank ++ (digits ++ rest) ∧ AllBlank blank ∧ Natural digits n := by
  obtain ⟨blank, hblank, hcs⟩ := exists_blank cs
  -- Only a natural number gives an index.
  have hnatural : ∀ {negative : Bool} {tail : List Char},
      (lift (readUnsignedNumber negative tail) >>= fun read => indexOf read.1 >>= fun k => .ok (k, read.2)) =
        Except.ok (n, rest) → readUnsignedNumber negative tail = .ok (.natural n, rest) := by
    intro negative tail h
    obtain ⟨⟨x, tail'⟩, hread, h⟩ := bind_eq_ok_iff.mp h
    obtain ⟨k, hk, h⟩ := bind_eq_ok_iff.mp h
    cases h
    rw [lift_eq_ok_iff.mp hread]
    cases x <;> cases hk
    rfl
  unfold readIndex at h
  dsimp only at h
  split at h
  · obtain ⟨hsign, -⟩ := natural_of_readUnsignedNumber (hnatural h)
    cases hsign
  · rename_i c tail _ heq
    split_ifs at h
    obtain ⟨-, digits, hdigits, hn⟩ := natural_of_readUnsignedNumber (hnatural h)
    exact ⟨blank, digits, by rw [hcs, heq, hdigits], hblank, hn⟩
  · cases h

-- ---------------------------------------------------------------------------
-- Lists
-- ---------------------------------------------------------------------------

section Elements

variable {read : Reader} {holds : Tree → Datum → Prop} {ts : List Tree} {ds : List Datum} {fuel : Nat}
  {next : Continuation} {rest : List Char}

theorem readElements_of_elementsFrom (hread : Decides read holds) (h : List.Forall₂ holds ts ds)
    (hfuel : ts.length ≤ fuel) (hnext : ElementsFrom Tree.Spells rest ts next) :
    readElements read fuel next = .ok (ds, rest) := by
  induction h generalizing fuel next with
  | nil =>
    cases hnext
    simp [readElements]
  | @cons t d ts ds hd _ ih =>
    obtain ⟨fuel, rfl⟩ := Nat.exists_eq_add_one.mpr (Nat.zero_lt_of_lt hfuel)
    cases hnext with
    | @next _ _ blank cs more hblank ht hmore =>
      have hown := hread.complete hd hblank ht (hmore.delimits (.inl rfl) rest)
      obtain ⟨next, hafter, hnext⟩ := afterElement_continued rest (fun _ _ _ => Tree.Spells.beginsItem) hmore
      have hlater := ih (Nat.le_of_succ_le_succ hfuel) hnext
      simp only [readElements, hown, hafter, hlater, lift_ok, ok_bind]

theorem exists_of_readElements (hread : Decides read holds) (h : readElements read fuel next = .ok (ds, rest)) :
    ∃ ts, ElementsFrom Tree.Spells rest ts next ∧ List.Forall₂ holds ts ds := by
  induction fuel generalizing ds next with
  | zero =>
    cases next with
    | done tail =>
      cases h
      exact ⟨[], .done, .nil⟩
    | next cs => cases h
  | succ fuel ih =>
    cases next with
    | done tail =>
      cases h
      exact ⟨[], .done, .nil⟩
    | next cs =>
      obtain ⟨⟨d, tail⟩, hown, h⟩ := bind_eq_ok_iff.mp h
      obtain ⟨next, hafter, h⟩ := bind_eq_ok_iff.mp h
      obtain ⟨⟨es, last⟩, hlater, h⟩ := bind_eq_ok_iff.mp h
      cases h
      obtain ⟨t, blank, piece, rfl, hblank, ht, hd⟩ := hread.sound hown
      obtain ⟨ts, hnext, hes⟩ := ih hlater
      obtain ⟨more, rfl, hmore⟩ := exists_continued_of_afterElement (lift_eq_ok_iff.mp hafter) hnext
      exact ⟨t :: ts, .next hblank ht hmore, .cons hd hes⟩

end Elements

theorem Decides.many {read : Reader} {holds : Tree → Datum → Prop} (hread : Decides read holds) :
    Decides (readMany (some read))
      fun t d => ∃ ts ds, t = .array ts ∧ d = .list ds ∧ List.Forall₂ holds ts ds where
  complete := by
    rintro _ _ blank _ rest ⟨ts, ds, rfl, rfl, h⟩ hblank hcs -
    cases hcs with
    | @array _ cs hlisted =>
      have hbracket : isBlank '[' = false := by decide
      obtain ⟨next, hfirst, hnext⟩ := firstElement_listed rest (fun _ _ _ => Tree.Spells.beginsItem) hlisted
      have hfuel := hlisted.length_le_append rest
      have helements := readElements_of_elementsFrom hread h hfuel hnext
      rw [readMany, skipBlank_append hblank, List.cons_append, skipBlank_cons hbracket]
      simp only [hfirst, helements, lift_ok, ok_bind]
  sound := by
    intro cs d rest h
    obtain ⟨blank, hblank, hcs⟩ := exists_blank cs
    unfold readMany at h
    split at h
    · rename_i tail heq
      dsimp only at h
      obtain ⟨next, hfirst, h⟩ := bind_eq_ok_iff.mp h
      obtain ⟨⟨ds, last⟩, helements, h⟩ := bind_eq_ok_iff.mp h
      cases h
      obtain ⟨ts, hnext, hds⟩ := exists_of_readElements hread helements
      obtain ⟨listed, rfl, hlisted⟩ := exists_listed_of_firstElement (lift_eq_ok_iff.mp hfirst) hnext
      exact ⟨.array ts, blank, _, by rw [hcs, heq]; simp, hblank, .array hlisted, ts, ds, rfl, rfl, hds⟩
    · cases h

section Below

variable {below : Below K} {contents : Contents K}

theorem decides_readShape (hbelow : BelowDecides below contents) (shape : Shape K) :
    Decides (readShape below shape) (HoldsShape contents shape) := by
  cases shape with
  | text =>
    constructor
    · intro t d blank cs rest h hblank hcs _
      cases h with
      | @text content s h =>
        cases hcs
        have hread : readText "a string" (blank ++ ('"' :: (content ++ ['"']) ++ rest)) = .ok (s, rest) :=
          readText_eq_ok_iff.mpr ⟨blank, content, by simp, hblank, h⟩
        simp only [readShape, hread, ok_bind]
    · intro cs d rest h
      obtain ⟨⟨s, last⟩, hread, h⟩ := bind_eq_ok_iff.mp h
      cases h
      obtain ⟨blank, content, rfl, hblank, hcontent⟩ := readText_eq_ok_iff.mp hread
      exact ⟨.string content, blank, _, by simp, hblank, .string hcontent.stringContent, .text hcontent⟩
  | flag =>
    constructor
    · intro t d blank cs rest h hblank hcs _
      cases h with
      | flag b =>
        cases hcs
        simp only [readShape, readFlag_bool b hblank, ok_bind]
    · intro cs d rest h
      obtain ⟨⟨b, last⟩, hread, h⟩ := bind_eq_ok_iff.mp h
      cases h
      obtain ⟨blank, rfl, hblank⟩ := exists_of_readFlag hread
      exact ⟨.bool b, blank, _, rfl, hblank, .bool b, .flag b⟩
  | index =>
    constructor
    · intro t d blank cs rest h hblank hcs hrest
      cases h with
      | index h =>
        cases hcs
        simp only [readShape, readIndex_of_natural hblank h hrest, ok_bind]
    · intro cs d rest h
      obtain ⟨⟨n, last⟩, hread, h⟩ := bind_eq_ok_iff.mp h
      cases h
      obtain ⟨blank, digits, rfl, hblank, hn⟩ := exists_of_readIndex hread
      exact ⟨.number digits, blank, _, rfl, hblank, .number (.unsigned hn.unsignedNumber), .index hn⟩
  | one part =>
    constructor
    · intro t d blank cs rest h
      cases h with
      | one h => exact (hbelow.part part).complete h
    · intro cs d rest h
      obtain ⟨t, blank, piece, hcs, hblank, ht, hd⟩ := (hbelow.part part).sound h
      exact ⟨t, blank, piece, hcs, hblank, ht, .one hd⟩
  | many part =>
    obtain ⟨belowPart, element?⟩ := below
    obtain ⟨contentsPart, elementContents?⟩ := contents
    have helement := hbelow.element
    constructor
    · rintro t d blank cs rest h
      cases h with
      | many hsome h =>
        cases helement with
        | none => cases hsome
        | some hread =>
          cases hsome
          exact (hread part).many.complete ⟨_, _, rfl, rfl, h⟩
    · intro cs d rest h
      cases helement with
      | none =>
        simp only [readShape, readMany, Option.map_none] at h
        split at h <;> cases h
      | some hread =>
        obtain ⟨t, blank, piece, hcs, hblank, ht, ts, ds, rfl, rfl, hds⟩ := (hread part).many.sound h
        exact ⟨_, blank, piece, hcs, hblank, ht, .many rfl hds⟩

theorem decides_readMember (hbelow : BelowDecides below contents) (m : Member K) :
    Decides (readMember below m) (HoldsMember contents m) where
  complete := by
    intro t d blank cs rest h hblank hcs hrest
    cases h with
    | absent hnullable =>
      cases hcs
      rw [readMember, hnullable, skipBlank_append hblank]
      rfl
    | present hnull h =>
      have hread := (decides_readShape hbelow m.shape).complete h hblank hcs hrest
      obtain ⟨c, more, rfl, hc⟩ := hcs.opens
      rw [readMember]
      split
      · rename_i hnullable heq
        rw [skipBlank_append hblank, List.cons_append, skipBlank_cons hc.isBlank] at heq
        cases heq
        exact absurd hc.eq_null (hnull hnullable)
      · exact hread
  sound := by
    intro cs d rest h
    obtain ⟨blank, hblank, hcs⟩ := exists_blank cs
    unfold readMember at h
    split at h
    · rename_i tail hnullable heq
      obtain ⟨last, hword, h⟩ := bind_eq_ok_iff.mp h
      cases h
      refine ⟨.null, blank, _, ?_, hblank, .null, .absent hnullable⟩
      rw [hcs, heq, readWord_eq_ok_iff.mp (lift_eq_ok_iff.mp hword)]
      rfl
    · rename_i hother
      obtain ⟨t, before, piece, rfl, hbefore, ht, hd⟩ := (decides_readShape hbelow m.shape).sound h
      refine ⟨t, before, piece, rfl, hbefore, ht, .present ?_ hd⟩
      rintro hnullable rfl
      cases ht
      exact hother _ hnullable (by rw [skipBlank_append hbefore]; rfl)

-- ---------------------------------------------------------------------------
-- Objects
-- ---------------------------------------------------------------------------

theorem readObject_of_fills (hbelow : BelowDecides below contents) {members : List (Member K)}
    {slots filled : List (Option Datum)} {ms : List (List Char × Tree)} {fuel : Nat} {next : Continuation}
    {rest : List Char} (h : Fills contents members slots ms filled) (hfuel : ms.length ≤ fuel)
    (hnext : MembersFrom Tree.SpellsMember rest ms next) :
    readObject below members fuel slots next = .ok (filled, rest) := by
  induction h generalizing fuel next with
  | nil slots =>
    cases hnext
    simp [readObject]
  | @unknown slots filled key name t ms hkey hname _ ih =>
    obtain ⟨fuel, rfl⟩ := Nat.exists_eq_add_one.mpr (Nat.zero_lt_of_lt hfuel)
    cases hnext with
    | @next _ _ _ more hm hmore =>
      cases hm with
      | @mk _ _ before after piece _ hbefore hafter ht =>
        have hskip := skipValue_of_spells hafter ht (hmore.delimits (.inr rfl) rest)
        obtain ⟨next, hafterMember, hnext⟩ := afterMember_continued rest Tree.SpellsMember.quote hmore
        have hlater := ih (Nat.le_of_succ_le_succ hfuel) hnext
        simp only [readObject, List.append_assoc, List.cons_append, readString_of_unescaped hkey, hname,
          readColon_blank hbefore, hskip, hafterMember, hlater, lift_ok, ok_bind]
  | @known slots filled key name t i m d ms hkey hname hslot hm hd _ ih =>
    obtain ⟨fuel, rfl⟩ := Nat.exists_eq_add_one.mpr (Nat.zero_lt_of_lt hfuel)
    cases hnext with
    | @next _ _ _ more hmember hmore =>
      cases hmember with
      | @mk _ _ before after piece _ hbefore hafter ht =>
        have hown := (decides_readMember hbelow m).complete hd hafter ht (hmore.delimits (.inr rfl) rest)
        obtain ⟨next, hafterMember, hnext⟩ := afterMember_continued rest Tree.SpellsMember.quote hmore
        have hlater := ih (Nat.le_of_succ_le_succ hfuel) hnext
        simp only [readObject, List.append_assoc, List.cons_append, readString_of_unescaped hkey, hname, hslot, hm,
          readColon_blank hbefore, hown, hafterMember, hlater, lift_ok, ok_bind]

theorem membersFrom_next {key before after piece more rest : List Char} {t : Tree} {ms : List (List Char × Tree)}
    (hkey : StringContent key) (hbefore : AllBlank before) (hafter : AllBlank after) (ht : t.Spells piece)
    (hmore : Continued '}' Tree.SpellsMember ms more) :
    MembersFrom Tree.SpellsMember rest ((key, t) :: ms)
      (.next (key ++ '"' :: (before ++ ':' :: (after ++ (piece ++ (more ++ rest)))))) := by
  have hnext : MembersFrom Tree.SpellsMember rest _ _ :=
    .next (Tree.SpellsMember.mk hkey hbefore hafter ht) hmore
  simpa only [List.append_assoc, List.cons_append] using hnext

theorem exists_of_readObject (hbelow : BelowDecides below contents) {members : List (Member K)}
    {slots filled : List (Option Datum)} {fuel : Nat} {next : Continuation} {rest : List Char}
    (h : readObject below members fuel slots next = .ok (filled, rest)) :
    ∃ ms, MembersFrom Tree.SpellsMember rest ms next ∧ Fills contents members slots ms filled := by
  induction fuel generalizing slots next with
  | zero =>
    cases next with
    | done tail =>
      cases h
      exact ⟨[], .done, .nil _⟩
    | next cs => cases h
  | succ fuel ih =>
    cases next with
    | done tail =>
      cases h
      exact ⟨[], .done, .nil _⟩
    | next cs =>
      obtain ⟨⟨name, afterKey⟩, hstring, hvalue⟩ := bind_eq_ok_iff.mp h
      obtain ⟨key, rfl, hkey⟩ := readString_eq_ok_iff.mp (lift_eq_ok_iff.mp hstring)
      dsimp only at hvalue
      split at hvalue
      · rename_i hname
        obtain ⟨afterColon, hcolon, hvalue⟩ := bind_eq_ok_iff.mp hvalue
        obtain ⟨tail, hskip, hvalue⟩ := bind_eq_ok_iff.mp hvalue
        obtain ⟨next, hafter, hlater⟩ := bind_eq_ok_iff.mp hvalue
        obtain ⟨before, rfl, hbefore⟩ := readColon_eq_ok_iff.mp (lift_eq_ok_iff.mp hcolon)
        obtain ⟨t, after, piece, rfl, hafterColon, ht⟩ := skipsOnly_skipNested _ (lift_eq_ok_iff.mp hskip)
        obtain ⟨ms, hnext, hfills⟩ := ih hlater
        obtain ⟨more, rfl, hmore⟩ := exists_continued_of_afterMember (lift_eq_ok_iff.mp hafter) hnext
        exact ⟨(key, t) :: ms, membersFrom_next hkey.stringContent hbefore hafterColon ht hmore,
          .unknown hkey hname hfills⟩
      · rename_i i hname
        split at hvalue
        · rename_i m hslot hm
          obtain ⟨afterColon, hcolon, hvalue⟩ := bind_eq_ok_iff.mp hvalue
          obtain ⟨⟨d, tail⟩, hown, hvalue⟩ := bind_eq_ok_iff.mp hvalue
          obtain ⟨next, hafter, hlater⟩ := bind_eq_ok_iff.mp hvalue
          obtain ⟨before, rfl, hbefore⟩ := readColon_eq_ok_iff.mp (lift_eq_ok_iff.mp hcolon)
          obtain ⟨t, after, piece, rfl, hafterColon, ht, hd⟩ := (decides_readMember hbelow m).sound hown
          obtain ⟨ms, hnext, hfills⟩ := ih hlater
          obtain ⟨more, rfl, hmore⟩ := exists_continued_of_afterMember (lift_eq_ok_iff.mp hafter) hnext
          exact ⟨(key, t) :: ms, membersFrom_next hkey.stringContent hbefore hafterColon ht hmore,
            .known hkey hname hslot hm hd hfills⟩
        · cases hvalue

-- ---------------------------------------------------------------------------
-- Arrays
-- ---------------------------------------------------------------------------

theorem closeArray_eq_ok_iff {cs rest : List Char} :
    closeArray cs = .ok rest ↔ ∃ blank, cs = blank ++ ']' :: rest ∧ AllBlank blank := by
  rw [← skipBlank_eq_cons_iff (by decide), closeArray]
  split
  · simp_all
  · simp_all
  · split <;> simp_all
  · simp_all

/-- A step to the next element that finds the end of an array where its bracket is. -/
def FindsEnd (step : List Char → Except Fault Continuation) : Prop :=
  ∀ {cs rest}, step cs = .ok (.done rest) ↔ ∃ blank, cs = blank ++ ']' :: rest ∧ AllBlank blank

theorem findsEnd_firstElement : FindsEnd firstElement := by
  intro cs rest
  rw [← skipBlank_eq_cons_iff (by decide), firstElement]
  split <;> simp_all

theorem findsEnd_afterElement : FindsEnd afterElement := by
  intro cs rest
  rw [← skipBlank_eq_cons_iff (by decide), afterElement]
  split
  · simp_all
  · simp_all
  · split <;> simp_all
  · simp_all

theorem holdsPositions_nil_iff (lengthError : ReadError) {members : List (Member K)} {ds : List Datum} :
    HoldsPositions contents members [] ds ↔ (members.mapM fun m =>
      match m.default? with
      | some d => Except.ok d
      | none => Except.error lengthError) = .ok ds := by
  induction members generalizing ds with
  | nil =>
    constructor
    · rintro ⟨⟩
      rfl
    · intro h
      cases h
      exact .nil
  | cons m members ih =>
    rw [List.mapM_cons]
    constructor
    · intro h
      cases h with
      | missing hd h =>
        simp only [hd, ih.mp h, ok_bind]
        rfl
    · intro h
      obtain ⟨d, hd, h⟩ := bind_eq_ok_iff.mp h
      obtain ⟨es, hes, h⟩ := bind_eq_ok_iff.mp h
      cases h
      split at hd
      · rename_i hdefault
        cases hd
        exact .missing hdefault (ih.mpr hes)
      · cases hd

theorem readArray_of_holdsPositions (hbelow : BelowDecides below contents) {lengthError : Nat → ReadError}
    {count : Nat} {members : List (Member K)} {ts : List Tree} {ds : List Datum}
    {step : List Char → Except Fault Continuation} {next : Continuation} {cs rest : List Char}
    (h : HoldsPositions contents members ts ds) (hend : FindsEnd step) (hstep : step cs = .ok next)
    (hnext : ElementsFrom Tree.Spells rest ts next) :
    readArray below lengthError count members step cs = .ok (ds, rest) := by
  induction h generalizing count step cs next with
  | nil =>
    cases hnext
    simp only [readArray, closeArray_eq_ok_iff.mpr (hend.mp hstep), ok_bind]
  | cons hd _ ih =>
    cases hnext with
    | @next _ _ blank piece more hblank ht hmore =>
      have hown := (decides_readMember hbelow _).complete hd hblank ht (hmore.delimits (.inl rfl) rest)
      obtain ⟨next, hafter, hnext⟩ := afterElement_continued rest (fun _ _ _ => Tree.Spells.beginsItem) hmore
      have hlater := @ih (count + 1) _ _ _ findsEnd_afterElement hafter hnext
      simp only [readArray, hstep, hown, hlater, lift_ok, ok_bind]
  | missing hd h =>
    cases hnext
    have hdefaults := (holdsPositions_nil_iff (lengthError count)).mp (.missing hd h)
    simp only [readArray, hstep, lift_ok, ok_bind]
    exact bind_eq_ok_iff.mpr ⟨_, hdefaults, rfl⟩

theorem exists_of_readArray (hbelow : BelowDecides below contents) {lengthError : Nat → ReadError} {count : Nat}
    {members : List (Member K)} {ds : List Datum} {step : List Char → Except Fault Continuation}
    {cs rest : List Char} (hend : FindsEnd step)
    (h : readArray below lengthError count members step cs = .ok (ds, rest)) :
    ∃ ts next, step cs = .ok next ∧ ElementsFrom Tree.Spells rest ts next
      ∧ HoldsPositions contents members ts ds := by
  induction members generalizing count step cs ds with
  | nil =>
    obtain ⟨tail, hclose, h⟩ := bind_eq_ok_iff.mp h
    cases h
    exact ⟨[], _, hend.mpr (closeArray_eq_ok_iff.mp hclose), .done, .nil⟩
  | cons m members ih =>
    obtain ⟨next, hstep, h⟩ := bind_eq_ok_iff.mp h
    have hstep := lift_eq_ok_iff.mp hstep
    cases next with
    | next cs =>
      obtain ⟨⟨d, tail⟩, hown, h⟩ := bind_eq_ok_iff.mp h
      obtain ⟨⟨es, last⟩, hlater, h⟩ := bind_eq_ok_iff.mp h
      cases h
      obtain ⟨t, blank, piece, rfl, hblank, ht, hd⟩ := (decides_readMember hbelow m).sound hown
      obtain ⟨ts, next, hafter, hnext, hes⟩ := ih findsEnd_afterElement hlater
      obtain ⟨more, rfl, hmore⟩ := exists_continued_of_afterElement hafter hnext
      exact ⟨t :: ts, _, hstep, .next hblank ht hmore, .cons hd hes⟩
    | done tail =>
      obtain ⟨es, hdefaults, h⟩ := bind_eq_ok_iff.mp h
      cases h
      exact ⟨[], _, hstep, .done, (holdsPositions_nil_iff _).mpr hdefaults⟩

end Below

-- ---------------------------------------------------------------------------
-- Parts
-- ---------------------------------------------------------------------------

section Parts

variable {schema : Schema K} {depth : Nat} {part : K}

theorem belowDecides_belowAt
    (h : ∀ n ≤ depth, ∀ part, Decides (readPart schema n part) (HoldsPart schema n part)) :
    BelowDecides (belowAt schema depth) (contentsAt schema depth) where
  part := h depth (Nat.le_refl _)
  element := by
    cases depth with
    | zero => exact .none
    | succ depth => exact .some (h depth (Nat.le_succ _))

theorem readPart_array {typeName : String} {members : List (Member K)} {blank : List Char}
    (hpart : schema part = .record typeName members) (hblank : AllBlank blank) (cs : List Char) :
    readPart schema (depth + 1) part (blank ++ '[' :: cs) = (do
      let (ds, rest) ← readArray (belowAt schema depth)
        (fun n => .wrongLength n (lengthText typeName members.length)) 0 members firstElement cs
      .ok (.record ds, rest)) := by
  have hbracket : isBlank '[' = false := by decide
  simp only [readPart, hpart, skipBlank_append hblank, skipBlank_cons hbracket]
  rfl

theorem decides_record {typeName : String} {members : List (Member K)}
    (hbelow : BelowDecides (belowAt schema depth) (contentsAt schema depth))
    (hpart : schema part = .record typeName members) :
    Decides (readPart schema (depth + 1) part) (Holds (contentsAt schema depth) (.record typeName members)) where
  complete := by
    intro t d blank cs rest h hblank hcs _
    cases h with
    | @object _ _ ms slots ds hslots hsettle =>
      cases hcs with
      | @object _ cs hlisted =>
        obtain ⟨next, hfirst, hnext⟩ := firstMember_listed rest Tree.SpellsMember.quote hlisted
        have hfuel := hlisted.length_le_append rest
        have hobject := readObject_of_fills hbelow hslots hfuel hnext
        rw [List.cons_append, readPart_object hpart hblank]
        simp only [hfirst, hobject, hsettle, lift_ok, ok_bind]
    | @array _ _ ts ds h =>
      cases hcs with
      | @array _ cs hlisted =>
        obtain ⟨next, hfirst, hnext⟩ := firstElement_listed rest (fun _ _ _ => Tree.Spells.beginsItem) hlisted
        rw [List.cons_append, readPart_array hpart hblank]
        simp only [readArray_of_holdsPositions hbelow h findsEnd_firstElement hfirst hnext, ok_bind]
  sound := by
    intro cs d rest h
    obtain ⟨blank, hblank, hcs⟩ := exists_blank cs
    -- A record begins with a brace or a bracket.
    have hopen : (∃ tail, skipBlank cs = '\x7b' :: tail) ∨ (∃ tail, skipBlank cs = '[' :: tail) := by
      unfold readPart at h
      simp only [hpart] at h
      split at h
      · rename_i tail heq
        exact .inl ⟨tail, heq⟩
      · rename_i tail heq
        exact .inr ⟨tail, heq⟩
      · cases h
    obtain ⟨tail, heq⟩ | ⟨tail, heq⟩ := hopen
    · rw [heq] at hcs
      rw [hcs, readPart_object hpart hblank] at h
      obtain ⟨next, hfirst, h⟩ := bind_eq_ok_iff.mp h
      obtain ⟨⟨slots, last⟩, hobject, h⟩ := bind_eq_ok_iff.mp h
      obtain ⟨ds, hsettle, h⟩ := bind_eq_ok_iff.mp h
      cases h
      obtain ⟨ms, hnext, hslots⟩ := exists_of_readObject hbelow hobject
      obtain ⟨listed, rfl, hlisted⟩ := exists_listed_of_firstMember (lift_eq_ok_iff.mp hfirst) hnext
      exact ⟨.object ms, blank, _, by rw [hcs]; simp, hblank, .object hlisted, .object hslots hsettle⟩
    · rw [heq] at hcs
      rw [hcs, readPart_array hpart hblank] at h
      obtain ⟨⟨ds, last⟩, harray, h⟩ := bind_eq_ok_iff.mp h
      cases h
      obtain ⟨ts, next, hfirst, hnext, hds⟩ := exists_of_readArray hbelow findsEnd_firstElement harray
      obtain ⟨listed, rfl, hlisted⟩ := exists_listed_of_firstElement hfirst hnext
      exact ⟨.array ts, blank, _, by rw [hcs]; simp, hblank, .array hlisted, .array hds⟩

theorem closeChoice_eq_ok_iff {cs rest : List Char} :
    closeChoice cs = .ok rest ↔ ∃ blank, cs = blank ++ '}' :: rest ∧ AllBlank blank := by
  rw [← skipBlank_eq_cons_iff (by decide), closeChoice]
  split <;> simp_all

theorem readPart_brace {alternatives : List (String × K)} {blank : List Char}
    (hpart : schema part = .choice alternatives) (hblank : AllBlank blank) (cs : List Char) :
    readPart schema (depth + 1) part (blank ++ '\x7b' :: cs) = (do
      let (name, rest) ← readText "variant identifier" cs
      let (i, part) ← alternative? alternatives name
      let (d, rest) ← readPart schema depth part (← lift (readColon rest))
      .ok (.choice i d, ← closeChoice rest)) := by
  have hbrace : isBlank '\x7b' = false := by decide
  rw [readPart.eq_def]
  simp only [hpart, skipBlank_append hblank, skipBlank_cons hbrace]

theorem decides_choice {alternatives : List (String × K)}
    (hbelow : BelowDecides (belowAt schema depth) (contentsAt schema depth))
    (hpart : schema part = .choice alternatives) :
    Decides (readPart schema (depth + 1) part) (Holds (contentsAt schema depth) (.choice alternatives)) where
  complete := by
    intro t d blank cs rest h hblank hcs _
    cases h with
    | @choice _ key name i inner t d hkey hname h =>
      cases hcs with
      | object hlisted =>
        cases hlisted with
        | @cons first _ more _ _ hfirst hm hmore =>
          cases hm with
          | @mk _ _ before after piece _ hbefore hafter ht =>
            have hread : readText "variant identifier" (first ++ '"' :: (key ++ '"' ::
                (before ++ ':' :: (after ++ (piece ++ (more ++ rest)))))) =
                .ok (name, before ++ ':' :: (after ++ (piece ++ (more ++ rest)))) :=
              readText_eq_ok_iff.mpr ⟨first, key, rfl, hfirst, hkey⟩
            have hinner :
                readPart schema depth inner (after ++ (piece ++ (more ++ rest))) = .ok (d, more ++ rest) :=
              (hbelow.part inner).complete h hafter ht (hmore.delimits (.inr rfl) rest)
            have hclose : closeChoice (more ++ rest) = .ok rest := by
              cases hmore with
              | nil hlast => exact closeChoice_eq_ok_iff.mpr ⟨_, by simp, hlast⟩
            rw [List.cons_append, readPart_brace hpart hblank]
            simp only [List.append_assoc, List.cons_append, hread, hname, readColon_blank hbefore, hinner, hclose,
              lift_ok, ok_bind]
  sound := by
    intro cs d rest h
    obtain ⟨blank, hblank, hcs⟩ := exists_blank cs
    have hopen : ∃ tail, skipBlank cs = '\x7b' :: tail := by
      unfold readPart at h
      simp only [hpart] at h
      split at h
      · cases h
      · rename_i tail heq
        exact ⟨tail, heq⟩
      · obtain ⟨⟨name, tail⟩, -, h⟩ := bind_eq_ok_iff.mp h
        obtain ⟨a, -, h⟩ := bind_eq_ok_iff.mp h
        cases h
      · cases h
    obtain ⟨tail, heq⟩ := hopen
    rw [heq] at hcs
    rw [hcs, readPart_brace hpart hblank] at h
    obtain ⟨⟨name, afterKey⟩, htext, h⟩ := bind_eq_ok_iff.mp h
    obtain ⟨⟨i, inner⟩, hname, h⟩ := bind_eq_ok_iff.mp h
    obtain ⟨afterColon, hcolon, h⟩ := bind_eq_ok_iff.mp h
    obtain ⟨⟨e, afterValue⟩, hinner, h⟩ := bind_eq_ok_iff.mp h
    obtain ⟨last, hclose, h⟩ := bind_eq_ok_iff.mp h
    cases h
    obtain ⟨first, key, rfl, hfirst, hkey⟩ := readText_eq_ok_iff.mp htext
    obtain ⟨before, rfl, hbefore⟩ := readColon_eq_ok_iff.mp (lift_eq_ok_iff.mp hcolon)
    obtain ⟨t, after, piece, rfl, hafter, ht, he⟩ := (hbelow.part inner).sound hinner
    obtain ⟨end_, rfl, hend⟩ := closeChoice_eq_ok_iff.mp hclose
    have hmember := Tree.SpellsMember.mk hkey.stringContent hbefore hafter ht
    exact ⟨.object [(key, t)], blank, _, by rw [hcs]; simp, hblank, .object (.cons hfirst hmember (.nil hend)),
      .choice hkey hname he⟩

theorem readPart_zero (schema : Schema K) (part : K) (cs : List Char) :
    ∃ e, readPart schema 0 part cs = .error e := by
  unfold readPart
  cases schema part with
  | record typeName members =>
    dsimp only
    split <;> exact ⟨_, rfl⟩
  | choice alternatives =>
    dsimp only
    split
    · exact ⟨_, rfl⟩
    · exact ⟨_, rfl⟩
    · cases lift (readString _) with
      | error e => exact ⟨e, rfl⟩
      | ok read =>
        rw [ok_bind]
        cases alternative? alternatives read.1 with
        | error e => exact ⟨e, rfl⟩
        | ok a => exact ⟨_, rfl⟩
    · exact ⟨_, rfl⟩

/-- The reader of every part finds out what a tree holds as that part. -/
theorem decides_readPart (schema : Schema K) (depth : Nat) :
    ∀ part, Decides (readPart schema depth part) (HoldsPart schema depth part) := by
  -- The elements of a list stand two levels below the part that holds it.
  induction depth using Nat.strongRecOn with
  | ind depth ih =>
    intro part
    cases depth with
    | zero =>
      constructor
      · intro t d blank cs rest h
        cases h
      · intro cs d rest h
        obtain ⟨e, he⟩ := readPart_zero schema part cs
        rw [he] at h
        cases h
    | succ depth =>
      have hbelow := belowDecides_belowAt fun n hn => ih n (Nat.lt_succ_of_le hn)
      have hholds : HoldsPart schema (depth + 1) part = Holds (contentsAt schema depth) (schema part) :=
        funext fun t => funext fun d => propext holdsPart_succ
      rw [hholds]
      cases hpart : schema part with
      | record typeName members => exact decides_record hbelow hpart
      | choice alternatives => exact decides_choice hbelow hpart

-- ---------------------------------------------------------------------------
-- Texts
-- ---------------------------------------------------------------------------

/-- A text is read as certain contents if and only if it spells a tree that holds them. -/
theorem read_eq_ok_iff {text : String} {d : Datum} :
    schema.read part text = .ok d ↔ ∃ t : Tree, t.SpelledIn text ∧ HoldsPart schema maxDepth part t d := by
  have hdecides := decides_readPart schema maxDepth part
  constructor
  · intro h
    obtain ⟨⟨e, rest⟩, hread, h⟩ := bind_eq_ok_iff.mp h
    dsimp only at h
    split_ifs at h with hrest
    cases h
    obtain ⟨t, before, piece, htext, hbefore, ht, hd⟩ := hdecides.sound hread
    have hafter : AllBlank rest := by
      obtain ⟨blank, hblank, hsplit⟩ := exists_blank rest
      rw [List.isEmpty_iff.mp hrest, List.append_nil] at hsplit
      rwa [hsplit]
    exact ⟨t, ⟨before, piece, rest, htext, hbefore, ht, hafter⟩, hd⟩
  · rintro ⟨t, ⟨before, piece, after, htext, hbefore, ht, hafter⟩, hd⟩
    have hdelimits := Delimits.blank_append hafter delimits_nil
    have hend := skipBlank_append hafter []
    rw [List.append_nil] at hdelimits hend
    have hread := hdecides.complete hd hbefore ht hdelimits
    simp only [read, htext, hread, finish, hend, ok_bind]
    rfl

end Parts

end DocMark.Json.Schema
