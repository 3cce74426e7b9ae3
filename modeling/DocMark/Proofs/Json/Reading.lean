-- SUMMARY: What a schema writes is read back from every text that spells it.
import Mathlib
import DocMark.Json.Schema
import DocMark.Proofs.Json.Continuations
import DocMark.Proofs.Json.Tokens

/-!
# Reading back what a schema writes

Contents fit a schema when they have the form that it describes. A schema is lossless when no two members
of a record share a name and what is not written for a member is what a missing member stands for. Such a
schema reads fitting contents back from whatever text spells the value that it writes for them, as long as
the text is not nested too deep.
-/
namespace DocMark.Json.Schema

open Results

variable {K : Type}

-- ---------------------------------------------------------------------------
-- Contents and schemas
-- ---------------------------------------------------------------------------

mutual

/-- Contents of the form that a shape asks for. -/
inductive Fits (schema : Schema K) : Shape K → Datum → Prop where
  | text (s : String) : Fits schema .text (.text s)
  | flag (b : Bool) : Fits schema .flag (.flag b)
  | index {n : Nat} (h : n ≤ maxNatural) : Fits schema .index (.index n)
  | many {part : K} {ds : List Datum} (h : ∀ d ∈ ds, Fits schema (.one part) d) :
      Fits schema (.many part) (.list ds)
  | record {part : K} {typeName : String} {members : List (Member K)} {ds : List Datum}
      (hpart : schema part = .record typeName members)
      (h : List.Forall₂ (FitsMember schema) members ds) : Fits schema (.one part) (.record ds)
  | choice {part inner : K} {alternatives : List (String × K)} {position : Nat} {name : String}
      {d : Datum} (hpart : schema part = .choice alternatives)
      (hname : alternatives[position]? = some (name, inner)) (h : Fits schema (.one inner) d) :
      Fits schema (.one part) (.choice position d)

inductive FitsMember (schema : Schema K) : Member K → Datum → Prop where
  | absent {m : Member K} (h : m.nullable = true) : FitsMember schema m .absent
  | present {m : Member K} {d : Datum} (h : Fits schema m.shape d) : FitsMember schema m d

end

/-- What is left out for a member is what stands for it when it is missing. -/
def Restores (m : Member K) : Prop := ∀ d, m.omission.omits d = true → m.default? = some d

theorem restores_of_never {m : Member K} (h : m.omission = .never) : Restores m := by
  intro d homits
  rw [h] at homits
  cases d <;> cases homits

theorem restores_optional (name : String) (shape : Shape K) : Restores (.optional name shape) := by
  intro d homits
  cases d <;> first | rfl | cases homits

theorem restores_setFlag (name : String) : Restores (K := K) (.setFlag name) := by
  intro d homits
  cases d with
  | flag b =>
    cases b
    · rfl
    · cases homits
  | _ => cases homits

theorem restores_text (name : String) (shape : Shape K) (nullable : Bool) :
    Restores ⟨name, shape, nullable, some (.text ""), .empty⟩ := by
  intro d homits
  cases d with
  | text s =>
    obtain rfl : s = "" := by simpa [Omission.omits] using homits
    rfl
  | _ => cases homits

/-- A schema that can tell all contents apart by what it writes for them. -/
structure Lossless (schema : Schema K) : Prop where
  nodup_members : ∀ {part typeName members}, schema part = .record typeName members →
    (members.map (·.name)).Nodup
  restores : ∀ {part typeName members}, schema part = .record typeName members →
    ∀ m ∈ members, Restores m
  nodup_alternatives : ∀ {part alternatives}, schema part = .choice alternatives →
    (alternativeNames alternatives).Nodup

/-- What is written for a member, if anything is. -/
def kept (m : Member K) (d : Datum) : Option Datum := if m.omission.omits d then none else some d

theorem settle_kept {ms : List (Member K)} {ds : List Datum} (hlength : ms.length = ds.length)
    (hrestores : ∀ m ∈ ms, Restores m) : settle ms (List.zipWith kept ms ds) = .ok ds := by
  induction ms generalizing ds with
  | nil =>
    obtain rfl := List.length_eq_zero_iff.mp hlength.symm
    rfl
  | cons m ms ih =>
    obtain _ | ⟨d, ds⟩ := ds
    · simp at hlength
    · have hrest := ih (by simpa using hlength) fun m' hm' => hrestores m' (List.mem_cons_of_mem m hm')
      have hown := hrestores m (List.mem_cons_self ..) d
      cases homits : m.omission.omits d with
      | false => simp [settle, kept, homits, hrest, bind, Except.bind, pure, Except.pure]
      | true => simp [settle, kept, homits, missing, hown homits, hrest, bind, Except.bind]

@[simp] theorem lift_ok {α : Type} (a : α) : lift (.ok a) = .ok a := rfl

theorem lift_eq_ok_iff {α : Type} {r : Except Fault α} {a : α} :
    lift r = .ok a ↔ r = .ok a := mapError_eq_ok_iff

variable {schema : Schema K}

theorem writeAll_eq_map (part : K) (ds : List Datum) :
    writeAll schema part ds = ds.map (schema.write part) := by
  induction ds with
  | nil => rfl
  | cons d ds ih => rw [writeAll, ih, List.map_cons, write]

theorem write_record {part : K} {typeName : String} {members : List (Member K)} (ds : List Datum)
    (hpart : schema part = .record typeName members) :
    schema.write part (.record ds) = .object (writeMembers schema members ds) := by
  simp [write, writeShape, hpart]

theorem write_choice {part inner : K} {alternatives : List (String × K)} {position : Nat}
    {name : String} (d : Datum) (hpart : schema part = .choice alternatives)
    (hname : alternatives[position]? = some (name, inner)) :
    schema.write part (.choice position d) = .object [(name, schema.write inner d)] := by
  simp [write, writeShape, hpart, hname]

-- ---------------------------------------------------------------------------
-- Where pieces begin
-- ---------------------------------------------------------------------------

/-- The text of an item, which no blank, closing bracket or `null` is mistaken for. -/
def StartsItem (cs : List Char) : Prop :=
  ∃ c more, cs = c :: more ∧ isBlank c = false ∧ c ≠ ']' ∧ c ≠ 'n'

theorem Fits.startsItem {shape : Shape K} {d : Datum} {cs : List Char} (h : Fits schema shape d)
    (hcs : Spells (writeShape schema shape d) cs) : StartsItem cs := by
  cases h with
  | text s =>
    simp only [writeShape] at hcs
    cases hcs
    exact ⟨'"', _, rfl, by decide⟩
  | flag b =>
    simp only [writeShape] at hcs
    cases hcs
    cases b
    · exact ⟨'f', _, rfl, by decide⟩
    · exact ⟨'t', _, rfl, by decide⟩
  | @index n hn =>
    simp only [writeShape] at hcs
    cases hcs
    obtain ⟨c, more, hdigits, hc⟩ := (natural_toDigits hn).unsignedNumber.exists_digit
    refine ⟨c, more, (text_natural n).trans hdigits, isBlank_of_isDigit hc, ?_, ?_⟩
    · rintro rfl
      cases hc
    · rintro rfl
      cases hc
  | many h =>
    simp only [writeShape] at hcs
    cases hcs
    exact ⟨'[', _, rfl, by decide⟩
  | record hpart h =>
    simp only [writeShape, hpart] at hcs
    cases hcs
    exact ⟨'\x7b', _, rfl, by decide⟩
  | choice hpart hname h =>
    simp only [writeShape, hpart, hname] at hcs
    cases hcs
    exact ⟨'\x7b', _, rfl, by decide⟩

-- ---------------------------------------------------------------------------
-- Elements
-- ---------------------------------------------------------------------------

theorem beginsItem_of_mem_map {part : K} {ds : List Datum}
    (hfits : ∀ d ∈ ds, Fits schema (.one part) d) :
    ∀ v ∈ ds.map (schema.write part), ∀ cs, Spells v cs → BeginsItem ']' cs := by
  intro v hv cs hcs
  obtain ⟨d, hd, rfl⟩ := List.mem_map.mp hv
  obtain ⟨c, more, rfl, hc, hbracket, -⟩ := (hfits d hd).startsItem hcs
  exact ⟨c, more, rfl, hc, hbracket⟩

/-- A reader reads a value as certain contents, from every text that spells it. -/
def ReadsBack (read : Reader) (v : Value) (d : Datum) : Prop :=
  ∀ blank cs rest, AllBlank blank → Spells v cs → Delimits rest →
    read (blank ++ (cs ++ rest)) = .ok (d, rest)

theorem readElements_elementsFrom {read : Reader} {part : K} {ds : List Datum} {fuel : Nat}
    {next : Continuation} {rest : List Char} (hfits : ∀ d ∈ ds, Fits schema (.one part) d)
    (hread : ∀ d ∈ ds, ReadsBack read (schema.write part d) d) (hfuel : ds.length ≤ fuel)
    (h : ElementsFrom Spells rest (ds.map (schema.write part)) next) :
    readElements read fuel next = .ok (ds, rest) := by
  induction ds generalizing fuel next with
  | nil =>
    cases h
    simp [readElements]
  | cons d ds ih =>
    obtain ⟨fuel, rfl⟩ := Nat.exists_eq_add_one.mpr (Nat.zero_lt_of_lt hfuel)
    cases h with
    | @next _ _ blank cs more hblank hv hvs =>
      have hown : read (blank ++ (cs ++ (more ++ rest))) = .ok (d, more ++ rest) :=
        hread d (List.mem_cons_self ..) blank cs _ hblank hv (hvs.delimits (.inl rfl) rest)
      have hlater : ∀ e ∈ ds, Fits schema (.one part) e := fun e he =>
        hfits e (List.mem_cons_of_mem d he)
      obtain ⟨next, hafter, hnext⟩ := afterElement_continued rest (beginsItem_of_mem_map hlater) hvs
      have hrest := ih hlater (fun e he => hread e (List.mem_cons_of_mem d he))
        (Nat.le_of_succ_le_succ hfuel) hnext
      simp [readElements, hown, hafter, hrest, lift_ok, bind, Except.bind]

theorem readMany_readsBack {read : Reader} {part : K} {ds : List Datum}
    (hfits : ∀ d ∈ ds, Fits schema (.one part) d)
    (hread : ∀ d ∈ ds, ReadsBack read (schema.write part d) d) :
    ReadsBack (readMany (some read)) (.array (ds.map (schema.write part))) (.list ds) := by
  intro blank cs rest hblank hcs _
  cases hcs with
  | @array _ cs hlisted =>
    have hbracket : isBlank '[' = false := by decide
    obtain ⟨next, hfirst, hnext⟩ := firstElement_listed rest (beginsItem_of_mem_map hfits) hlisted
    have hfuel := hlisted.length_le_append rest
    rw [List.length_map] at hfuel
    have helements := readElements_elementsFrom hfits hread hfuel hnext
    rw [readMany, skipBlank_append hblank, List.cons_append, skipBlank_cons hbracket]
    simp only [hfirst, helements, lift_ok, bind, Except.bind]

-- ---------------------------------------------------------------------------
-- Scalars
-- ---------------------------------------------------------------------------

theorem readText_eq_ok_iff {expected s : String} {cs rest : List Char} : readText expected cs = .ok (s, rest) ↔
    ∃ blank content, cs = blank ++ '"' :: (content ++ '"' :: rest) ∧ AllBlank blank
      ∧ Unescaped content s.toList := by
  constructor
  · intro h
    obtain ⟨blank, hblank, hcs⟩ := exists_blank cs
    unfold readText at h
    split at h
    · rename_i heq
      obtain ⟨content, rfl, hcontent⟩ := readString_eq_ok_iff.mp (lift_eq_ok_iff.mp h)
      exact ⟨blank, content, by rw [hcs, heq], hblank, hcontent⟩
    · cases h
  · rintro ⟨blank, content, rfl, hblank, hcontent⟩
    have hquote : isBlank '"' = false := by decide
    simp only [readText, skipBlank_append hblank, skipBlank_cons hquote, readString_of_unescaped hcontent, lift_ok]

theorem readText_quote {blank : List Char} (expected s : String) (hblank : AllBlank blank)
    (rest : List Char) : readText expected (blank ++ (quote s ++ rest)) = .ok (s, rest) :=
  readText_eq_ok_iff.mpr ⟨blank, _, by simp [quote], hblank, unescaped_escaped s.toList⟩

theorem readFlag_bool {blank : List Char} (b : Bool) (hblank : AllBlank blank) (rest : List Char) :
    readFlag (blank ++ ((if b then "true".toList else "false".toList) ++ rest)) = .ok (b, rest) := by
  rw [readFlag, skipBlank_append hblank]
  cases b <;> rfl

theorem readIndex_of_natural {blank digits rest : List Char} {n : Nat} (hblank : AllBlank blank)
    (h : Natural digits n) (hrest : Delimits rest) : readIndex (blank ++ (digits ++ rest)) = .ok (n, rest) := by
  have hread := readUnsignedNumber_of_natural h hrest
  obtain ⟨c, more, rfl, hc⟩ := h.unsignedNumber.exists_digit
  rw [List.cons_append] at hread ⊢
  simp only [readIndex, skipBlank_append hblank, skipBlank_cons (isBlank_of_isDigit hc)]
  split
  · rename_i heq
    cases heq
    cases hc
  · rename_i heq
    cases heq
    simp only [hc, if_true, hread, lift_ok, ok_bind, indexOf]
  · rename_i heq
    cases heq

-- ---------------------------------------------------------------------------
-- Members
-- ---------------------------------------------------------------------------

/-- What follows the opening quote of a member. -/
theorem exists_of_spellsMember {key : String} {v : Value} {cs : List Char}
    (h : SpellsMember (key, v) ('"' :: cs)) : ∃ before after piece,
      cs = key.toList.flatMap escapeChar ++ '"' :: (before ++ ':' :: (after ++ piece))
        ∧ AllBlank before ∧ AllBlank after ∧ Spells v piece := by
  generalize hcs : '"' :: cs = ds at h
  cases h with
  | @mk _ _ before after piece hbefore hafter hv =>
    exact ⟨before, after, piece, by simpa [quote] using hcs, hbefore, hafter, hv⟩

theorem quote_of_spellsMember {m : String × Value} {cs : List Char} (h : SpellsMember m cs) :
    ∃ more, cs = '"' :: more := by
  cases h
  exact ⟨_, by rw [quote, List.cons_append]⟩

theorem position?_append_cons {pre ms : List (Member K)} {m : Member K}
    (h : ((pre ++ m :: ms).map (·.name)).Nodup) :
    position? (pre ++ m :: ms) m.name = some pre.length := by
  have hpre : pre.findIdx? (·.name == m.name) = none := by
    rw [List.findIdx?_eq_none_iff]
    intro m' hm'
    rw [List.map_append, List.nodup_append] at h
    have hne := h.2.2 _ (List.mem_map_of_mem hm') m.name (by simp)
    simpa using hne
  simp [position?, List.findIdx?_append, hpre, List.findIdx?_cons]

/-- What is written for a member is read as what the member holds. -/
def MemberReadsBack (schema : Schema K) (below : Below K) (m : Member K) (d : Datum) : Prop :=
  m.omission.omits d = false → ReadsBack (readMember below m) (writeShape schema m.shape d) d

/-- Reading members, the ones before `ms` having been dealt with: those that were written fill their
    slots. -/
theorem readObject_membersFrom {below : Below K} {ms : List (Member K)} {ds : List Datum} {fuel : Nat}
    {next : Continuation} {rest : List Char} (pre : List (Member K)) (slots : List (Option Datum))
    (hread : List.Forall₂ (MemberReadsBack schema below) ms ds)
    (hnames : ((pre ++ ms).map (·.name)).Nodup) (hslots : slots.length = pre.length)
    (hfuel : (writeMembers schema ms ds).length ≤ fuel)
    (h : MembersFrom SpellsMember rest (writeMembers schema ms ds) next) :
    readObject below (pre ++ ms) fuel (slots ++ ms.map fun _ => none) next =
      .ok (slots ++ List.zipWith kept ms ds, rest) := by
  induction hread generalizing pre slots fuel next with
  | nil =>
    cases h
    simp [readObject]
  | @cons m d ms ds hown hlater ih =>
    -- The other members are read with one more slot settled.
    have hothers (slot : Option Datum) {fuel : Nat} {next : Continuation}
        (hfuel : (writeMembers schema ms ds).length ≤ fuel)
        (hnext : MembersFrom SpellsMember rest (writeMembers schema ms ds) next) :
        readObject below (pre ++ m :: ms) fuel (slots ++ slot :: ms.map fun _ => none) next =
          .ok (slots ++ slot :: List.zipWith kept ms ds, rest) := by
      simpa using ih (pre ++ [m]) (slots ++ [slot]) (by simpa using hnames) (by simp [hslots]) hfuel
        hnext
    rw [List.zipWith_cons_cons, List.map_cons]
    cases homits : m.omission.omits d with
    | true =>
      simp only [writeMembers, homits, if_true] at hfuel h
      rw [kept, if_pos homits]
      exact hothers none hfuel h
    | false =>
      simp only [writeMembers, homits, Bool.false_eq_true, if_false] at hfuel h
      obtain ⟨fuel, rfl⟩ := Nat.exists_eq_add_one.mpr (Nat.zero_lt_of_lt hfuel)
      cases h with
      | @next _ _ cs more hm hms =>
        obtain ⟨before, after, piece, rfl, hbefore, hafter, hv⟩ := exists_of_spellsMember hm
        have hkey := unescaped_escaped m.name.toList
        have hmember : readMember below m (after ++ (piece ++ (more ++ rest))) = .ok (d, more ++ rest) :=
          hown homits after piece _ hafter hv (hms.delimits (.inr rfl) rest)
        obtain ⟨next, hmore, hnext⟩ := afterMember_continued rest quote_of_spellsMember hms
        have hslot : (slots ++ none :: ms.map fun _ => none)[pre.length]? = some (none : Option Datum) := by
          simp [← hslots]
        have hset : (slots ++ none :: ms.map fun _ => none).set pre.length (some d) =
            slots ++ some d :: ms.map fun _ => none := by
          simp [← hslots]
        have hrest := hothers (some d) (Nat.le_of_succ_le_succ hfuel) hnext
        have hat : (pre ++ m :: ms)[pre.length]? = some m := by simp
        rw [kept, if_neg (by simp [homits])]
        simp only [readObject, List.append_assoc, List.cons_append, readString_of_unescaped hkey,
          position?_append_cons hnames, hslot, hat, hset, readColon_blank hbefore, hmember, hmore, hrest, lift_ok,
          bind, Except.bind]

-- ---------------------------------------------------------------------------
-- Parts
-- ---------------------------------------------------------------------------

/-- The readers below a part in whose text `depth` arrays and objects may still be opened. -/
def belowAt (schema : Schema K) (depth : Nat) : Below K :=
  ⟨readPart schema depth, match depth with
    | 0 => none
    | depth + 1 => some (readPart schema depth)⟩

/-- Contents that are nested at most `depth` deep are read back. -/
def ReadsParts (schema : Schema K) (depth : Nat) : Prop :=
  ∀ part d, Fits schema (.one part) d → (schema.write part d).depth ≤ depth →
    ReadsBack (readPart schema depth part) (schema.write part d) d

theorem readShape_readsBack {depth : Nat} {shape : Shape K} {d : Datum}
    (hparts : ∀ n ≤ depth, ReadsParts schema n) (h : Fits schema shape d)
    (hdepth : (writeShape schema shape d).depth ≤ depth) :
    ReadsBack (readShape (belowAt schema depth) shape) (writeShape schema shape d) d := by
  cases shape with
  | one part => exact hparts depth (Nat.le_refl _) part d h hdepth
  | text =>
    cases h with
    | text s =>
      intro blank cs rest hblank hcs _
      simp only [writeShape] at hcs
      cases hcs
      rw [readShape, readText_quote _ _ hblank]
      rfl
  | flag =>
    cases h with
    | flag b =>
      intro blank cs rest hblank hcs _
      simp only [writeShape] at hcs
      cases hcs
      rw [readShape, readFlag_bool _ hblank]
      rfl
  | index =>
    cases h with
    | index hn =>
      intro blank cs rest hblank hcs hrest
      simp only [writeShape] at hcs
      cases hcs
      rw [readShape, text_natural, readIndex_of_natural hblank (natural_toDigits hn) hrest]
      rfl
  | many part =>
    cases h with
    | @many _ ds hds =>
      simp only [writeShape, writeAll_eq_map, Value.depth] at hdepth ⊢
      obtain ⟨depth, rfl⟩ := Nat.exists_eq_add_one.mpr (Nat.zero_lt_of_lt hdepth)
      refine readMany_readsBack hds fun d hd => ?_
      have hown := Value.depth_le_of_mem (List.mem_map_of_mem (f := schema.write part) hd)
      exact hparts depth (Nat.le_succ _) part d (hds d hd) (hown.trans (Nat.le_of_succ_le_succ hdepth))

theorem readMember_readsBack {depth : Nat} {m : Member K} {d : Datum}
    (hparts : ∀ n ≤ depth, ReadsParts schema n) (h : FitsMember schema m d)
    (hdepth : (writeShape schema m.shape d).depth ≤ depth) :
    ReadsBack (readMember (belowAt schema depth) m) (writeShape schema m.shape d) d := by
  intro blank cs rest hblank hcs hrest
  cases h with
  | absent hnullable =>
    simp only [writeShape] at hcs
    cases hcs
    rw [readMember, hnullable, skipBlank_append hblank]
    rfl
  | present h =>
    have hread := readShape_readsBack hparts h hdepth blank cs rest hblank hcs hrest
    obtain ⟨c, more, rfl, hc, -, hnull⟩ := h.startsItem hcs
    rw [readMember]
    split
    · rename_i heq
      rw [skipBlank_append hblank, List.cons_append, skipBlank_cons hc] at heq
      cases heq
      exact absurd rfl hnull
    · exact hread

theorem membersReadBack {below : Below K} {ms : List (Member K)} {ds : List Datum} {depth : Nat}
    (hread : ∀ m d, FitsMember schema m d → (writeShape schema m.shape d).depth ≤ depth →
      ReadsBack (readMember below m) (writeShape schema m.shape d) d)
    (h : List.Forall₂ (FitsMember schema) ms ds)
    (hdepth : Value.depthOfMembers (writeMembers schema ms ds) ≤ depth) :
    List.Forall₂ (MemberReadsBack schema below) ms ds := by
  induction h with
  | nil => exact .nil
  | @cons m d ms ds hown hlater ih =>
    rw [writeMembers] at hdepth
    split at hdepth
    · rename_i homits
      exact .cons (fun hkept => by simp [homits] at hkept) (ih hdepth)
    · rw [Value.depthOfMembers, max_le_iff] at hdepth
      exact .cons (fun _ => hread m d hown hdepth.1) (ih hdepth.2)

theorem alternative?_of_getElem? {alternatives : List (String × K)} {position : Nat} {name : String}
    {part : K} (hnames : (alternativeNames alternatives).Nodup)
    (h : alternatives[position]? = some (name, part)) :
    alternative? alternatives name = .ok (position, part) := by
  have hfind : alternatives.findIdx? (·.1 == name) = some position := by
    obtain ⟨hlt, hat⟩ := List.getElem?_eq_some_iff.mp h
    refine List.findIdx?_eq_some_iff_getElem.mpr ⟨hlt, by simp [hat], fun i hi => ?_⟩
    have hpair := List.pairwise_iff_getElem.mp (List.pairwise_map.mp hnames) i position (hi.trans hlt)
      hlt hi
    simpa [hat] using hpair
  simp [alternative?, hfind, h]

theorem closeChoice_continued {cs : List Char} (rest : List Char)
    (h : Continued '}' SpellsMember [] cs) : closeChoice (cs ++ rest) = .ok rest := by
  cases h with
  | nil hblank =>
    rw [closeChoice, List.append_assoc, skipBlank_append hblank]
    rfl

theorem readPart_object {part : K} {typeName : String} {members : List (Member K)} {blank : List Char}
    {depth : Nat} (hpart : schema part = .record typeName members) (hblank : AllBlank blank)
    (cs : List Char) :
    readPart schema (depth + 1) part (blank ++ '\x7b' :: cs) = (do
      let (slots, rest) ← readObject (belowAt schema depth) members cs.length
        (members.map fun _ => none) (← lift (firstMember cs))
      .ok (.record (← settle members slots), rest)) := by
  have hbrace : isBlank '\x7b' = false := by decide
  simp only [readPart, hpart, skipBlank_append hblank, skipBlank_cons hbrace]
  rfl

theorem readPart_record {part : K} {typeName : String} {members : List (Member K)} {ds : List Datum}
    {depth : Nat} (hschema : schema.Lossless) (hparts : ∀ n ≤ depth, ReadsParts schema n)
    (hpart : schema part = .record typeName members)
    (h : List.Forall₂ (FitsMember schema) members ds)
    (hdepth : Value.depthOfMembers (writeMembers schema members ds) ≤ depth) :
    ReadsBack (readPart schema (depth + 1) part) (.object (writeMembers schema members ds))
      (.record ds) := by
  intro blank cs rest hblank hcs _
  cases hcs with
  | @object _ cs hlisted =>
    obtain ⟨next, hfirst, hnext⟩ := firstMember_listed rest quote_of_spellsMember hlisted
    have hread := membersReadBack (fun m d => readMember_readsBack hparts) h hdepth
    have hfuel := hlisted.length_le_append rest
    have hobject : readObject (belowAt schema depth) members (cs ++ rest).length
        (members.map fun _ => none) next = .ok (List.zipWith kept members ds, rest) :=
      readObject_membersFrom [] [] hread (hschema.nodup_members hpart) rfl hfuel hnext
    have hsettle := settle_kept h.length_eq (hschema.restores hpart)
    rw [List.cons_append, readPart_object hpart hblank]
    simp only [hfirst, hobject, hsettle, lift_ok, bind, Except.bind]

theorem readPart_choice {part inner : K} {alternatives : List (String × K)} {position : Nat}
    {name : String} {d : Datum} {depth : Nat} (hschema : schema.Lossless)
    (hparts : ReadsParts schema depth) (hpart : schema part = .choice alternatives)
    (hname : alternatives[position]? = some (name, inner)) (h : Fits schema (.one inner) d)
    (hdepth : (schema.write inner d).depth ≤ depth) :
    ReadsBack (readPart schema (depth + 1) part) (.object [(name, schema.write inner d)])
      (.choice position d) := by
  intro blank cs rest hblank hcs _
  have hbrace : isBlank '\x7b' = false := by decide
  have halternative := alternative?_of_getElem? (hschema.nodup_alternatives hpart) hname
  cases hcs with
  | object hlisted =>
    cases hlisted with
    | cons hfirst hm hmore =>
      cases hm with
      | @mk _ _ before after cs hbefore hafter hv =>
        have hinner := hparts inner d h hdepth after cs _ hafter hv (hmore.delimits (.inr rfl) rest)
        simp only [readPart, hpart, skipBlank_append hblank, List.cons_append, skipBlank_cons hbrace,
          List.append_assoc, readText_quote _ _ hfirst, halternative, readColon_blank hbefore, hinner,
          closeChoice_continued rest hmore, lift_ok, bind, Except.bind]

/-- Fitting contents of every part are read back, at every depth that is enough for them. -/
theorem readsParts (hschema : schema.Lossless) (depth : Nat) : ReadsParts schema depth := by
  -- The elements of a list stand two levels below the part that holds it.
  induction depth using Nat.strongRecOn with
  | ind depth ih =>
    intro part d h hdepth
    cases h with
    | record hpart hmembers =>
      rw [write_record _ hpart, Value.depth] at hdepth
      obtain ⟨depth, rfl⟩ := Nat.exists_eq_add_one.mpr (Nat.zero_lt_of_lt hdepth)
      rw [write_record _ hpart]
      exact readPart_record hschema (fun n hn => ih n (Nat.lt_succ_of_le hn)) hpart hmembers
        (Nat.le_of_succ_le_succ hdepth)
    | choice hpart hname hd =>
      rw [write_choice _ hpart hname, Value.depth, Value.depthOfMembers, Value.depthOfMembers,
        Nat.max_zero] at hdepth
      obtain ⟨depth, rfl⟩ := Nat.exists_eq_add_one.mpr (Nat.zero_lt_of_lt hdepth)
      rw [write_choice _ hpart hname]
      exact readPart_choice hschema (ih depth (Nat.lt_succ_self _)) hpart hname hd
        (Nat.le_of_succ_le_succ hdepth)

/-- A text that spells what is written for fitting contents holds these contents. -/
theorem read_of_spelledIn {part : K} {d : Datum} {text : String} (hschema : schema.Lossless)
    (h : Fits schema (.one part) d) (hdepth : (schema.write part d).depth ≤ maxDepth)
    (htext : SpelledIn (schema.write part d) text) : schema.read part text = .ok d := by
  obtain ⟨cs, blank, htext, hcs, hblank⟩ := htext
  have hdelimits := Delimits.blank_append hblank delimits_nil
  have hend := skipBlank_append hblank []
  rw [List.append_nil] at hdelimits hend
  have hread := readsParts hschema maxDepth part d h hdepth [] cs blank allBlank_nil hcs hdelimits
  rw [List.nil_append, ← htext] at hread
  simp only [read, hread, finish, hend, bind, Except.bind]
  rfl

/-- What is written for members is nested as deep as the deepest of them. -/
theorem depthOfMembers_writeMembers_le {ms : List (Member K)} {ds : List Datum} {n : Nat}
    (h : List.Forall₂ (fun m d => (writeShape schema m.shape d).depth ≤ n) ms ds) :
    Value.depthOfMembers (writeMembers schema ms ds) ≤ n := by
  induction h with
  | nil => exact Nat.zero_le _
  | @cons m d ms ds hown hlater ih =>
    rw [writeMembers]
    split
    · exact ih
    · exact Nat.max_le.mpr ⟨hown, ih⟩

theorem depth_record_le {part : K} {typeName : String} {members : List (Member K)} {ds : List Datum}
    {n : Nat} (hpart : schema part = .record typeName members)
    (h : List.Forall₂ (fun m d => (writeShape schema m.shape d).depth ≤ n) members ds) :
    (schema.write part (.record ds)).depth ≤ n + 1 := by
  rw [write_record _ hpart, Value.depth]
  exact Nat.succ_le_succ (depthOfMembers_writeMembers_le h)

theorem depth_choice_le {part inner : K} {alternatives : List (String × K)} {position : Nat}
    {name : String} {d : Datum} {n : Nat} (hpart : schema part = .choice alternatives)
    (hname : alternatives[position]? = some (name, inner)) (h : (schema.write inner d).depth ≤ n) :
    (schema.write part (.choice position d)).depth ≤ n + 1 := by
  rw [write_choice _ hpart hname, Value.depth, Value.depthOfMembers, Value.depthOfMembers, Nat.max_zero]
  exact Nat.succ_le_succ h

theorem depth_many_le {part : K} {ds : List Datum} {n : Nat}
    (h : ∀ d ∈ ds, (schema.write part d).depth ≤ n) :
    (writeShape schema (.many part) (.list ds)).depth ≤ n + 1 := by
  rw [writeShape, writeAll_eq_map, Value.depth]
  exact Nat.succ_le_succ (Value.depthOfElements_le_iff.mpr (List.forall_mem_map.mpr h))

-- ---------------------------------------------------------------------------
-- A schema inside a larger one
-- ---------------------------------------------------------------------------

section Inside

variable {K L : Type} {schema : Schema K} {larger : Schema L} {f : K → L}

mutual

/-- A schema inside a larger one writes what it writes alone. -/
theorem writeShape_map (h : ∀ part, larger (f part) = (schema part).map f) (shape : Shape K) (d : Datum) :
    writeShape larger (shape.map f) d = writeShape schema shape d := by
  cases d with
  | text s | flag b | index n | absent => cases shape <;> rfl
  | list ds =>
    cases shape with
    | many part =>
      rw [Shape.map, writeShape, writeShape, writeAll_map h part ds]
    | _ => rfl
  | record ds =>
    cases shape with
    | one part =>
      rw [Shape.map, writeShape, writeShape, h]
      cases hpart : schema part with
      | record typeName members => exact congrArg Value.object (writeMembers_map h members ds)
      | choice alternatives => rfl
    | _ => rfl
  | choice position d =>
    cases shape with
    | one part =>
      rw [Shape.map, writeShape, writeShape, h]
      cases hpart : schema part with
      | record typeName members => rfl
      | choice alternatives =>
        simp only [Part.map, List.getElem?_map]
        cases alternatives[position]? with
        | none => rfl
        | some a => exact congrArg (fun v => Value.object [(a.1, v)]) (writeShape_map h (.one a.2) d)
    | _ => rfl

theorem writeAll_map (h : ∀ part, larger (f part) = (schema part).map f) (part : K) (ds : List Datum) :
    writeAll larger (f part) ds = writeAll schema part ds := by
  cases ds with
  | nil => rfl
  | cons d ds =>
    have hown := writeShape_map h (.one part) d
    rw [Shape.map] at hown
    rw [writeAll, writeAll, hown, writeAll_map h part ds]

theorem writeMembers_map (h : ∀ part, larger (f part) = (schema part).map f) (ms : List (Member K))
    (ds : List Datum) : writeMembers larger (ms.map (Member.map f)) ds = writeMembers schema ms ds := by
  cases ds with
  | nil => cases ms <;> rfl
  | cons d ds =>
    cases ms with
    | nil => rfl
    | cons m ms =>
      rw [List.map_cons, writeMembers, writeMembers, writeMembers_map h ms ds, Member.map,
        writeShape_map h m.shape d]

end

theorem write_map (h : ∀ part, larger (f part) = (schema part).map f) (part : K) (d : Datum) :
    larger.write (f part) d = schema.write part d := writeShape_map h (.one part) d

mutual

/-- Contents that fit a schema fit it inside a larger one. -/
theorem Fits.map (h : ∀ part, larger (f part) = (schema part).map f) {shape : Shape K} {d : Datum}
    (hd : Fits schema shape d) : Fits larger (shape.map f) d := by
  cases d with
  | text s =>
    cases hd
    exact .text s
  | flag b =>
    cases hd
    exact .flag b
  | index n =>
    cases hd with
    | index hn => exact .index hn
  | absent => cases hd
  | list ds =>
    cases hd with
    | many hds => exact .many (fits_map_all h ds hds)
  | record ds =>
    cases hd with
    | record hpart hms =>
      rename_i part typeName members
      exact .record ((h part).trans (congrArg (Part.map f) hpart)) (fitsMembers_map h members ds hms)
  | choice position d =>
    cases hd with
    | choice hpart hname hd =>
      rename_i part inner alternatives name
      have hname' : (alternatives.map fun a => (a.1, f a.2))[position]? = some (name, f inner) := by
        rw [List.getElem?_map, hname]
        rfl
      exact .choice ((h part).trans (congrArg (Part.map f) hpart)) hname' (Fits.map h hd)

theorem fits_map_all (h : ∀ part, larger (f part) = (schema part).map f) {part : K} (ds : List Datum)
    (hds : ∀ d ∈ ds, Fits schema (.one part) d) : ∀ d ∈ ds, Fits larger (.one (f part)) d := by
  cases ds with
  | nil => exact List.forall_mem_nil _
  | cons d ds =>
    rw [List.forall_mem_cons] at hds ⊢
    exact ⟨Fits.map h hds.1, fits_map_all h ds hds.2⟩

theorem fitsMembers_map (h : ∀ part, larger (f part) = (schema part).map f) (ms : List (Member K))
    (ds : List Datum) (hms : List.Forall₂ (FitsMember schema) ms ds) :
    List.Forall₂ (FitsMember larger) (ms.map (Member.map f)) ds := by
  cases ds with
  | nil =>
    cases hms
    exact .nil
  | cons d ds =>
    cases hms with
    | cons hm hms =>
      rename_i m ms
      refine .cons ?_ (fitsMembers_map h ms ds hms)
      cases hm with
      | absent hnull => exact .absent hnull
      | present hd => exact .present (Fits.map h hd)

end

end Inside

end DocMark.Json.Schema
