-- SUMMARY: Which layer each setting comes from: the last override, else the last file, else the default.
import Mathlib
import DocMark.Config.Loader
import DocMark.Proofs.Config.Merging
import DocMark.Proofs.Results
import DocMark.Proofs.Toml.Keys

/-!
# Layers of settings

A configuration holds a scalar for each of the five settings. Setting one of them by hand or putting a file over
the configuration changes the settings that are named and no others. So each setting has a layer of
its own from which it comes, and files and overrides do not depend on each other's order.
-/
namespace DocMark.Config

open Files (Store)

-- ---------------------------------------------------------------------------
-- Settings by their keys
-- ---------------------------------------------------------------------------

/-- The settings that layers may give. -/
inductive Key where
  | bulletPreset
  | numberedPreset
  | defaultTitle
  | policy
  | delayMs
deriving DecidableEq, Repr

instance : Fintype Key where
  elems := {.bulletPreset, .numberedPreset, .defaultTitle, .policy, .delayMs}
  complete k := by cases k <;> decide

namespace Key

/-- The section of the setting. -/
def table : Key → String
  | .bulletPreset => "convert"
  | .numberedPreset => "convert"
  | .defaultTitle => "convert"
  | .policy => "submit"
  | .delayMs => "submit"

/-- The name of the setting in its section. -/
def entry : Key → String
  | .bulletPreset => "bullet_preset"
  | .numberedPreset => "numbered_preset"
  | .defaultTitle => "default_title"
  | .policy => "policy"
  | .delayMs => "delay_ms"

/-- The setting's name as a path. -/
def path (k : Key) : String := k.table ++ "." ++ k.entry

def parsedPath (k : Key) : Path := ⟨k.table, [.child k.entry]⟩

theorem parse_path (k : Key) : Path.parse k.path = .ok k.parsedPath := by
  cases k <;> decide +kernel

theorem lowerKey_table (k : Key) : lowerKey k.table = k.table := by
  cases k <;> decide +kernel

theorem lowerKey_entry (k : Key) : lowerKey k.entry = k.entry := by
  cases k <;> decide +kernel

theorem parse_table (k : Key) : Path.parse k.table = .ok ⟨k.table, []⟩ := by
  cases k <;> decide +kernel

theorem entry_injective : Function.Injective entry := by
  intro k l h
  cases k <;> cases l <;> first | rfl | exact absurd h (by decide)

theorem parsedPath_inj {k l : Key} : k.parsedPath = l.parsedPath ↔ k = l := by
  cases k <;> cases l <;> decide

end Key

/-- What a setting may be. -/
inductive Content where
  | text (s : String)
  | policy (p : PolicyKind)
  | delay (ms : Nat)
deriving DecidableEq, Repr

/-- What a scalar gives for a setting, if it has the right type for that. -/
def Key.content? (k : Key) (s : Scalar) : Option Content :=
  match k, s with
  | .policy, .string name => (policyNamed name).toOption.map .policy
  | .policy, _ => none
  | .delayMs, .integer n => if 0 ≤ n ∧ n ≤ maxDelay then some (.delay n.toNat) else none
  | .delayMs, _ => none
  | _, .string text => some (.text text)
  | _, _ => none

def Settings.content (s : Settings) : Key → Content
  | .bulletPreset => .text s.convert.bulletPreset
  | .numberedPreset => .text s.convert.numberedPreset
  | .defaultTitle => .text s.convert.defaultTitle
  | .policy => .policy s.submit.policy
  | .delayMs => .delay s.submit.delayMs

/-- What the program has for a setting that no layer gives. -/
def Key.default : Key → Content
  | .bulletPreset => .text "BULLET_DISC_CIRCLE_SQUARE"
  | .numberedPreset => .text "NUMBERED_DECIMAL_ALPHA_ROMAN"
  | .defaultTitle => .text "Untitled"
  | .policy => .policy .atomic
  | .delayMs => .delay 0

-- ---------------------------------------------------------------------------
-- What a configuration holds
-- ---------------------------------------------------------------------------

/-- A configuration with a scalar of the right type for every setting. -/
structure Holds (root : Value) (contents : Key → Content) : Prop where
  tables : ∀ k : Key, ∃ origin entries, root.get? k.table = some (.table origin entries)
  scalars : ∀ k : Key, ∃ origin s, root.under? k.table k.entry = some (.scalar origin s)
    ∧ k.content? s = some (contents k)

theorem holds_defaults : Holds defaults Key.default where
  tables k := by cases k <;> exact ⟨_, _, rfl⟩
  scalars k := by cases k <;> exact ⟨_, _, rfl, rfl⟩

theorem memberOf?_eq {α : Type} {form : SectionForm} {origin : Option String} {entries : Entries}
    {place : Nat} {name : String} {v : Value} {read : String → Value → Except Error α} {a : α}
    (hname : form.members[place]? = some name) (hv : entries.lookup name = some v)
    (hread : ∀ key, read key v = .ok a) :
    memberOf? form (.table origin entries) place read = .ok (some a) := by
  simp [memberOf?, hname, hv, hread]

theorem sectionOf_eq {form : SectionForm} {root content : Value}
    (h : root.get? form.key = some content) : sectionOf form root = .ok content := by
  rw [sectionOf, h]

theorem exists_text {k : Key} {s : Scalar} {c : Content} (hk : k.table = "convert")
    (h : k.content? s = some c) : ∃ text, s = .string text ∧ c = .text text := by
  cases k with
  | policy => exact absurd hk (by decide)
  | delayMs => exact absurd hk (by decide)
  | _ =>
    cases s <;> cases h
    exact ⟨_, rfl, rfl⟩

theorem exists_policy {s : Scalar} {c : Content} (h : Key.policy.content? s = some c) :
    ∃ name p, s = .string name ∧ policyNamed name = .ok p ∧ c = .policy p := by
  cases s with
  | string name =>
    cases hp : policyNamed name with
    | ok p =>
      simp only [Key.content?, hp] at h
      exact ⟨name, p, rfl, hp, (Option.some.inj h).symm⟩
    | error e =>
      simp only [Key.content?, hp] at h
      cases h
  | _ => cases h

theorem exists_delay {s : Scalar} {c : Content} (h : Key.delayMs.content? s = some c) :
    ∃ n : Int, s = .integer n ∧ 0 ≤ n ∧ c = .delay n.toNat := by
  cases s with
  | integer n =>
    simp only [Key.content?] at h
    split_ifs at h with hn
    exact ⟨n, rfl, hn.1, (Option.some.inj h).symm⟩
  | _ => cases h

namespace Holds

variable {root : Value} {contents : Key → Content}

section Sections

variable {origin : Option String} {entries : Entries}

theorem lookup_eq (h : Holds root contents) (k : Key)
    (htable : root.get? k.table = some (.table origin entries)) :
    ∃ origin s, entries.lookup k.entry = some (.scalar origin s) ∧ k.content? s = some (contents k) := by
  obtain ⟨origin, s, hs, hcontent⟩ := h.scalars k
  rw [Value.under?, htable] at hs
  exact ⟨origin, s, hs, hcontent⟩

theorem textOf_eq (h : Holds root contents) (k : Key) (hk : k.table = "convert")
    (htable : root.get? k.table = some (.table origin entries)) :
    ∃ v text, entries.lookup k.entry = some v ∧ (∀ key, textOf key v = .ok text)
      ∧ contents k = .text text := by
  obtain ⟨_, s, hlookup, hcontent⟩ := h.lookup_eq k htable
  obtain ⟨text, rfl, htext⟩ := exists_text hk hcontent
  exact ⟨_, text, hlookup, fun _ => rfl, htext⟩

theorem convertOf_eq (h : Holds root contents)
    (htable : root.get? "convert" = some (.table origin entries)) :
    ∃ convert, convertOf (.table origin entries) = .ok convert
      ∧ contents .bulletPreset = .text convert.bulletPreset
      ∧ contents .numberedPreset = .text convert.numberedPreset
      ∧ contents .defaultTitle = .text convert.defaultTitle := by
  obtain ⟨_, bullet, hb, hbRead, hbullet⟩ := h.textOf_eq .bulletPreset rfl htable
  obtain ⟨_, numbered, hn, hnRead, hnumbered⟩ := h.textOf_eq .numberedPreset rfl htable
  obtain ⟨_, title, ht, htRead, htitle⟩ := h.textOf_eq .defaultTitle rfl htable
  refine ⟨⟨bullet, numbered, title⟩, ?_, hbullet, hnumbered, htitle⟩
  rw [convertOf, memberOf?_eq rfl hb hbRead, memberOf?_eq rfl hn hnRead, memberOf?_eq rfl ht htRead]
  rfl

theorem submitOf_eq (h : Holds root contents)
    (htable : root.get? "submit" = some (.table origin entries)) :
    ∃ submit, submitOf (.table origin entries) = .ok submit
      ∧ contents .policy = .policy submit.policy ∧ contents .delayMs = .delay submit.delayMs := by
  obtain ⟨_, _, hp, hcontent⟩ := h.lookup_eq .policy htable
  obtain ⟨name, p, rfl, hpRead, hpolicy⟩ := exists_policy hcontent
  obtain ⟨o, _, hd, hcontent⟩ := h.lookup_eq .delayMs htable
  obtain ⟨n, rfl, hn, hdelay⟩ := exists_delay hcontent
  have hdRead (key : String) : numberOf key (.scalar o (.integer n)) = .ok n.toNat := if_pos hn
  refine ⟨⟨p, n.toNat⟩, ?_, hpolicy, hdelay⟩
  rw [submitOf, memberOf?_eq rfl hp fun _ => hpRead, memberOf?_eq rfl hd hdRead]
  rfl

end Sections

/-- The settings are read from a configuration that holds them. -/
theorem settingsOf_eq (h : Holds root contents) :
    ∃ settings, settingsOf root = .ok settings ∧ ∀ k, settings.content k = contents k := by
  obtain ⟨_, _, hconvertTable⟩ := h.tables .bulletPreset
  obtain ⟨_, _, hsubmitTable⟩ := h.tables .policy
  obtain ⟨convert, hconvert, hbullet, hnumbered, htitle⟩ := h.convertOf_eq hconvertTable
  obtain ⟨submit, hsubmit, hpolicy, hdelay⟩ := h.submitOf_eq hsubmitTable
  refine ⟨⟨convert, submit⟩, ?_, fun k => ?_⟩
  · have hconvertSection : sectionOf convertForm root = .ok _ := sectionOf_eq hconvertTable
    have hsubmitSection : sectionOf submitForm root = .ok _ := sectionOf_eq hsubmitTable
    simp [settingsOf, hconvertSection, hsubmitSection, hconvert, hsubmit]
  · cases k with
    | bulletPreset => exact hbullet.symm
    | numberedPreset => exact hnumbered.symm
    | defaultTitle => exact htitle.symm
    | policy => exact hpolicy.symm
    | delayMs => exact hdelay.symm

/-- A change of one section keeps the settings of the others. -/
theorem mapEntry {contents' : Key → Content} {table : String} {f : Option Value → Value}
    (h : Holds root contents) (hothers : ∀ k : Key, k.table ≠ table → contents' k = contents k)
    (hchanged : ∀ k : Key, k.table = table → ∀ origin entries,
      root.get? table = some (.table origin entries) → (f (root.get? table)).IsTable
        ∧ ∃ origin s, (f (root.get? table)).get? k.entry = some (.scalar origin s)
          ∧ k.content? s = some (contents' k)) :
    Holds (root.mapEntry table f) contents' where
  tables k := by
    obtain ⟨origin, entries, htable⟩ := h.tables k
    rw [Value.get?_mapEntry]
    split_ifs with hk
    · obtain ⟨⟨origin, entries, heq⟩, -⟩ := hchanged k hk origin entries (hk ▸ htable)
      exact ⟨origin, entries, congrArg some heq⟩
    · exact ⟨origin, entries, htable⟩
  scalars k := by
    obtain ⟨origin, entries, htable⟩ := h.tables k
    rw [Value.under?, Value.get?_mapEntry]
    split_ifs with hk
    · exact (hchanged k hk origin entries (hk ▸ htable)).2
    · rw [hothers k hk]
      exact h.scalars k

/-- Setting one of the values by hand changes that setting alone. -/
theorem set (h : Holds root contents) {k : Key} {s : Scalar} {c : Content}
    (hc : k.content? s = some c) :
    Holds (k.parsedPath.set (.scalar none s) root) (Function.update contents k c) := by
  have hset : k.parsedPath.set (.scalar none s) root =
      root.mapEntry k.table fun there => (there.getD .empty).mapEntry k.entry fun _ => .scalar none s := by
    simp only [Path.set, Key.parsedPath, Path.setAt, k.lowerKey_table, k.lowerKey_entry,
      Value.overlay_scalar]
  rw [hset]
  refine h.mapEntry (fun l hl => Function.update_of_ne (mt (congrArg Key.table) hl) ..) ?_
  intro l hl origin entries htable
  refine ⟨Value.isTable_mapEntry .., ?_⟩
  rw [htable, Option.getD_some, Value.get?_mapEntry]
  split_ifs with hentry
  · obtain rfl := Key.entry_injective hentry
    exact ⟨none, s, rfl, by rw [Function.update_self, hc]⟩
  · rw [Function.update_of_ne (mt (congrArg Key.entry) hentry)]
    exact h.lookup_eq l (hl ▸ htable)

end Holds

-- ---------------------------------------------------------------------------
-- Files
-- ---------------------------------------------------------------------------

def scalarOf? : Toml.Value → Option Scalar
  | .string s => some (.string s)
  | .integer n => some (.integer n)
  | _ => none

/-- What a TOML value gives for a setting, if it has the right type for that. -/
def Key.assigned? (k : Key) (v : Toml.Value) : Option Content := (scalarOf? v).bind k.content?

/-- What a TOML table gives for a setting. -/
def assigned? (entries : Toml.Entries) (k : Key) : Option Content :=
  match entries.lookup k.table with
  | some (.table inner) => (inner.lookup k.entry).bind k.assigned?
  | _ => none

/-- A section with settings of the right types and nothing else. -/
def AssignsSection (table : String) : Toml.Value → Prop
  | .table inner => ∀ e ∈ inner, ∃ k : Key, k.table = table ∧ k.entry = e.1 ∧ (k.assigned? e.2).isSome
  | _ => False

instance (table : String) : (v : Toml.Value) → Decidable (AssignsSection table v)
  | .table inner => inferInstanceAs (Decidable (∀ e ∈ inner, ∃ k : Key, k.table = table
      ∧ k.entry = e.1 ∧ (k.assigned? e.2).isSome))
  | .string _ | .integer _ | .float _ | .boolean _ | .dateTime _ | .array _ => .isFalse id

/-- A TOML table with settings of the right types and nothing else. -/
def AssignsKeys (entries : Toml.Entries) : Prop :=
  ∀ e ∈ entries, (∃ k : Key, k.table = e.1) ∧ AssignsSection e.1 e.2

instance (entries : Toml.Entries) : Decidable (AssignsKeys entries) :=
  inferInstanceAs (Decidable (∀ e ∈ entries, (∃ k : Key, k.table = e.1) ∧ AssignsSection e.1 e.2))

theorem ofToml_of_scalarOf? {v : Toml.Value} {s : Scalar} (origin : Option String)
    (h : scalarOf? v = some s) : Value.ofToml origin v = .scalar origin s := by
  cases v <;> cases h <;> simp [Value.ofToml]

theorem ofTomlEntries_eq_map (origin : Option String) (inner : Toml.Entries) :
    Value.ofTomlEntries origin inner = inner.map fun e => (lowerKey e.1, Value.ofToml origin e.2) := by
  induction inner with
  | nil => rw [Value.ofTomlEntries, List.map_nil]
  | cons e inner ih => rw [Value.ofTomlEntries, ih, List.map_cons]

theorem lookup_ofTomlEntries {origin : Option String} {inner : Toml.Entries} (key : String)
    (h : ∀ e ∈ inner, lowerKey e.1 = e.1) :
    (Value.ofTomlEntries origin inner).lookup key = (inner.lookup key).map (Value.ofToml origin) := by
  induction inner with
  | nil => simp [Value.ofTomlEntries]
  | cons e inner ih =>
    rw [List.forall_mem_cons] at h
    rw [Value.ofTomlEntries, h.1, lookup_cons, lookup_cons, ih h.2]
    split_ifs <;> rfl

theorem Key.exists_scalar {k : Key} {v : Toml.Value} {c : Content} (h : k.assigned? v = some c)
    (origin : Option String) : ∃ s, Value.ofToml origin v = .scalar origin s ∧ k.content? s = some c := by
  obtain ⟨s, hs, hc⟩ := Option.bind_eq_some_iff.mp h
  exact ⟨s, ofToml_of_scalarOf? origin hs, hc⟩

namespace AssignsSection

variable {table : String} {inner : Toml.Entries}

theorem lower (h : AssignsSection table (.table inner)) : ∀ e ∈ inner, lowerKey e.1 = e.1 := by
  intro e he
  obtain ⟨k, -, hk, -⟩ := h e he
  rw [← hk]
  exact k.lowerKey_entry

theorem plain (h : AssignsSection table (.table inner)) (hkeys : (inner.map (·.1)).Nodup)
    (origin : Option String) : Value.Plain (Value.ofTomlEntries origin inner) := by
  rw [ofTomlEntries_eq_map]
  refine ⟨?_, List.forall_mem_map.mpr fun e he => ?_, List.forall_mem_map.mpr fun e he => ?_⟩
  · rw [List.map_map, List.map_congr_left (g := fun e => e.1) h.lower]
    exact hkeys
  · rw [h.lower e he, h.lower e he]
  · obtain ⟨k, -, -, hk⟩ := h e he
    obtain ⟨c, hc⟩ := Option.isSome_iff_exists.mp hk
    obtain ⟨s, hs, -⟩ := Key.exists_scalar hc origin
    exact ⟨origin, s, hs⟩

theorem assigned?_of_lookup (h : AssignsSection table (.table inner)) {k : Key}
    {v : Toml.Value} (hv : inner.lookup k.entry = some v) : ∃ c, k.assigned? v = some c := by
  obtain ⟨l, hl, hentry, hassigned⟩ := h _ (mem_of_lookup hv)
  obtain rfl := Key.entry_injective hentry.symm
  exact Option.isSome_iff_exists.mp hassigned

/-- A section put over a configuration changes the settings that it has. -/
theorem overlay {root : Value} {contents : Key → Content} (h : AssignsSection table (.table inner))
    (hkeys : (inner.map (·.1)).Nodup) (hroot : Holds root contents) (origin : Option String) :
    Holds (root.mapEntry table (Value.ofToml origin (.table inner)).overlay) fun k =>
      if k.table = table then ((inner.lookup k.entry).bind k.assigned?).getD (contents k)
      else contents k := by
  refine hroot.mapEntry (fun k hk => if_neg hk) fun k hk there entries htable => ?_
  rw [htable, Value.ofToml, Value.overlay_table, Option.getD_some, if_pos hk]
  refine ⟨Value.isTable_overlayAll ⟨_, _, rfl⟩, ?_⟩
  rw [Value.get?_overlayAll (h.plain hkeys origin), lookup_ofTomlEntries _ h.lower]
  cases hv : inner.lookup k.entry with
  | none => exact hroot.lookup_eq k (hk ▸ htable)
  | some v =>
    obtain ⟨c, hc⟩ := h.assigned?_of_lookup hv
    obtain ⟨s, hs, hcontent⟩ := Key.exists_scalar hc origin
    refine ⟨origin, s, congrArg some hs, ?_⟩
    rw [hcontent, Option.bind_some, hc, Option.getD_some]

end AssignsSection

theorem assigned?_cons {table : String} {inner : Toml.Entries} {entries : Toml.Entries}
    (hfresh : table ∉ entries.map (·.1)) (k : Key) (c : Content) :
    (assigned? ((table, .table inner) :: entries) k).getD c =
      (assigned? entries k).getD
        (if k.table = table then ((inner.lookup k.entry).bind k.assigned?).getD c else c) := by
  by_cases hk : k.table = table
  · have hnone : assigned? entries k = none := by rw [assigned?, hk, lookup_eq_none hfresh]
    rw [hnone, if_pos hk, Option.getD_none, assigned?, lookup_cons, if_pos hk]
  · rw [assigned?, lookup_cons, if_neg hk, if_neg hk, assigned?]

theorem AssignsSection.exists_table {table : String} {v : Toml.Value} (h : AssignsSection table v) :
    ∃ inner, v = .table inner := by
  cases v with
  | table inner => exact ⟨inner, rfl⟩
  | _ => exact h.elim

/-- A file put over a configuration changes the settings that it gives. -/
theorem Holds.overTop {root : Value} {contents : Key → Content} {entries : Toml.Entries}
    (hroot : Holds root contents) (h : AssignsKeys entries)
    (hdistinct : (Toml.Value.table entries).Distinct) (origin : Option String) :
    Holds (overTop root origin entries) fun k => (assigned? entries k).getD (contents k) := by
  induction entries generalizing root contents with
  | nil => exact hroot
  | cons e entries ih =>
    obtain ⟨table, v⟩ := e
    obtain ⟨⟨⟨k, hk⟩, hsection⟩, hsections⟩ := List.forall_mem_cons.mp h
    obtain ⟨inner, rfl⟩ := hsection.exists_table
    obtain ⟨hkeys, hall⟩ := hdistinct.of_table
    obtain ⟨hfresh, hnodup⟩ := List.nodup_cons.mp hkeys
    rw [List.forall_mem_cons] at hall
    -- The key of the section is a path of one name, so the section is put over what is there.
    have hstep : Config.overTop root origin ((table, .table inner) :: entries) =
        Config.overTop (root.mapEntry table (Value.ofToml origin (.table inner)).overlay) origin
          entries := by
      obtain rfl : k.table = table := hk
      simp only [Config.overTop, List.foldl_cons, k.parse_table, Path.set, k.lowerKey_table]
      rfl
    rw [hstep, funext fun l => assigned?_cons hfresh l (contents l)]
    exact ih (hsection.overlay hall.1.of_table.1 hroot origin) hsections (.table hnodup hall.2)

end DocMark.Config
