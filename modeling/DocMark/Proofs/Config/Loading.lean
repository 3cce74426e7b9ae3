-- SUMMARY: Which call on a loader each setting comes from: the last override, else the last file, else the default.
import Mathlib
import DocMark.Proofs.Config.Layering

/-!
# Loading

A loader is made by calls that name files and override settings. It keeps the files in order, and for every
setting the last value by which it was overridden. Files are put over the defaults before any override, so it does
not matter how the two kinds of calls are mixed.
-/
namespace DocMark.Config

open Files (Store)

-- ---------------------------------------------------------------------------
-- Files
-- ---------------------------------------------------------------------------

namespace FileLayer

variable (store : Store) (layer : FileLayer)

/-- The TOML table in the file of a layer. -/
def table? : Option Toml.Entries :=
  (findFile? store layer.name).bind fun name =>
    (store.readText name).toOption.bind Toml.parse?

/-- What the file of a layer gives for a setting. -/
def gives? (k : Key) : Option Content := (layer.table? store).bind (assigned? · k)

/-- The file has settings of the right types and nothing else, or it is absent and need not be there. -/
def Suits : Prop :=
  (∃ entries ∈ layer.table? store, AssignsKeys entries)
    ∨ layer.isRequired = false ∧ findFile? store layer.name = none

instance : Decidable (layer.Suits store) :=
  inferInstanceAs (Decidable ((∃ entries ∈ layer.table? store, AssignsKeys entries)
    ∨ layer.isRequired = false ∧ findFile? store layer.name = none))

end FileLayer

/-- What the last of the files that give a setting gives for it. -/
def lastGiven? (store : Store) (layers : List FileLayer) (k : Key) : Option Content :=
  layers.reverse.findSome? (·.gives? store k)

variable {store : Store}

theorem lastGiven?_append (layers : List FileLayer) (layer : FileLayer) (k : Key) :
    lastGiven? store (layers ++ [layer]) k = (layer.gives? store k).or (lastGiven? store layers k) := by
  rw [lastGiven?, List.reverse_append, List.reverse_singleton, List.singleton_append, List.findSome?_cons]
  cases layer.gives? store k <;> rfl

/-- A file put over a configuration changes the settings that it gives. -/
theorem Holds.overFile {root : Value} {contents : Key → Content} {layer : FileLayer}
    (hroot : Holds root contents) (h : layer.Suits store) :
    ∃ root', overFile store root layer = .ok root'
      ∧ Holds root' fun k => (layer.gives? store k).getD (contents k) := by
  obtain ⟨entries, htable, hassigns⟩ | ⟨hoptional, habsent⟩ := h
  · have hgives (k : Key) : layer.gives? store k = assigned? entries k := by
      rw [FileLayer.gives?, htable, Option.bind_some]
    obtain ⟨name, hname, hentries⟩ := Option.bind_eq_some_iff.mp htable
    obtain ⟨text, htext, hparse⟩ := Option.bind_eq_some_iff.mp hentries
    refine ⟨Config.overTop root (some name) entries, ?_, ?_⟩
    · cases hread : store.readText name with
      | error fault => rw [hread] at htext; cases htext
      | ok text' =>
        rw [hread] at htext
        cases htext
        simp [Config.overFile, hname, hread, overText, hparse]
    · simp only [hgives]
      exact hroot.overTop hassigns (Toml.distinct_of_parse? hparse) (some name)
  · refine ⟨root, ?_, ?_⟩
    · simp [Config.overFile, habsent, hoptional]
    · simpa [FileLayer.gives?, FileLayer.table?, habsent] using hroot

theorem Holds.overFiles {root : Value} {contents : Key → Content} {layers : List FileLayer}
    (hroot : Holds root contents) (h : ∀ layer ∈ layers, layer.Suits store) :
    ∃ root', layers.foldlM (Config.overFile store) root = .ok root'
      ∧ Holds root' fun k => (lastGiven? store layers k).getD (contents k) := by
  induction layers using List.reverseRecOn with
  | nil => exact ⟨root, rfl, hroot⟩
  | append_singleton layers layer ih =>
    obtain ⟨root', hfold, hroot'⟩ := ih fun l hl => h l (List.mem_append_left _ hl)
    obtain ⟨root'', hlast, hroot''⟩ := hroot'.overFile (h layer (by simp))
    refine ⟨root'', ?_, ?_⟩
    · rw [List.foldlM_append, hfold, Results.ok_bind, List.foldlM_cons, hlast]
      rfl
    · convert hroot'' using 2 with k
      rw [lastGiven?_append]
      cases layer.gives? store k <;> rfl

-- ---------------------------------------------------------------------------
-- Overrides
-- ---------------------------------------------------------------------------

/-- The settings that are overridden, with their values. -/
abbrev Overrides := List (Key × Scalar)

/-- What the last override of a setting gives for it. -/
def lastOverride? (overrides : Overrides) (k : Key) : Option Content :=
  (overrides.reverse.lookup k).bind k.content?

/-- Overrides a setting; only the last value of it counts. -/
def Overrides.set (overrides : Overrides) (o : Key × Scalar) : Overrides :=
  overrides.filter (fun earlier => earlier.1 ≠ o.1) ++ [o]

theorem lastOverride?_append (overrides : Overrides) (k l : Key) (s : Scalar) :
    lastOverride? (overrides ++ [(k, s)]) l =
      if l = k then l.content? s else lastOverride? overrides l := by
  rw [lastOverride?, List.reverse_append, List.reverse_singleton, List.singleton_append, lookup_cons]
  split_ifs <;> rfl

theorem lookup_filter_ne {k l : Key} (hk : l ≠ k) (overrides : Overrides) :
    (overrides.filter fun o => o.1 ≠ k).lookup l = overrides.lookup l := by
  induction overrides with
  | nil => rfl
  | cons o overrides ih =>
    obtain ⟨k', s⟩ := o
    by_cases hkept : k' = k
    · rw [List.filter_cons_of_neg (by simp [hkept]), ih, lookup_cons, if_neg (hkept ▸ hk)]
    · rw [List.filter_cons_of_pos (by simp [hkept]), lookup_cons, lookup_cons, ih]

theorem lastOverride?_set (overrides : Overrides) (k l : Key) (s : Scalar) :
    lastOverride? (overrides.set (k, s)) l = lastOverride? (overrides ++ [(k, s)]) l := by
  rw [Overrides.set, lastOverride?_append, lastOverride?_append]
  split_ifs with hl
  · rfl
  · rw [lastOverride?, ← List.filter_reverse, lookup_filter_ne hl, lastOverride?]

/-- Overrides without those that a later one goes over. -/
def Overrides.kept (overrides : Overrides) : Overrides := overrides.foldl set []

theorem kept_append (overrides : Overrides) (o : Key × Scalar) :
    Overrides.kept (overrides ++ [o]) = overrides.kept.set o := by
  rw [Overrides.kept, List.foldl_append]
  rfl

theorem lastOverride?_kept (overrides : Overrides) (k : Key) :
    lastOverride? overrides.kept k = lastOverride? overrides k := by
  induction overrides using List.reverseRecOn with
  | nil => rfl
  | append_singleton overrides o ih =>
    rw [kept_append, lastOverride?_set, lastOverride?_append, lastOverride?_append, ih]

theorem mem_of_mem_kept {overrides : Overrides} {o : Key × Scalar} (h : o ∈ overrides.kept) :
    o ∈ overrides := by
  induction overrides using List.reverseRecOn with
  | nil => exact h
  | append_singleton overrides last ih =>
    rw [kept_append, Overrides.set, List.mem_append] at h
    exact List.mem_append.mpr (h.imp_left fun hkept => ih (List.mem_of_mem_filter hkept))

def Overrides.paths (overrides : Overrides) : List (Path × Scalar) :=
  overrides.map fun o => (o.1.parsedPath, o.2)

/-- Sets values by hand, in order. -/
def Overrides.over (overrides : Overrides) (root : Value) : Value :=
  overrides.foldl (fun root o => o.1.parsedPath.set (.scalar none o.2) root) root

theorem over_append (overrides : Overrides) (k : Key) (s : Scalar) (root : Value) :
    Overrides.over (overrides ++ [(k, s)]) root =
      k.parsedPath.set (.scalar none s) (overrides.over root) := by
  rw [Overrides.over, List.foldl_append]
  rfl

/-- Values set by hand change the settings that they are for. -/
theorem Holds.overrides {root : Value} {contents : Key → Content} {overrides : Overrides}
    (hroot : Holds root contents) (h : ∀ o ∈ overrides, (o.1.content? o.2).isSome) :
    Holds (overrides.over root) fun k => (lastOverride? overrides k).getD (contents k) := by
  induction overrides using List.reverseRecOn with
  | nil => exact hroot
  | append_singleton overrides o ih =>
    obtain ⟨k, s⟩ := o
    obtain ⟨c, hc⟩ := Option.isSome_iff_exists.mp (h (k, s) (by simp))
    rw [over_append]
    convert (ih fun o ho => h o (List.mem_append_left _ ho)).set hc using 2 with l
    rw [lastOverride?_append, Function.update_apply]
    split_ifs with hl
    · rw [hl, hc, Option.getD_some]
    · rfl

-- ---------------------------------------------------------------------------
-- Calls
-- ---------------------------------------------------------------------------

/-- A call on a loader. -/
inductive Call where
  | file (name : String)
  | optionalFile (name : String)
  | override (k : Key) (s : Scalar)
deriving DecidableEq, Repr

namespace Call

def apply (l : Loader) : Call → Except Error Loader
  | .file name => .ok (l.withFile name)
  | .optionalFile name => .ok (l.withOptionalFile name)
  | .override k s => l.withOverride k.path s

/-- The file that a call names. -/
def layer? : Call → Option FileLayer
  | .file name => some ⟨name, true⟩
  | .optionalFile name => some ⟨name, false⟩
  | .override _ _ => none

/-- What a call overrides. -/
def override? : Call → Option (Key × Scalar)
  | .override k s => some (k, s)
  | _ => none

/-- A file with settings of the right types and nothing else, or an absent one that need not be there, or a
    setting overridden by a value of the right type. -/
def Suits (store : Store) (c : Call) : Prop :=
  (∀ layer ∈ c.layer?, layer.Suits store) ∧ ∀ o ∈ c.override?, (o.1.content? o.2).isSome

instance (store : Store) (c : Call) : Decidable (c.Suits store) :=
  inferInstanceAs (Decidable ((∀ layer ∈ c.layer?, layer.Suits store)
    ∧ ∀ o ∈ c.override?, (o.1.content? o.2).isSome))

end Call

namespace Loader

/-- The loader after calls on a new one. -/
def ofCalls (calls : List Call) : Except Error Loader := calls.foldlM Call.apply {}

theorem withOverride_paths (layers : List FileLayer) (overrides : Overrides) (k : Key) (s : Scalar) :
    withOverride ⟨layers, overrides.paths⟩ k.path s = .ok ⟨layers, (overrides.set (k, s)).paths⟩ := by
  have hkept : overrides.paths.filter (fun o => o.1 ≠ k.parsedPath) =
      Overrides.paths (overrides.filter fun o => o.1 ≠ k) := by
    simp only [Overrides.paths, List.filter_map, Function.comp_def, Key.parsedPath_inj, ne_eq]
  simp only [withOverride, k.parse_path, hkept]
  rw [Overrides.set, Overrides.paths, Overrides.paths, List.map_append]
  rfl

/-- A loader keeps the files in order and the overrides that count. -/
theorem ofCalls_eq (calls : List Call) :
    ofCalls calls = .ok ⟨calls.filterMap Call.layer?,
      (Overrides.kept (calls.filterMap Call.override?)).paths⟩ := by
  induction calls using List.reverseRecOn with
  | nil => rfl
  | append_singleton calls c ih =>
    have hlast : ofCalls (calls ++ [c]) = ofCalls calls >>= c.apply := by
      rw [ofCalls, List.foldlM_append]
      simp only [List.foldlM_cons, List.foldlM_nil, bind_pure]
      rfl
    rw [hlast, ih, Results.ok_bind, List.filterMap_append, List.filterMap_append]
    cases c with
    | file name => simp [Call.apply, withFile, Call.layer?, Call.override?, List.filterMap_cons]
    | optionalFile name =>
      simp [Call.apply, withOptionalFile, Call.layer?, Call.override?, List.filterMap_cons]
    | override k s =>
      simp [Call.apply, withOverride_paths, Call.layer?, Call.override?, List.filterMap_cons, kept_append]

end Loader

/-- Calls that name suitable files and override settings by suitable values make a loader that loads. Every
    setting has the value of its last override, or else of the last file that gives it, or else its default.
    Calls with the same files and the same overrides in order make the same loader. -/
theorem load_ofCalls (store : Store) (calls : List Call) (h : ∀ c ∈ calls, c.Suits store) :
    ∃ loader settings, Loader.ofCalls calls = .ok loader ∧ loader.load store = .ok settings
      ∧ (∀ k : Key, settings.content k =
          ((lastOverride? (calls.filterMap Call.override?) k).or
            (lastGiven? store (calls.filterMap Call.layer?) k)).getD k.default)
      ∧ ∀ calls' : List Call, calls'.filterMap Call.layer? = calls.filterMap Call.layer? →
          calls'.filterMap Call.override? = calls.filterMap Call.override? →
          Loader.ofCalls calls' = .ok loader := by
  have hlayers : ∀ layer ∈ calls.filterMap Call.layer?, layer.Suits store := by
    intro layer hlayer
    obtain ⟨c, hc, heq⟩ := List.mem_filterMap.mp hlayer
    exact (h c hc).1 layer heq
  have hoverrides : ∀ o ∈ Overrides.kept (calls.filterMap Call.override?), (o.1.content? o.2).isSome := by
    intro o ho
    obtain ⟨c, hc, heq⟩ := List.mem_filterMap.mp (mem_of_mem_kept ho)
    exact (h c hc).2 o heq
  obtain ⟨root, hfiles, hroot⟩ := holds_defaults.overFiles hlayers
  obtain ⟨settings, hsettings, hcontent⟩ := (hroot.overrides hoverrides).settingsOf_eq
  refine ⟨_, settings, Loader.ofCalls_eq calls, ?_, fun k => ?_, fun calls' hl ho => ?_⟩
  · rw [Loader.load, Loader.tree, hfiles, Results.ok_bind, Results.ok_bind, Overrides.paths, List.foldl_map]
    exact hsettings
  · rw [hcontent, lastOverride?_kept]
    cases lastOverride? (calls.filterMap Call.override?) k <;> rfl
  · rw [Loader.ofCalls_eq, hl, ho]

/-- An early override of the delay goes over two later files, of which the second one gives one setting of a
    section and keeps the others. With the files first the loader is the same. -/
theorem load_ofCalls_mixed :
    let store : Store := ⟨[("a.toml", Text.Utf8.encode
        "submit.delay_ms = 5\n[convert]\nbullet_preset = 'B'\nnumbered_preset = 'N'".toList),
      ("b.toml", Text.Utf8.encode "[convert]\nnumbered_preset = 'M'\n[submit]\n".toList)], []⟩
    let files : List Call := [.file "a.toml", .optionalFile "none.toml", .file "b"]
    let early : List Call := [.override .policy (.string "atomic"), .override .delayMs (.integer 7)]
    let late : List Call := [.override .policy (.string "sequential")]
    (∀ c ∈ early ++ files ++ late, c.Suits store)
      ∧ ∃ loader settings, Loader.ofCalls (early ++ files ++ late) = .ok loader
        ∧ Loader.ofCalls (files ++ early ++ late) = .ok loader ∧ loader.load store = .ok settings
        ∧ settings.content .bulletPreset = .text "B" ∧ settings.content .numberedPreset = .text "M"
        ∧ settings.content .defaultTitle = .text "Untitled"
        ∧ settings.content .policy = .policy .sequential ∧ settings.content .delayMs = .delay 7 := by
  intro store files early late
  have hsuits : ∀ c ∈ early ++ files ++ late, c.Suits store := by decide +kernel
  obtain ⟨loader, settings, hloader, hload, hcontent, hmixed⟩ := load_ofCalls store _ hsuits
  exact ⟨hsuits, loader, settings, hloader, hmixed _ rfl rfl, hload, (hcontent _).trans (by decide +kernel),
    (hcontent _).trans (by decide +kernel), (hcontent _).trans (by decide +kernel),
    (hcontent _).trans (by decide +kernel), (hcontent _).trans (by decide +kernel)⟩

end DocMark.Config
