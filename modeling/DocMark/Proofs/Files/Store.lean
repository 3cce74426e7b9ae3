-- SUMMARY: What a file store holds after a file is written: that file, and everything else as before.
import Mathlib
import DocMark.Files.Store
import DocMark.Proofs.Results
import DocMark.Proofs.Text.Lines
import DocMark.Proofs.Text.Utf8

/-!
# Written files

Following a path checks directories on the way, but where it leads is decided by its parts alone. The place
that it leads to can be written as a path again, which names that place. So a file that is written is
found under its path, and no other place has changed.
-/
namespace DocMark.Files.Store

-- ---------------------------------------------------------------------------
-- Places
-- ---------------------------------------------------------------------------

/-- What a file or a directory may be called. -/
def IsName (part : String) : Prop := part ≠ "" ∧ part ≠ "." ∧ part ≠ ".." ∧ '/' ∉ part.toList

/-- The places that paths lead to: below the root, or below a place that is not below the working
    directory. -/
inductive IsPlace : Place → Prop where
  | absolute {names : List String} (h : ∀ n ∈ names, IsName n) : IsPlace (root ++ names)
  | relative (ups : Nat) {names : List String} (h : ∀ n ∈ names, IsName n) :
      IsPlace (List.replicate ups ".." ++ names)

theorem slash_notMem_of_mem_splitParts {path part : String} (h : part ∈ splitParts path) :
    '/' ∉ part.toList := by
  obtain ⟨cs, hcs, rfl⟩ := List.mem_map.mp h
  rw [String.toList_ofList]
  exact Text.notMem_of_mem_splitOn _ cs hcs

theorem isAbove_replicate (ups : Nat) : isAbove (List.replicate ups "..") = true := by
  simp [isAbove]

theorem isAbove_append {place names : Place} (h : ∀ n ∈ names, IsName n) (hne : names ≠ []) :
    isAbove (place ++ names) = false := by
  obtain ⟨n, names, rfl⟩ := List.exists_cons_of_ne_nil hne
  simp [isAbove, (h n (List.mem_cons_self ..)).2.2.1]

theorem parentOf_append {place names : Place} (h : ∀ n ∈ names, IsName n) (hne : names ≠ []) :
    parentOf (place ++ names) = place ++ names.dropLast := by
  have hroot : place ++ names ≠ root := by
    rintro heq
    have hmem : names.getLast hne ∈ root := by
      rw [← heq]
      exact List.mem_append_right _ (List.getLast_mem hne)
    exact (h _ (List.getLast_mem hne)).1 (List.mem_singleton.mp hmem)
  rw [parentOf, if_neg hroot, isAbove_append h hne, List.dropLast_append_of_ne_nil hne]
  rfl

theorem parentOf_ups (ups : Nat) :
    parentOf (List.replicate ups "..") = List.replicate (ups + 1) ".." := by
  have hroot : List.replicate ups ".." ≠ root := by
    intro heq
    have hmem : "" ∈ List.replicate ups ".." := heq ▸ List.mem_singleton_self _
    simp at hmem
  rw [parentOf, if_neg hroot, if_pos (isAbove_replicate ups), List.replicate_succ']

theorem IsPlace.enter {place : Place} {part : String} (h : IsPlace place)
    (hpart : '/' ∉ part.toList) : IsPlace (enter place part) := by
  unfold Store.enter
  split_ifs with hsame hup
  · exact h
  · cases h with
    | @absolute names hnames =>
      by_cases hne : names = []
      · subst hne
        exact .absolute hnames
      · rw [parentOf_append hnames hne]
        exact .absolute fun n hn => hnames n (List.dropLast_subset _ hn)
    | @relative ups names hnames =>
      by_cases hne : names = []
      · subst hne
        rw [List.append_nil, parentOf_ups, ← List.append_nil (List.replicate _ _)]
        exact .relative (ups + 1) hnames
      · rw [parentOf_append hnames hne]
        exact .relative ups fun n hn => hnames n (List.dropLast_subset _ hn)
  · have hname : IsName part := ⟨fun h => hsame (.inl h), fun h => hsame (.inr h), hup, hpart⟩
    have hlater {names : List String} (hnames : ∀ n ∈ names, IsName n) :
        ∀ n ∈ names ++ [part], IsName n :=
      List.forall_mem_append.mpr ⟨hnames, List.forall_mem_singleton.mpr hname⟩
    cases h with
    | absolute hnames =>
      rw [List.append_assoc]
      exact .absolute (hlater hnames)
    | relative ups hnames =>
      rw [List.append_assoc]
      exact .relative ups (hlater hnames)

theorem IsPlace.enterAll {place : Place} {parts : List String} (h : IsPlace place)
    (hparts : ∀ p ∈ parts, '/' ∉ p.toList) : IsPlace (parts.foldl Store.enter place) := by
  induction parts generalizing place with
  | nil => exact h
  | cons part parts ih =>
    rw [List.forall_mem_cons] at hparts
    exact ih (h.enter hparts.1) hparts.2

theorem enterAll_names {place : Place} {names : List String} (h : ∀ n ∈ names, IsName n) :
    names.foldl enter place = place ++ names := by
  induction names generalizing place with
  | nil => simp
  | cons n names ih =>
    rw [List.forall_mem_cons] at h
    obtain ⟨⟨hempty, hself, hup, -⟩, hlater⟩ := h
    simp [enter, hempty, hself, hup, ih hlater]

theorem enterAll_ups (ups above : Nat) :
    (List.replicate ups "..").foldl enter (List.replicate above "..") =
      List.replicate (above + ups) ".." := by
  induction ups generalizing above with
  | zero => rfl
  | succ ups ih =>
    have hfirst : enter (List.replicate above "..") ".." = List.replicate (above + 1) ".." :=
      parentOf_ups above
    rw [List.replicate_succ, List.foldl_cons, hfirst, ih, Nat.add_right_comm, Nat.add_assoc]

theorem splitParts_intercalate {place : Place} (h : ∀ p ∈ place, '/' ∉ p.toList) (hne : place ≠ []) :
    splitParts ("/".intercalate place) = place := by
  have hslash : "/".toList = ['/'] := rfl
  rw [splitParts, String.toList_intercalate, hslash,
    List.splitOn_intercalate _ (List.forall_mem_map.mpr h) (by simpa using hne), List.map_map]
  simp

theorem IsPlace.slash_notMem {place : Place} (h : IsPlace place) : ∀ p ∈ place, '/' ∉ p.toList := by
  cases h with
  | absolute hnames =>
    exact List.forall_mem_append.mpr ⟨by simp [root], fun n hn => (hnames n hn).2.2.2⟩
  | relative ups hnames =>
    refine List.forall_mem_append.mpr ⟨fun p hp => ?_, fun n hn => (hnames n hn).2.2.2⟩
    rw [List.eq_of_mem_replicate hp]
    decide

theorem startOf_intercalate {p : String} {place : Place} (hempty : p ≠ "") (hslash : '/' ∉ p.toList) :
    startOf ("/".intercalate (p :: place)) = [] := by
  obtain ⟨c, cs, hp⟩ := List.exists_cons_of_ne_nil (String.toList_eq_nil_iff.not.mpr hempty)
  have hc : c ≠ '/' := by
    rintro rfl
    exact hslash (hp ▸ List.mem_cons_self ..)
  have hhead : ("/".intercalate (p :: place)).toList.head? = some c := by
    cases place <;> simp [String.intercalate_cons_cons, hp]
  rw [startOf, hhead, if_neg (by simpa using hc)]

/-- A place written as a path is named by that path. -/
theorem IsPlace.placeOf_intercalate {place : Place} (h : IsPlace place) (hroot : place ≠ root)
    (hne : place ≠ []) : placeOf ("/".intercalate place) = place := by
  rw [placeOf, splitParts_intercalate h.slash_notMem hne]
  cases h with
  | @absolute names hnames =>
    obtain ⟨n, names, rfl⟩ : ∃ n ns, names = n :: ns := by
      cases names with
      | nil => exact absurd rfl hroot
      | cons n ns => exact ⟨n, ns, rfl⟩
    have hstart : startOf ("/".intercalate (root ++ n :: names)) = root := by
      simp [startOf, root, String.intercalate_cons_cons]
    have hfirst : root.foldl Store.enter root = root := rfl
    rw [hstart, List.foldl_append, hfirst, enterAll_names hnames]
  | @relative ups names hnames =>
    have hstart : startOf ("/".intercalate (List.replicate ups ".." ++ names)) = [] := by
      cases ups with
      | zero =>
        obtain ⟨n, names, rfl⟩ := List.exists_cons_of_ne_nil hne
        obtain ⟨hempty, -, -, hslash⟩ := hnames n (List.mem_cons_self ..)
        exact startOf_intercalate hempty hslash
      | succ ups => exact startOf_intercalate (by decide) (by decide)
    rw [hstart, List.foldl_append, ← List.replicate_zero (a := ".."), enterAll_ups,
      enterAll_names hnames, Nat.zero_add]

-- ---------------------------------------------------------------------------
-- Following paths
-- ---------------------------------------------------------------------------

variable {s : Store}

theorem isPlace_startOf (path : String) : IsPlace (startOf path) := by
  unfold startOf
  split_ifs
  · simpa using @IsPlace.absolute [] (by simp)
  · simpa using @IsPlace.relative 0 [] (by simp)

theorem eq_enterAll_of_follow {start place : Place} {parts : List String}
    (h : s.follow start parts = .ok place) : place = parts.foldl enter start := by
  induction parts generalizing start with
  | nil => exact (Except.ok.inj h).symm
  | cons part rest ih =>
    simp only [follow] at h
    split_ifs at h
    exact ih h

/-- A path leads to the place that it names, if it leads anywhere. -/
theorem eq_placeOf_of_locate {path : String} {place : Place} (h : s.locate path = .ok place) :
    place = placeOf path := by
  rw [locate] at h
  split_ifs at h
  exact eq_enterAll_of_follow h

theorem isPlace_placeOf (path : String) : IsPlace (placeOf path) :=
  (isPlace_startOf path).enterAll fun _ => slash_notMem_of_mem_splitParts

/-- A store that has at least the directories of another follows all paths of that. -/
theorem follow_mono {t : Store} (hdirectories : ∀ p, s.hasDirectory p → t.hasDirectory p)
    {start place : Place} {parts : List String} (h : s.follow start parts = .ok place) :
    t.follow start parts = .ok place := by
  induction parts generalizing start with
  | nil => exact h
  | cons part rest ih =>
    simp only [follow] at h ⊢
    split_ifs at h with hnext
    rw [if_pos]
    · exact ih h
    · rw [Bool.or_eq_true] at hnext ⊢
      exact hnext.imp_right (hdirectories _)

-- ---------------------------------------------------------------------------
-- Putting a file
-- ---------------------------------------------------------------------------

section Put

variable {path : String} {place : Place} {bytes : List UInt8}

/-- Overwriting a file keeps its name, so the file at any place is found where it was. -/
theorem file?_overwritten (other : Place) :
    file? { s with files := s.files.map fun f => if placeOf f.1 == place then (f.1, bytes) else f } other =
      if other = place then (s.file? other).map fun _ => bytes else s.file? other := by
  have hname : ((fun f => placeOf f.1 == other) ∘
      fun f : String × List UInt8 => if placeOf f.1 == place then (f.1, bytes) else f) =
        fun f => placeOf f.1 == other := by
    funext f
    simp only [Function.comp_apply]
    split_ifs <;> rfl
  simp only [file?, List.find?_map, hname, Option.map_map]
  cases hfound : s.files.find? fun f => placeOf f.1 == other with
  | none => simp
  | some f =>
    have hf := List.find?_some hfound
    rw [beq_iff_eq] at hf
    by_cases hother : other = place <;> simp [hf, hother]

theorem file?_put (h : placeOf path = place) (other : Place) :
    (s.put path place bytes).file? other = if other = place then some bytes else s.file? other := by
  unfold put
  split_ifs with hthere hother hother
  · obtain ⟨old, hold⟩ := Option.isSome_iff_exists.mp hthere
    rw [file?_overwritten, if_pos hother, hother, hold]
    rfl
  · rw [file?_overwritten, if_neg hother]
  · have hmissing : s.file? place = none := by simpa using hthere
    simp only [file?, Option.map_eq_none_iff] at hmissing
    simp [file?, List.find?_append, hother, hmissing, h]
  · have hnot : (placeOf path == other) = false := by
      rw [h]
      simpa using Ne.symm hother
    simp [file?, List.find?_append, hnot]

theorem exists_name_put (path : String) (place : Place) (bytes : List UInt8) {f : String × List UInt8}
    (hf : f ∈ s.files) : ∃ g ∈ (s.put path place bytes).files, g.1 = f.1 := by
  unfold put
  split_ifs
  · refine ⟨_, List.mem_map_of_mem hf, ?_⟩
    split_ifs <;> rfl
  · exact ⟨f, List.mem_append_left _ hf, rfl⟩

theorem directories_put : (s.put path place bytes).directories = s.directories := by
  unfold put
  split_ifs <;> rfl

theorem hasDirectory_put {p : Place} (hp : s.hasDirectory p) :
    (s.put path place bytes).hasDirectory p := by
  simp only [hasDirectory, Bool.or_eq_true] at hp ⊢
  refine hp.imp (fun hlisted => ?_) fun hfile => ?_
  · rwa [directories_put]
  · obtain ⟨f, hf, hinside⟩ := List.any_eq_true.mp hfile
    obtain ⟨g, hg, hname⟩ := exists_name_put path place bytes hf
    exact List.any_eq_true.mpr ⟨g, hg, by rwa [hname]⟩

end Put

-- ---------------------------------------------------------------------------
-- Writing
-- ---------------------------------------------------------------------------

/-- What a store holds after a file is written: the file, under the path and at the place that this names,
    and everything else as before. -/
structure Wrote (s : Store) (path : String) (bytes : List UInt8) (written : Store) : Prop where
  read_eq : written.read path = .ok bytes
  file_eq : written.file? (placeOf path) = some bytes
  files_eq : ∀ place ≠ placeOf path, written.file? place = s.file? place
  directories_eq : written.directories = s.directories

/-- A file can be written under the path. -/
def Writable (s : Store) (path : String) : Prop := ∃ bytes written, s.write path bytes = .ok written

/-- Whether a file can be written does not depend on what is written. -/
theorem Writable.exists_write {path : String} (h : s.Writable path) (bytes : List UInt8) :
    ∃ written, s.write path bytes = .ok written := by
  obtain ⟨other, written, hwrite⟩ := h
  simp only [write] at hwrite ⊢
  split_ifs at hwrite ⊢
  obtain ⟨place, hplace, hwrite⟩ := Results.bind_eq_ok_iff.mp hwrite
  rw [hplace, Results.ok_bind]
  split_ifs at hwrite ⊢
  exact ⟨_, rfl⟩

theorem wrote_of_write {path : String} {bytes : List UInt8} {written : Store}
    (h : s.write path bytes = .ok written) : Wrote s path bytes written := by
  simp only [write] at h
  split_ifs at h with hempty
  obtain ⟨place, hplace, h⟩ := Results.bind_eq_ok_iff.mp h
  split_ifs at h with hrefused
  obtain ⟨hdirectory, hparts⟩ := not_or.mp (Bool.or_eq_true .. ▸ hrefused)
  have hsame : innerParts path = splitParts path := by simpa using hparts
  have hlocate : s.locate path = .ok place := by
    rw [locate, if_neg hempty, ← hsame, hplace]
  obtain rfl := eq_placeOf_of_locate hlocate
  cases h
  -- A place that is no directory is neither the root nor the working directory.
  have hroot : placeOf path ≠ root := by
    intro heq
    exact hdirectory (by simp [hasDirectory, heq])
  have hne : placeOf path ≠ [] := by
    intro heq
    exact hdirectory (by simp [hasDirectory, heq, isAbove])
  have hname := (isPlace_placeOf path).placeOf_intercalate hroot hne
  have hfile (other : Place) :
      (s.put ("/".intercalate (placeOf path)) (placeOf path) bytes).file? other =
        if other = placeOf path then some bytes else s.file? other := file?_put hname other
  have hfound : (s.put ("/".intercalate (placeOf path)) (placeOf path) bytes).locate path =
      .ok (placeOf path) := by
    rw [locate, if_neg hempty] at hlocate ⊢
    exact follow_mono (fun _ => hasDirectory_put) hlocate
  exact {
    read_eq := by simp [read, hfound, hfile]
    file_eq := by simp [hfile]
    files_eq := fun other hother => by rw [hfile, if_neg hother]
    directories_eq := directories_put }

/-- A text that was written is read back. -/
theorem Wrote.readText_eq {path text : String} {written : Store}
    (h : Wrote s path (Text.Utf8.encode text.toList) written) : written.readText path = .ok text := by
  rw [readText, h.read_eq, Results.ok_bind, Text.Utf8.decode_encode]
  exact congrArg Except.ok String.ofList_toList

end DocMark.Files.Store
