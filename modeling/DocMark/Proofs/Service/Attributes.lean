-- SUMMARY: The paragraph attributes at every position after an insertion at the end or a change of paragraphs.
import Mathlib
import DocMark.Proofs.Service.PlainParagraphs

/-!
# Attributes by position

Which paragraph holds a position is settled by the units from there on. So an insertion right before
the last terminator changes the attributes at no earlier position, even where its line feeds cut a
paragraph in two, and a change of paragraphs is seen at the positions of those paragraphs only.
-/
namespace DocMark.Service.LocalDocument

open Text

/-- The attributes of the paragraph that holds a position. -/
def attributes (d : LocalDocument) (position : Nat) : ParagraphAttributes :=
  attributesAt d.units position

/-! ## The first paragraph -/

/-- The attributes of the first paragraph that ends in the units. -/
def firstAttributes (units : List CodeUnit) : ParagraphAttributes :=
  ((units.find? (·.isTerminator)).bind (·.paragraph)).getD {}

section First

variable {units xs : List CodeUnit} {position : Nat}

theorem attributesAt_eq_firstAttributes (h : ∃ u ∈ units.drop position, u.isTerminator = true) :
    attributesAt units position = firstAttributes (units.drop position) := by
  obtain ⟨offset, t, hoffset, hfrom, hat, ht⟩ := terminatorFrom_spec h
  have hfound : (units.drop position).find? (·.isTerminator) = some t := by
    rw [List.find?_eq_bind_findIdx?_getElem?, hoffset, Option.bind_some, List.getElem?_drop, hat]
  rw [attributesAt, hfrom, hat, firstAttributes, hfound]

theorem firstAttributes_append_of_exists (h : ∃ u ∈ xs, u.isTerminator = true)
    (ys : List CodeUnit) : firstAttributes (xs ++ ys) = firstAttributes xs := by
  obtain ⟨t, ht⟩ := Option.isSome_iff_exists.mp (List.find?_isSome.mpr h)
  rw [firstAttributes, firstAttributes, List.find?_append, ht, Option.some_or]

theorem firstAttributes_append_of_forall (h : ∀ u ∈ xs, u.isTerminator = false)
    (ys : List CodeUnit) : firstAttributes (xs ++ ys) = firstAttributes ys := by
  have hnone : xs.find? (·.isTerminator) = none :=
    List.find?_eq_none.mpr fun u hu => by simp [h u hu]
  rw [firstAttributes, firstAttributes, List.find?_append, hnone, Option.none_or]

theorem firstAttributes_of_isTerminator {t : CodeUnit} (ht : t.isTerminator = true) (ys : List CodeUnit) :
    firstAttributes (t :: ys) = t.paragraph.getD {} := by
  rw [firstAttributes, List.find?_cons_of_pos ht]
  rfl

/-- A position before the last unit lies in the first paragraph that ends after it, if any ends before
    the last one. -/
theorem attributesAt_concat (units : List CodeUnit) {t : CodeUnit} (ht : t.isTerminator = true)
    {i : Nat} (hi : i ≤ units.length) :
    attributesAt (units ++ [t]) i =
      if ∃ u ∈ units.drop i, u.isTerminator = true then firstAttributes (units.drop i)
      else t.paragraph.getD {} := by
  have hdrop : (units ++ [t]).drop i = units.drop i ++ [t] := List.drop_append_of_le_length hi
  have hsome : ∃ u ∈ (units ++ [t]).drop i, u.isTerminator = true := by
    rw [hdrop]
    exact ⟨t, List.mem_append_right _ (List.mem_singleton.mpr rfl), ht⟩
  rw [attributesAt_eq_firstAttributes hsome, hdrop]
  split
  · rename_i hbefore
    exact firstAttributes_append_of_exists hbefore [t]
  · rename_i hbefore
    have hnone : ∀ u ∈ units.drop i, u.isTerminator = false := fun u hu => by
      simpa using fun hterm => hbefore ⟨u, hu, hterm⟩
    rw [firstAttributes_append_of_forall hnone, firstAttributes_of_isTerminator ht]

end First

/-! ## Insertions at the end -/

section Insertions

variable {text : String} {a : ParagraphAttributes}

theorem paragraph_of_mem_insertedUnits {u : CodeUnit} (hu : u ∈ insertedUnits text a)
    (hterm : u.isTerminator = true) : u.paragraph = some a := by
  obtain ⟨code, -, rfl⟩ := List.mem_map.mp hu
  exact if_pos hterm

theorem exists_terminator_insertedUnits (a : ParagraphAttributes) (h : '\n' ∈ text.toList) :
    ∃ u ∈ insertedUnits text a, u.isTerminator = true := by
  have hcode : CodeUnit.lineFeed ∈ Utf16.encode text.toList :=
    List.mem_flatMap.mpr ⟨'\n', h, List.mem_singleton.mpr rfl⟩
  exact ⟨_, List.mem_map.mpr ⟨_, hcode, rfl⟩, rfl⟩

theorem isTerminator_of_mem_insertedUnits (h : '\n' ∉ text.toList) {u : CodeUnit}
    (hu : u ∈ insertedUnits text a) : u.isTerminator = false := by
  rw [insertedUnits_eq_plain h] at hu
  obtain ⟨code, hcode, rfl⟩ := List.mem_map.mp hu
  have hne : code ≠ CodeUnit.lineFeed := fun heq =>
    PlainParagraph.lineFeed_notMem_encode h (heq ▸ hcode)
  simpa [CodeUnit.plain, CodeUnit.isTerminator] using hne

/-- Among inserted units the line feeds carry the attributes of the place. -/
theorem firstAttributes_inserted {xs : List CodeUnit} (hxs : xs ⊆ insertedUnits text a)
    (h : ∃ u ∈ xs, u.isTerminator = true) : firstAttributes xs = a := by
  obtain ⟨t, ht⟩ := Option.isSome_iff_exists.mp (List.find?_isSome.mpr h)
  have hparagraph := paragraph_of_mem_insertedUnits (hxs (List.mem_of_find?_eq_some ht))
    (List.find?_some ht)
  rw [firstAttributes, ht, Option.bind_some, hparagraph, Option.getD_some]

variable (text : String) (pre : List CodeUnit) {t : CodeUnit} {i : Nat}

theorem isTerminator_last (ht : t.isTerminator = true) :
    (if text.toList.contains '\n' then { t with paragraph := some {} } else t).isTerminator = true := by
  split
  · exact ht
  · exact ht

/-- What `insertedAt` makes of the last terminator. -/
theorem paragraph_last (t : CodeUnit) :
    (if text.toList.contains '\n' then { t with paragraph := some {} } else t).paragraph.getD {} =
      if '\n' ∈ text.toList then {} else t.paragraph.getD {} := by
  by_cases hline : '\n' ∈ text.toList
  · rw [if_pos (List.contains_iff_mem.mpr hline), if_pos hline, Option.getD_some]
  · rw [if_neg (mt List.contains_iff_mem.mp hline), if_neg hline]

/-- Positions before the insertion keep their attributes. -/
theorem attributesAt_insertedAt_of_lt (ht : t.isTerminator = true) (hi : i < pre.length) :
    attributesAt (insertedAt text pre.length (pre ++ [t])) i = attributesAt (pre ++ [t]) i := by
  have hlength : i ≤ (pre ++ insertedUnits text (t.paragraph.getD {})).length := by
    rw [List.length_append]
    exact hi.le.trans (Nat.le_add_right ..)
  rw [insertedAt_concat text pre ht, attributesAt_concat _ (isTerminator_last text ht) hlength,
    attributesAt_concat pre ht hi.le, paragraph_last, List.drop_append_of_le_length hi.le]
  by_cases hpre : ∃ u ∈ pre.drop i, u.isTerminator = true
  · have hboth : ∃ u ∈ pre.drop i ++ insertedUnits text (t.paragraph.getD {}),
        u.isTerminator = true := by
      obtain ⟨u, hu, hterm⟩ := hpre
      exact ⟨u, List.mem_append_left _ hu, hterm⟩
    rw [if_pos hpre, if_pos hboth]
    exact firstAttributes_append_of_exists hpre _
  · -- The paragraph that holds the position is the one that is inserted into.
    have hnone : ∀ u ∈ pre.drop i, u.isTerminator = false := fun u hu => by
      simpa using fun hterm => hpre ⟨u, hu, hterm⟩
    rw [if_neg hpre]
    by_cases hline : '\n' ∈ text.toList
    · obtain ⟨u, hu, hterm⟩ := exists_terminator_insertedUnits (t.paragraph.getD {}) hline
      rw [if_pos ⟨u, List.mem_append_right _ hu, hterm⟩, firstAttributes_append_of_forall hnone]
      exact firstAttributes_inserted (List.Subset.refl _) ⟨u, hu, hterm⟩
    · have hinserted : ¬∃ u ∈ pre.drop i ++ insertedUnits text (t.paragraph.getD {}),
          u.isTerminator = true := by
        rintro ⟨u, hu, hterm⟩
        rcases List.mem_append.mp hu with hold | hnew
        · exact hpre ⟨u, hold, hterm⟩
        · rw [isTerminator_of_mem_insertedUnits hline hnew] at hterm
          cases hterm
      rw [if_neg hinserted, if_neg hline]

/-- From the insertion on, paragraphs are like the one inserted into, or start afresh. -/
theorem attributesAt_insertedAt_of_ge (ht : t.isTerminator = true) (hi : pre.length ≤ i)
    (hlast : i ≤ pre.length + (Utf16.encode text.toList).length) :
    attributesAt (insertedAt text pre.length (pre ++ [t])) i = t.paragraph.getD {}
      ∨ attributesAt (insertedAt text pre.length (pre ++ [t])) i = {} := by
  have hlength : i ≤ (pre ++ insertedUnits text (t.paragraph.getD {})).length := by
    simpa [insertedUnits] using hlast
  have hdrop : (pre ++ insertedUnits text (t.paragraph.getD {})).drop i =
      (insertedUnits text (t.paragraph.getD {})).drop (i - pre.length) := by
    rw [List.drop_append, List.drop_of_length_le hi, List.nil_append]
  rw [insertedAt_concat text pre ht, attributesAt_concat _ (isTerminator_last text ht) hlength,
    paragraph_last, hdrop]
  split
  · rename_i hsome
    exact Or.inl (firstAttributes_inserted (List.drop_subset ..) hsome)
  · split
    · exact Or.inr rfl
    · exact Or.inl rfl

/-- The last paragraph starts afresh if a line feed cuts it off from what was there. -/
theorem attributesAt_insertedAt_last (ht : t.isTerminator = true) :
    attributesAt (insertedAt text pre.length (pre ++ [t]))
        (pre.length + (Utf16.encode text.toList).length) =
      if '\n' ∈ text.toList then {} else t.paragraph.getD {} := by
  have hlength : pre.length + (Utf16.encode text.toList).length =
      (pre ++ insertedUnits text (t.paragraph.getD {})).length := by
    simp [insertedUnits]
  rw [insertedAt_concat text pre ht, hlength,
    attributesAt_concat _ (isTerminator_last text ht) (le_refl _), paragraph_last, List.drop_length,
    if_neg (by simp)]

end Insertions

/-! ## Changes of paragraphs -/

section Changes

variable {units : List CodeUnit} {first last i : Nat}

theorem getElem?_mapBetween (f : CodeUnit → CodeUnit) (units : List CodeUnit) (h : first ≤ last + 1)
    (i : Nat) :
    (mapBetween first last f units)[i]? =
      if first ≤ i ∧ i ≤ last then (units[i]?).map f else units[i]? := by
  by_cases hlong : i < units.length
  · unfold mapBetween
    simp only [List.getElem?_append, List.length_append, List.length_map, List.length_take,
      List.length_drop, List.getElem?_take, List.getElem?_map, List.getElem?_drop]
    by_cases hfirst : i < first
    · rw [if_pos (by omega), if_pos (by omega), if_pos (by omega), if_neg (by omega)]
    · by_cases hlast : i ≤ last
      · rw [if_pos (by omega), if_neg (by omega), if_pos (by omega), if_pos (by omega)]
        congr 2
        omega
      · rw [if_neg (by omega), if_neg (by omega)]
        congr 1
        omega
  · have hnone : units[i]? = none := List.getElem?_eq_none (by omega)
    rw [hnone, Option.map_none, ite_self]
    refine List.getElem?_eq_none ?_
    simp only [mapBetween, List.length_append, List.length_map, List.length_take, List.length_drop]
    omega

/-- Where paragraphs end is a matter of the codes. -/
theorem terminatorFrom_of_codes {us vs : List CodeUnit} (h : us.map (·.code) = vs.map (·.code))
    (position : Nat) : terminatorFrom us position = terminatorFrom vs position := by
  have hfind (xs : List CodeUnit) : xs.findIdx? (·.isTerminator) =
      (xs.map (·.code)).findIdx? (· == CodeUnit.lineFeed) := by
    rw [List.findIdx?_map]
    rfl
  have hlength : us.length = vs.length := by simpa using congrArg List.length h
  rw [terminatorFrom, terminatorFrom, hfind, hfind, List.map_drop, List.map_drop, h, hlength]

/-- A change of links is none of attributes. -/
theorem attributesAt_mapBetween {f : CodeUnit → CodeUnit} (hcode : ∀ u, (f u).code = u.code)
    (hparagraph : ∀ u, (f u).paragraph = u.paragraph) (h : first ≤ last + 1) (units : List CodeUnit)
    (i : Nat) : attributesAt (mapBetween first last f units) i = attributesAt units i := by
  rw [attributesAt, attributesAt, terminatorFrom_of_codes (codes_mapBetween hcode h units),
    getElem?_mapBetween f units h]
  split
  · rw [Option.bind_map]
    exact congrArg (fun g => ((units[terminatorFrom units i]?).bind g).getD {}) (funext hparagraph)
  · rfl

/-- Attributes change where a paragraph lies between the first and the last one changed. -/
theorem attributesAt_mapParagraphs (f : ParagraphAttributes → ParagraphAttributes)
    (h : first ≤ last) (hi : ∃ u ∈ units.drop i, u.isTerminator = true) :
    attributesAt (mapParagraphs first last f units) i =
      if terminatorFrom units first ≤ terminatorFrom units i
          ∧ terminatorFrom units i ≤ terminatorFrom units last then
        f (attributesAt units i)
      else attributesAt units i := by
  obtain ⟨offset, t, -, hfrom, hat, ht⟩ := terminatorFrom_spec hi
  rw [← hfrom] at hat
  have hsame : terminatorFrom (mapParagraphs first last f units) i = terminatorFrom units i :=
    terminatorFrom_of_codes (codes_mapParagraphs h f units) i
  have hbounds : terminatorFrom units first ≤ terminatorFrom units last + 1 :=
    (terminatorFrom_mono units h).trans (Nat.le_succ _)
  rw [attributesAt, attributesAt, hsame, mapParagraphs, getElem?_mapBetween _ _ hbounds, hat]
  split
  · simp [ht]
  · rfl

theorem attributesAt_mapParagraphs_of_mem (f : ParagraphAttributes → ParagraphAttributes)
    (hfirst : first ≤ i) (hlast : i ≤ last) (hi : ∃ u ∈ units.drop i, u.isTerminator = true) :
    attributesAt (mapParagraphs first last f units) i = f (attributesAt units i) := by
  rw [attributesAt_mapParagraphs f (hfirst.trans hlast) hi]
  exact if_pos ⟨terminatorFrom_mono units hfirst, terminatorFrom_mono units hlast⟩

/-- A paragraph ends at the next terminator at the latest. -/
theorem terminatorFrom_le {p : Nat} {t : CodeUnit} (hi : i ≤ p) (ht : units[p]? = some t)
    (hterm : t.isTerminator = true) : terminatorFrom units i ≤ p := by
  have hmem : t ∈ units.drop i := by
    refine List.mem_of_getElem? (i := p - i) ?_
    rw [List.getElem?_drop, Nat.add_sub_cancel' hi]
    exact ht
  obtain ⟨offset, -, hoffset, hfrom, -, -⟩ := terminatorFrom_spec ⟨t, hmem, hterm⟩
  rw [hfrom]
  by_contra hpast
  have hbefore := not_isTerminator_of_lt hoffset (i := p - i) (by omega)
  rw [Nat.add_sub_cancel' hi, ht, Option.any_some, hterm] at hbefore
  cases hbefore

/-- Positions on either side of a terminator lie in different paragraphs. -/
theorem terminatorFrom_lt {j p : Nat} {t : CodeUnit} (hi : i < p) (hj : p ≤ j)
    (ht : units[p - 1]? = some t) (hterm : t.isTerminator = true)
    (hlast : ∃ u ∈ units.drop j, u.isTerminator = true) :
    terminatorFrom units i < terminatorFrom units j := by
  have hbefore : terminatorFrom units i ≤ p - 1 := terminatorFrom_le (by omega) ht hterm
  have hafter : j ≤ terminatorFrom units j := by
    obtain ⟨offset, -, -, hfrom, -, -⟩ := terminatorFrom_spec hlast
    exact hfrom ▸ Nat.le_add_right ..
  omega

/-- A range that begins right after a terminator leaves the paragraphs before it alone. -/
theorem attributesAt_mapParagraphs_of_lt (f : ParagraphAttributes → ParagraphAttributes)
    (h : first ≤ last) (hi : i < first) {t : CodeUnit} (ht : units[first - 1]? = some t)
    (hterm : t.isTerminator = true) (hfirst : ∃ u ∈ units.drop first, u.isTerminator = true) :
    attributesAt (mapParagraphs first last f units) i = attributesAt units i := by
  have hbefore : terminatorFrom units i ≤ first - 1 := terminatorFrom_le (by omega) ht hterm
  have hafter : first ≤ terminatorFrom units first := by
    obtain ⟨offset, -, -, hfrom, -, -⟩ := terminatorFrom_spec hfirst
    exact hfrom ▸ Nat.le_add_right ..
  obtain ⟨u, hu, huterm⟩ := hfirst
  rw [attributesAt_mapParagraphs f h ⟨u, List.drop_subset_drop_left units hi.le hu, huterm⟩]
  exact if_neg (by omega)

end Changes

end DocMark.Service.LocalDocument
