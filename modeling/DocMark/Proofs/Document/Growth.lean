-- SUMMARY: The JSON of a document may get members that the model does not know, and keeps its meaning.
import Mathlib
import DocMark.Proofs.Document.Json
import DocMark.Proofs.Json.Growth

/-!
# Documents in JSON that grows

The service may add members to the objects of its documents and write members in another order. A document is read
from such a text as from the one before, whatever the new members hold.
-/
namespace DocMark.Document

open Json

/-- A text that holds a document spells one tree, and every text that this tree grows into holds the same
    document. -/
theorem fromJson?_of_grows {text : String} {d : Document} (h : fromJson? text = .ok d) :
    ∃ t : Tree, (∀ s : Tree, s.SpelledIn text ↔ s = t) ∧ ∀ (t' : Tree) (text' : String),
      layout.Grows Schema.Named (.one .document) t t' → t'.SpelledIn text' → fromJson? text' = .ok d := by
  obtain ⟨content, hread, h⟩ := Results.bind_eq_ok_iff.mp h
  cases h
  obtain ⟨t, ht, -⟩ := Schema.read_eq_ok_iff.mp hread
  refine ⟨t, fun s => ⟨fun hs => hs.unique ht, fun hs => hs ▸ ht⟩, fun t' text' hgrows ht' => ?_⟩
  rw [fromJson?, Schema.read_of_grows lossless_layout.nodup_members hread ht hgrows ht']
  rfl

/-- A member of the body whose name is escaped, and which holds a number beyond all bounds and a string with half of
    a pair. -/
theorem fromJson?_of_grows_kind :
    let skipped : Tree := .array [.number "1e999".toList, .string "]\\udc00".toList]
    let content : List Char × Tree := ("content".toList, .array [])
    let t : Tree := .object [("title".toList, .string []), ("body".toList, .object [content])]
    let t' : Tree := .object [("title".toList, .string []),
      ("body".toList, .object [("\\u006bind".toList, skipped), content])]
    let text := "\x7b\"title\":\"\",\"body\":\x7b\"content\":[]\x7d\x7d"
    let text' := "\x7b\"title\":\"\",\"body\":\x7b\"\\u006bind\":[1e999,\"]\\udc00\"],\"content\":[]\x7d\x7d"
    fromJson? text = .ok {} ∧ t.SpelledIn text ∧ layout.Grows Schema.Named (.one .document) t t'
      ∧ t'.SpelledIn text' ∧ fromJson? text' = .ok {} := by
  intro skipped content t t' text text'
  have htitle : Unescaped "title".toList "title".toList := unescaped_self (by simp)
  have hbody : Unescaped "body".toList "body".toList := unescaped_self (by simp)
  have hcontent : Unescaped "content".toList "content".toList := unescaped_self (by simp)
  have hkind : Unescaped "\\u006bind".toList "kind".toList := by
    have hdigits : HexNumber ['0', '0', '6', 'b'] (((0 * 16 + 0) * 16 + 6) * 16 + 11) := .mk rfl rfl rfl rfl
    have hrest : Unescaped "ind".toList "ind".toList := unescaped_self (by simp)
    exact .number hdigits rfl rfl hrest
  have hunknown : ¬ Unescaped "\\u006bind".toList "content".toList := fun h =>
    absurd (hkind.unique h) (by decide)
  have hspelledTitle : Tree.SpellsMember ("title".toList, .string []) "\"title\":\"\"".toList :=
    .mk htitle.stringContent allBlank_nil allBlank_nil (.string .nil)
  have hspelledContent : Tree.SpellsMember content "\"content\":[]".toList :=
    .mk hcontent.stringContent allBlank_nil allBlank_nil (.array (.nil allBlank_nil))
  have hskipped : skipped.Spells "[1e999,\"]\\udc00\"]".toList := by
    have hone : WholeNumber ['1'] := ⟨⟨by simp, by simp⟩, by simp⟩
    have hdigits : Digits ['9', '9', '9'] := ⟨by simp, by simp⟩
    have hnumber : NumberText "1e999".toList := .unsigned (.mk hone .none (.some (.inl rfl) (.inl rfl) hdigits))
    have hhex : HexNumber ['d', 'c', '0', '0'] (((13 * 16 + 12) * 16 + 0) * 16 + 0) := .mk rfl rfl rfl rfl
    have hstring : StringContent "]\\udc00".toList :=
      .plain (by decide) (by decide) (by decide) (.number hhex .nil)
    have hlisted : Listed ']' Tree.Spells [.number "1e999".toList, .string "]\\udc00".toList] _ :=
      .cons allBlank_nil (.number hnumber) (.cons allBlank_nil allBlank_nil (.string hstring) (.nil allBlank_nil))
    exact .array hlisted
  have hgrows : layout.Grows Schema.Named (.one .document) t t' := by
    have hinsert : layout.Grows Schema.Named (.one .body) (.object ([] ++ [content]))
        (.object ([] ++ ("\\u006bind".toList, skipped) :: [content])) :=
      .insert rfl ⟨"kind", hkind⟩ (List.forall_mem_singleton.mpr hunknown)
    have hmember : layout.Grows Schema.Named (.one .document)
        (.object ([("title".toList, .string [])] ++ ("body".toList, .object [content]) :: []))
        (.object ([("title".toList, .string [])] ++
          ("body".toList, .object [("\\u006bind".toList, skipped), content]) :: [])) :=
      .member rfl (.tail _ (.tail _ (.head _))) hbody hinsert
    exact hmember
  have ht : t.SpelledIn text := by
    have hinner : Tree.SpellsMember ("body".toList, .object [content]) "\"body\":\x7b\"content\":[]\x7d".toList :=
      .mk hbody.stringContent allBlank_nil allBlank_nil
        (.object (.cons allBlank_nil hspelledContent (.nil allBlank_nil)))
    exact ⟨[], _, [], by decide +kernel, allBlank_nil, .object (.cons allBlank_nil hspelledTitle
      (.cons allBlank_nil allBlank_nil hinner (.nil allBlank_nil))), allBlank_nil⟩
  have ht' : t'.SpelledIn text' := by
    have hspelledKind : Tree.SpellsMember ("\\u006bind".toList, skipped)
        "\"\\u006bind\":[1e999,\"]\\udc00\"]".toList :=
      .mk hkind.stringContent allBlank_nil allBlank_nil hskipped
    have hinner : Tree.SpellsMember ("body".toList, .object [("\\u006bind".toList, skipped), content])
        "\"body\":\x7b\"\\u006bind\":[1e999,\"]\\udc00\"],\"content\":[]\x7d".toList :=
      .mk hbody.stringContent allBlank_nil allBlank_nil (.object (.cons allBlank_nil hspelledKind
        (.cons allBlank_nil allBlank_nil hspelledContent (.nil allBlank_nil))))
    exact ⟨[], _, [], by decide +kernel, allBlank_nil, .object (.cons allBlank_nil hspelledTitle
      (.cons allBlank_nil allBlank_nil hinner (.nil allBlank_nil))), allBlank_nil⟩
  have htext : fromJson? text = .ok {} := by
    have hcompact : text = (toJson {}).compactText := by decide +kernel
    rw [hcompact]
    exact fromJson?_of_spelledIn (by simp [InBounds, indices, contentIndices]) (by decide +kernel)
      (spelledIn_compactText _)
  obtain ⟨s, hs, hgrown⟩ := fromJson?_of_grows htext
  obtain rfl := (hs t).mp ht
  exact ⟨htext, ht, hgrows, ht', hgrown t' text' hgrows ht'⟩

/-- The name of a new member is read, though nobody asked for it, so it has to be one. -/
theorem not_fromJson?_of_unnamedMember :
    let t := Tree.object []
    let t' := Tree.object [("\\ud800".toList, .null)]
    fromJson? "\x7b\x7d" = .ok {} ∧ t.SpelledIn "\x7b\x7d"
      ∧ layout.Grows StringContent (.one .document) t t' ∧ t'.SpelledIn "\x7b\"\\ud800\":null\x7d"
      ∧ ¬ ∃ d, fromJson? "\x7b\"\\ud800\":null\x7d" = .ok d := by
  intro t t'
  have ht : t.SpelledIn "\x7b\x7d" :=
    ⟨[], ['\x7b', '}'], [], by decide, allBlank_nil, .object (.nil allBlank_nil), allBlank_nil⟩
  have hdigits : HexNumber ['d', '8', '0', '0'] (((13 * 16 + 8) * 16 + 0) * 16 + 0) := .mk rfl rfl rfl rfl
  have hkey : StringContent "\\ud800".toList := .number hdigits .nil
  have hunnamed : ∀ name : String, ¬ Unescaped "\\ud800".toList name.toList := by
    intro name h
    have hread : readString ("\\ud800".toList ++ ['"']) = .ok (name, []) := readString_of_unescaped h []
    have hrefused : (readString ("\\ud800".toList ++ ['"'])).isOk = false := by decide +kernel
    rw [hread] at hrefused
    cases hrefused
  have hgrows : layout.Grows StringContent (.one .document) (.object ([] ++ []))
      (.object ([] ++ ("\\ud800".toList, .null) :: [])) := .insert rfl hkey fun m _ => hunnamed m.name
  refine ⟨?_, ht, hgrows, ?_, ?_⟩
  · have hread : layout.read .document "\x7b\x7d" = .ok (.record [.text "", .text "", emptyBody]) :=
      Schema.read_eq_ok_iff.mpr ⟨t, ht, Schema.holdsPart_succ.mpr (.object (.nil _) rfl)⟩
    rw [fromJson?, hread]
    rfl
  · have hmember : Tree.SpellsMember ("\\ud800".toList, .null) "\"\\ud800\":null".toList :=
      .mk hkey allBlank_nil allBlank_nil .null
    exact ⟨[], "\x7b\"\\ud800\":null\x7d".toList, [], by decide, allBlank_nil,
      .object (.cons allBlank_nil hmember (.nil allBlank_nil)), allBlank_nil⟩
  · rintro ⟨d, hd⟩
    have hrefused : (fromJson? "\x7b\"\\ud800\":null\x7d").isOk = false := by decide +kernel
    rw [hd] at hrefused
    cases hrefused

end DocMark.Document
