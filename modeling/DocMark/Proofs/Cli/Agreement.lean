-- SUMMARY: The requests for a Markdown file, its preview and the preview's Markdown describe one document.
import Mathlib
import DocMark.Proofs.Cli.Outcomes
import DocMark.Proofs.Edit.Acceptance
import DocMark.Proofs.Edit.Bracketing
import DocMark.Proofs.Edit.Wire
import DocMark.Proofs.Service.ExportedJson

/-!
# Agreement of the commands

The requests and the preview come from the same operations, which a new document accepts if both presets are
given. Under either policy the preview is the document that the requests make as one batch. The requests and
the preview are read back from the text that a run leaves, on the output or in a file, so nothing is lost from
one run to the next.
-/
namespace DocMark

-- ---------------------------------------------------------------------------
-- Indices of a build
-- ---------------------------------------------------------------------------

namespace Edit

theorem Operation.Closes.inBounds {start stop : Nat} {op : Operation} (h : op.Closes start stop)
    (hle : start ≤ stop) (hstop : stop < 2 ^ 64 - 1) : op.InBounds := by
  have hrange : (closedRange start stop).start < 2 ^ 64 ∧ (closedRange start stop).last < 2 ^ 64 - 1 := by
    simp only [closedRange]
    omega
  cases op with
  | insertText text index => cases h.range
  | setParagraphStyle range name | setBulletList range preset | setLink range url =>
    obtain rfl := Option.some.inj h.range
    exact hrange

/-- What is emitted up to a cursor has no index beyond it. -/
theorem Bracketed.inBounds {texts : String → Prop} {start stop : Nat} {operations : List Operation}
    (h : Bracketed texts start operations stop) (hstop : stop < 2 ^ 64 - 1) :
    ∀ op ∈ operations, op.InBounds := by
  induction h with
  | nothing => simp
  | @insertion cursor text hsome htext =>
    refine List.forall_mem_singleton.mpr ?_
    change cursor < 2 ^ 64
    omega
  | andThen hxs hys ihxs ihys =>
    exact List.forall_mem_append.mpr ⟨ihxs (hys.le.trans_lt hstop), ihys hstop⟩
  | closing hxs hop ih =>
    exact List.forall_mem_append.mpr
      ⟨ih hstop, List.forall_mem_singleton.mpr (hop.inBounds hxs.le hstop)⟩

end Edit

-- ---------------------------------------------------------------------------
-- What the commands compute
-- ---------------------------------------------------------------------------

namespace Cli

open Files (Store)
open Service (LocalDocument)

variable {command : ToDocument} {files : Store} {settings : Config.Settings}

theorem operationsOf_eq {source : String} (h : files.readText command.input = .ok source)
    (settings : Config.Settings) :
    operationsOf command settings files =
      .ok (Edit.build (Markdown.parse source) settings.convert.buildOptions).operations := by
  obtain ⟨bytes, hbytes, hdecode⟩ := Results.bind_eq_ok_iff.mp h
  cases hcs : Text.Utf8.decode bytes with
  | error fault =>
    rw [hcs] at hdecode
    cases hdecode
  | ok cs =>
    rw [hcs] at hdecode
    cases hdecode
    simp [operationsOf, hbytes, Markdown.parseBytes, hcs, Except.map]

/-- The empty document that the operations of a command go to. -/
def ToDocument.blank (command : ToDocument) (settings : Config.Settings) : LocalDocument :=
  .new command.documentId (command.title.getD settings.convert.defaultTitle)

/-- Under either policy the preview is what the operations make of the empty document. -/
theorem previewOf_eq {operations : List Edit.Operation} {made : LocalDocument}
    (h : (command.blank settings).carryOut operations = .ok made) :
    previewOf command settings operations = .ok made.toDocument := by
  obtain ⟨report, s, hsubmit, -, hdocument⟩ :
      ∃ report s, (command.blank settings).submit command.documentId operations settings.submit.toPolicy {}
        = (.ok report, s) ∧ _ :=
    LocalDocument.submit_of_ok settings.submit.toPolicy Service.Cancellation.neverCancelled_default h
  rw [ToDocument.blank] at hsubmit
  have hpreview : previewOf command settings operations = .ok s.document.toDocument := by
    simp only [previewOf, hsubmit]
  -- What an export shows does not depend on the revision.
  rw [hpreview, hdocument]
  rfl

section Runs

variable {operations : List Edit.Operation} {arguments : List String} {output : Option String}

theorem run_requests (hsettings : settingsOf command files = .ok settings)
    (hoperations : operationsOf command settings files = .ok operations)
    (h : readInvocation arguments = .ok (.toDocument { command with output, preview := false }))
    (hwritable : ∀ path ∈ output, files.Writable path) :
    (run arguments files).Leaves files (Edit.Batch.ofOperations operations).toJson.prettyText output := by
  have hdocument : documentOf { command with output, preview := false } files =
      .ok (Edit.Batch.ofOperations operations).toJson.prettyText := by
    change settingsOf { command with output, preview := false } files = _ at hsettings
    change operationsOf { command with output, preview := false } settings files = _ at hoperations
    simp [documentOf, hsettings, hoperations]
  rw [run_toDocument h, hdocument]
  exact leaves_deliver hwritable _

theorem run_preview {made : LocalDocument} (hsettings : settingsOf command files = .ok settings)
    (hoperations : operationsOf command settings files = .ok operations)
    (hmade : (command.blank settings).carryOut operations = .ok made)
    (h : readInvocation arguments = .ok (.toDocument { command with output, preview := true }))
    (hwritable : ∀ path ∈ output, files.Writable path) :
    (run arguments files).Leaves files made.toDocument.toJson.prettyText output := by
  have hdocument : documentOf { command with output, preview := true } files =
      .ok made.toDocument.toJson.prettyText := by
    have hpreview : previewOf { command with output, preview := true } settings operations =
        .ok made.toDocument := previewOf_eq hmade
    change settingsOf { command with output, preview := true } files = _ at hsettings
    change operationsOf { command with output, preview := true } settings files = _ at hoperations
    simp [documentOf, hsettings, hoperations, hpreview]
  rw [run_toDocument h, hdocument]
  exact leaves_deliver hwritable _

theorem run_render {toMarkdown : ToMarkdown} {text : String} {d : Document}
    (h : readInvocation arguments = .ok (.toMarkdown toMarkdown))
    (htext : files.readText toMarkdown.input = .ok text) (hd : Document.fromJson? text = .ok d)
    (hwritable : ∀ path ∈ toMarkdown.output, files.Writable path) :
    (run arguments files).Leaves files (Document.render d) toMarkdown.output := by
  have hmarkdown : markdownOf toMarkdown files = .ok (Document.render d) := by
    simp [markdownOf, htext, hd]
  rw [run_toMarkdown h, hmarkdown]
  exact leaves_deliver hwritable _

end Runs

/-- What a command writes spells the same value in a file and on the output. -/
theorem spelledIn_written {v : Json.Value} {text : String} (h : text ∈ [v.prettyText, v.prettyText ++ "\n"]) :
    Json.SpelledIn v text := by
  rcases List.mem_pair.mp h with rfl | rfl
  · exact Json.spelledIn_prettyText v
  · exact (Json.spelledIn_prettyText v).lineFeed

/-- The operations of a build make a document of the empty one, which is as long as their cursor says. -/
theorem exists_made (command : ToDocument) {settings : Config.Settings}
    (hbullet : settings.convert.bulletPreset ≠ "") (hnumbered : settings.convert.numberedPreset ≠ "")
    (root : Markdown.Node) :
    ∃ made, (command.blank settings).carryOut (Edit.build root settings.convert.buildOptions).operations
        = .ok made
      ∧ made.endIndex = (Edit.build root settings.convert.buildOptions).endCursor := by
  have hpresets (ordered : Bool) : settings.convert.buildOptions.preset ordered ≠ "" := by
    cases ordered
    · exact hbullet
    · exact hnumbered
  obtain ⟨made, hmade, -, hend⟩ := (LocalDocument.consistent_new _ _).carryOut_build root
    settings.convert.buildOptions fun ordered _ => hpresets ordered
  refine ⟨made, hmade, hend.trans ?_⟩
  exact Nat.add_sub_cancel' (Edit.bracketed_build root settings.convert.buildOptions).le

/-- A command that asks for requests ends well and leaves them on the output, or in its file if that can be
    written. The text that it leaves is read back as a batch. As one batch the requests make a document of the
    empty one, and the same command leaves that document if it asks for a preview. Every command that renders
    the text which this leaves ends well too, and leaves the Markdown of the document. -/
theorem run_agree {source : String} (hsource : files.readText command.input = .ok source)
    (hsettings : settingsOf command files = .ok settings) (hbullet : settings.convert.bulletPreset ≠ "")
    (hnumbered : settings.convert.numberedPreset ≠ "")
    (hend : (Edit.build (Markdown.parse source) settings.convert.buildOptions).endCursor < 2 ^ 64 - 1) :
    ∃ (requests : String) (batch : Edit.Batch) (made : LocalDocument),
      (∀ arguments output,
          readInvocation arguments = .ok (.toDocument { command with output, preview := false }) →
          (∀ path ∈ output, files.Writable path) →
          (run arguments files).Leaves files requests output
            ∧ ∃ text, (run arguments files).textLeft output = .ok text
              ∧ Edit.Batch.fromJson? text = .ok batch)
        ∧ (command.blank settings).update command.documentId batch.requests = .ok made
        ∧ ∀ arguments output,
          readInvocation arguments = .ok (.toDocument { command with output, preview := true }) →
          (∀ path ∈ output, files.Writable path) →
          (run arguments files).Leaves files made.toDocument.toJson.prettyText output
            ∧ ∃ text, (run arguments files).textLeft output = .ok text
              ∧ ∀ rendering toMarkdown later,
                readInvocation rendering = .ok (.toMarkdown toMarkdown) →
                later.readText toMarkdown.input = .ok text →
                (∀ path ∈ toMarkdown.output, later.Writable path) →
                (run rendering later).Leaves later (Document.render made.toDocument) toMarkdown.output := by
  have hoperations := operationsOf_eq hsource settings
  have hbracketed := Edit.bracketed_build (Markdown.parse source) settings.convert.buildOptions
  obtain ⟨carried, hcarried, hlength⟩ := exists_made command hbullet hnumbered (Markdown.parse source)
  generalize Edit.build (Markdown.parse source) settings.convert.buildOptions = built at *
  let made : LocalDocument := { carried with revision := 1 }
  have hupdate : (command.blank settings).update command.documentId
      (Edit.Batch.ofOperations built.operations).requests = .ok made := LocalDocument.update_of_ok hcarried
  have hreachable : made.Reachable := by
    have hperform := LocalDocument.Reachable.perform
      (.update command.documentId (Edit.Batch.ofOperations built.operations).requests)
      (.new command.documentId (command.title.getD settings.convert.defaultTitle))
    rwa [LocalDocument.perform, ← ToDocument.blank, hupdate] at hperform
  have hpreview : carried.toDocument = made.toDocument := rfl
  have hindices := Edit.Batch.inBounds_ofOperations (hbracketed.inBounds hend)
  refine ⟨(Edit.Batch.ofOperations built.operations).toJson.prettyText,
    Edit.Batch.ofOperations built.operations, made, fun arguments output h hwritable => ?_, hupdate,
    fun arguments output h hwritable => ?_⟩
  · have hleaves := run_requests hsettings hoperations h hwritable
    obtain ⟨text, htext, hleft⟩ := hleaves.delivered.exists_textLeft
    exact ⟨hleaves, text, hleft, Edit.Batch.fromJson?_of_spelledIn hindices (spelledIn_written htext)⟩
  · have hleaves := run_preview hsettings hoperations hcarried h hwritable
    rw [hpreview] at hleaves
    obtain ⟨text, htext, hleft⟩ := hleaves.delivered.exists_textLeft
    refine ⟨hleaves, text, hleft, fun _ _ _ hrendering hread hlater => run_render hrendering hread ?_ hlater⟩
    exact hreachable.fromJson?_toDocument (hlength.trans_lt hend) (spelledIn_written htext)

/-- A file with nested lists and a link, submitted one operation at a time, with the preview in a file. -/
theorem run_agree_sequential :
    let source := "# T\n\n- a\n  1. [b](u)\n"
    let files : Store := ⟨[("a.md", Text.Utf8.encode source.toList),
      ("docsmd.toml", Text.Utf8.encode "submit.policy = 'sequential'\n".toList)], []⟩
    let command : ToDocument := { input := "a.md", documentId := "d", title := some "x", delayMs := some 3 }
    let arguments := ["to-doc", "a.md", "--doc", "d", "--title=x", "--delay-ms", "3"]
    let plain := run arguments files
    let previewed := run (arguments ++ ["--preview", "-op.json"]) files
    ∃ settings, files.readText "a.md" = .ok source ∧ settingsOf command files = .ok settings
      ∧ settings.convert.bulletPreset ≠ "" ∧ settings.convert.numberedPreset ≠ ""
      ∧ (Edit.build (Markdown.parse source) settings.convert.buildOptions).endCursor < 2 ^ 64 - 1
      ∧ files.Writable "p.json"
      ∧ ∃ requests batch made, plain.Leaves files requests none
        ∧ Edit.Batch.fromJson? plain.output = .ok batch
        ∧ (command.blank settings).update "d" batch.requests = .ok made
        ∧ previewed.Leaves files made.toDocument.toJson.prettyText (some "p.json")
        ∧ (run ["to-md", "p.json"] previewed.files).Leaves previewed.files
          (Document.render made.toDocument) none := by
  intro source files command arguments plain previewed
  have hsource : files.readText "a.md" = .ok source := by decide +kernel
  have hsettings : settingsOf command files =
      .ok ⟨⟨"BULLET_DISC_CIRCLE_SQUARE", "NUMBERED_DECIMAL_ALPHA_ROMAN", "Untitled"⟩,
        ⟨.sequential, 3⟩⟩ := by
    decide +kernel
  have hend : (Edit.build (Markdown.parse source) {}).endCursor < 2 ^ 64 - 1 := by decide +kernel
  have hwritable : files.Writable "p.json" :=
    ⟨[], { files with files := files.files ++ [("p.json", [])] }, by decide +kernel⟩
  obtain ⟨requests, batch, made, hrequests, hmade, hpreview⟩ :=
    run_agree hsource hsettings (by decide) (by decide) hend
  obtain ⟨hplain, text, htext, hbatch⟩ := hrequests arguments none (by decide +kernel) (by simp)
  obtain ⟨hpreviewed, shown, hshown, hrender⟩ :=
    hpreview (arguments ++ ["--preview", "-op.json"]) (some "p.json") (by decide +kernel)
      (by simpa using hwritable)
  obtain rfl : plain.output = text := Except.ok.inj htext
  exact ⟨_, hsource, hsettings, by decide, by decide, hend, hwritable, requests, batch, made, hplain, hbatch,
    hmade, hpreviewed,
    hrender ["to-md", "p.json"] ⟨"p.json", none⟩ previewed.files (by decide +kernel) hshown (by simp)⟩

end Cli

end DocMark
