-- SUMMARY: What a run leaves behind: nothing if it fails, and its result in one place if it ends well.
import Mathlib
import DocMark.Cli.Run
import DocMark.Proofs.Files.Store

/-!
# Outcomes of runs

Every step of a run before the last one only reads. The last one puts the result on the output or writes one
file, and does neither if that file cannot be written.
-/
namespace DocMark.Cli

open Files (Store)

/-- What is left by a run with a result: the result on the output and the files as they were, or nothing on
    the output and one file written. -/
inductive Delivered (files : Store) (result : String) : Option String → Outcome → Prop where
  | onOutput {o : Outcome} (houtput : o.output = result ++ "\n") (hfiles : o.files = files) :
      Delivered files result none o
  | inFile {path : String} {o : Outcome} (houtput : o.output = "")
      (hfiles : files.Wrote path (Text.Utf8.encode result.toList) o.files)
      (htext : o.files.readText path = .ok result) : Delivered files result (some path) o

/-- Nothing is left by a run. -/
def Outcome.LeavesNothing (o : Outcome) (files : Store) : Prop := o.output = "" ∧ o.files = files

/-- A run ends well and leaves its result where it was asked for, and nothing else. -/
structure Outcome.Leaves (o : Outcome) (files : Store) (result : String) (output : Option String) : Prop where
  succeeds : o.status = 0
  delivered : Delivered files result output o

/-- The text that a run leaves: what is on the output, or what the file holds that was asked for. -/
def Outcome.textLeft (o : Outcome) : Option String → Except Files.Fault String
  | none => .ok o.output
  | some path => o.files.readText path

/-- On the output a line feed stands behind the result. -/
theorem Delivered.exists_textLeft {files : Store} {result : String} {output : Option String} {o : Outcome}
    (h : Delivered files result output o) :
    ∃ text ∈ [result, result ++ "\n"], o.textLeft output = .ok text := by
  cases h with
  | onOutput houtput _ => exact ⟨_, by simp, congrArg Except.ok houtput⟩
  | inFile _ _ htext => exact ⟨result, by simp, htext⟩

variable {files : Store} {output : Option String}

theorem deliver_cases (files : Store) (output : Option String) (result : String) :
    (deliver files output result).status = 0 ∧ Delivered files result output (deliver files output result)
      ∨ (deliver files output result).status ≠ 0
        ∧ (deliver files output result).LeavesNothing files := by
  cases output with
  | none => exact .inl ⟨rfl, .onOutput rfl rfl⟩
  | some path =>
    rw [deliver]
    cases hwrite : files.write path (Text.Utf8.encode result.toList) with
    | ok written =>
      have hwrote := Store.wrote_of_write hwrite
      exact .inl ⟨rfl, .inFile rfl hwrote hwrote.readText_eq⟩
    | error fault => exact .inr ⟨Nat.one_ne_zero, rfl, rfl⟩

/-- A result is left on the output, and in a file that can be written. -/
theorem leaves_deliver (hwritable : ∀ path ∈ output, files.Writable path) (result : String) :
    (deliver files output result).Leaves files result output := by
  have hstatus : (deliver files output result).status = 0 := by
    cases output with
    | none => rfl
    | some path =>
      obtain ⟨written, hwrite⟩ := (hwritable path rfl).exists_write (Text.Utf8.encode result.toList)
      simp only [deliver, hwrite]
  exact ⟨hstatus, ((deliver_cases files output result).resolve_right fun h => h.1 hstatus).2⟩

theorem conclude_leavesNothing {r : Except Complaint String}
    (h : (conclude files output r).status ≠ 0) : (conclude files output r).LeavesNothing files := by
  cases r with
  | error complaint => exact ⟨rfl, rfl⟩
  | ok result => exact ((deliver_cases files output result).resolve_left fun hd => h hd.1).2

theorem conclude_delivered {r : Except Complaint String} (h : (conclude files output r).status = 0) :
    ∃ result, r = .ok result ∧ Delivered files result output (conclude files output r) := by
  cases r with
  | error complaint => cases h
  | ok result =>
    exact ⟨result, rfl, ((deliver_cases files output result).resolve_right fun hd => hd.1 h).2⟩

theorem run_toMarkdown {arguments : List String} {command : ToMarkdown}
    (h : readInvocation arguments = .ok (.toMarkdown command)) (files : Store) :
    run arguments files = conclude files command.output (markdownOf command files) := by
  rw [run, h]

theorem run_toDocument {arguments : List String} {command : ToDocument}
    (h : readInvocation arguments = .ok (.toDocument command)) (files : Store) :
    run arguments files = conclude files command.output (documentOf command files) := by
  rw [run, h]

/-- A run that fails leaves nothing. A conversion that ends well has a result, and leaves it where it was
    asked for and nowhere else. -/
theorem run_clean (arguments : List String) (files : Store) :
    ((run arguments files).status ≠ 0 →
        (run arguments files).output = "" ∧ (run arguments files).files = files)
      ∧ (∀ command, readInvocation arguments = .ok (.toMarkdown command) →
          (run arguments files).status = 0 → ∃ result, markdownOf command files = .ok result
            ∧ Delivered files result command.output (run arguments files))
      ∧ ∀ command, readInvocation arguments = .ok (.toDocument command) →
          (run arguments files).status = 0 → ∃ result, documentOf command files = .ok result
            ∧ Delivered files result command.output (run arguments files) := by
  refine ⟨fun hstatus => ?_, fun command hcommand hstatus => ?_, fun command hcommand hstatus => ?_⟩
  · unfold run at hstatus ⊢
    split at hstatus
    · exact ⟨rfl, rfl⟩
    · exact absurd rfl hstatus
    · exact absurd rfl hstatus
    · exact conclude_leavesNothing hstatus
    · exact conclude_leavesNothing hstatus
  · rw [run_toMarkdown hcommand] at hstatus ⊢
    exact conclude_delivered hstatus
  · rw [run_toDocument hcommand] at hstatus ⊢
    exact conclude_delivered hstatus

/-- A document rendered over its own file, Markdown converted to the output, and a result that cannot be
    written. -/
theorem run_clean_overInput :
    let files : Store := ⟨[("d.json", Text.Utf8.encode "{}".toList), ("a.md", [])], ["dir"]⟩
    let overInput := ["to-md", "d.json", "-o", "dir/../d.json"]
    let refused := ["to-md", "d.json", "-o", "dir/"]
    readInvocation overInput = .ok (.toMarkdown ⟨"d.json", some "dir/../d.json"⟩)
      ∧ (∃ result, markdownOf ⟨"d.json", some "dir/../d.json"⟩ files = .ok result
        ∧ Delivered files result (some "dir/../d.json") (run overInput files))
      ∧ (∃ result, documentOf { input := "a.md" } files = .ok result
        ∧ Delivered files result none (run ["to-doc", "a.md"] files))
      ∧ (run refused files).status = 1
      ∧ (run refused files).output = "" ∧ (run refused files).files = files := by
  intro files overInput refused
  have hover : readInvocation overInput = .ok (.toMarkdown ⟨"d.json", some "dir/../d.json"⟩) := by
    decide +kernel
  have hdoc : readInvocation ["to-doc", "a.md"] = .ok (.toDocument { input := "a.md" }) := by
    decide +kernel
  have hrefused : (run refused files).status = 1 := by decide +kernel
  exact ⟨hover, (run_clean overInput files).2.1 _ hover (by decide +kernel),
    (run_clean _ files).2.2 _ hdoc (by decide +kernel), hrefused,
    (run_clean refused files).1 (by rw [hrefused]; exact Nat.one_ne_zero)⟩

end DocMark.Cli
