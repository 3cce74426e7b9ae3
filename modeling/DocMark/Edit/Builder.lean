-- SUMMARY: The compiler from Markdown trees to edit operations, as a machine over walk events.
import DocMark.Document.NamedStyle
import DocMark.Edit.Operation
import DocMark.Log
import DocMark.Markdown.Walk
import DocMark.Text.Utf16

/-!
# Building edit operations

The target document is written from front to back. A cursor, first at index `1`, tells where
the next character lands; only inserted text moves it. A block or link that styles what it
holds records the cursor on a stack when it is entered and closes the range when it is left.

| Node      | Enter                         | Exit                        |
|-----------|-------------------------------|-----------------------------|
| heading   | break unless first, open      | heading style               |
| paragraph | break, open                   | normal text style           |
| list      | break unless first, open      | bullets                     |
| list item | break                         |                             |
| link      | open                          | link, if text was inserted  |
| text      |                               | insert the text             |
| other     | note the kind                 |                             |

A break inserts a line feed. A range that holds no character is closed as its start alone.
-/
namespace DocMark.Edit

open Document Markdown

/-- The list presets that a build uses. -/
structure BuildOptions where
  bulletPreset : String := "BULLET_DISC_CIRCLE_SQUARE"
  numberedPreset : String := "NUMBERED_DECIMAL_ALPHA_ROMAN"
deriving DecidableEq, Inhabited, Repr

def BuildOptions.preset (options : BuildOptions) (ordered : Bool) : String :=
  if ordered then options.numberedPreset else options.bulletPreset

structure BuildOutput where
  operations : List Operation
  /-- The kinds of the nodes that have no meaning to the builder, in walk order. -/
  unsupported : List String
  /-- The cursor after the last operation. -/
  endCursor : Nat
deriving DecidableEq, Inhabited, Repr

/-- The range from `start` up to the character before `cursor`, or `start` alone. -/
def closedRange (start cursor : Nat) : StyleRange := ⟨start, max start (cursor - 1)⟩

/-- What was written since `start` ends before the cursor. -/
theorem closedRange_of_lt {start cursor : Nat} (h : start < cursor) :
    closedRange start cursor = ⟨start, cursor - 1⟩ := by
  rw [closedRange, Nat.max_eq_right (Nat.le_sub_one_of_lt h)]

/-- Where nothing was written the range is its start alone. -/
theorem closedRange_self (start : Nat) : closedRange start start = ⟨start, start⟩ := by
  rw [closedRange, Nat.max_eq_left (Nat.sub_le start 1)]

namespace Builder

def initialCursor : Nat := 1

structure State where
  cursor : Nat := initialCursor
  /-- The starts of the open ranges, innermost first. -/
  starts : List Nat := []
  operations : Array Operation := #[]
  unsupported : Array String := #[]
  log : Array Log.Event := #[]
deriving Inhabited, Repr

namespace State

def emit (s : State) (op : Operation) : State :=
  { s with
    operations := s.operations.push op
    log := s.log.push ⟨.debug, "emitted edit operation",
      [("index", .number (s.operations.size + 1)), ("operation", .text op.name),
       ("cursor", .number s.cursor)]⟩ }

def insert (s : State) (text : String) : State :=
  { s with cursor := s.cursor + Text.Utf16.length text }.emit (.insertText text s.cursor)

def openRange (s : State) : State := { s with starts := s.cursor :: s.starts }

/-- The innermost open start, and the state without it. Enters and exits balance, so the
    stack is never empty where this is used; the cursor stands in. -/
def popStart (s : State) : Nat × State :=
  match s.starts with
  | [] => (s.cursor, s)
  | start :: rest => (start, { s with starts := rest })

def closeRange (s : State) : StyleRange × State :=
  let (start, s) := s.popStart
  (closedRange start s.cursor, s)

/-- A break, except at the very beginning. -/
def breakUnlessFirst (s : State) : State :=
  if s.cursor > initialCursor then s.insert "\n" else s

def noteUnsupported (s : State) (kind : String) : State :=
  { s with
    unsupported := s.unsupported.push kind
    log := s.log.push ⟨.warn, "unsupported markdown node, no operations emitted",
      [("kind", .text kind), ("cursor", .number s.cursor)]⟩ }

def noteEmptyLink (s : State) (url : String) : State :=
  { s with log := s.log.push ⟨.debug, "link without visible text, skipped", [("url", .text url)]⟩ }

end State

def enter (s : State) : Node → State
  | .document _ => s
  | .textBlock _ => s
  | .text _ => s
  | .heading _ _ _ => s.breakUnlessFirst.openRange
  | .list _ _ _ => s.breakUnlessFirst.openRange
  | .paragraph _ => (s.insert "\n").openRange
  | .listItem _ => s.insert "\n"
  | .link _ _ => s.openRange
  | .other kind _ => s.noteUnsupported kind

def exit (options : BuildOptions) (s : State) : Node → State
  | .heading level _ _ =>
    let (range, s) := s.closeRange
    s.emit (.setParagraphStyle range (NamedStyle.ofLevel level).name)
  | .paragraph _ =>
    let (range, s) := s.closeRange
    s.emit (.setParagraphStyle range NamedStyle.normalText.name)
  | .text content => if content.isEmpty then s else s.insert content
  | .list ordered _ _ =>
    let (range, s) := s.closeRange
    s.emit (.setBulletList range (options.preset ordered))
  | .link destination _ =>
    let (start, s) := s.popStart
    if s.cursor - start = 0 then s.noteEmptyLink destination
    else s.emit (.setLink ⟨start, s.cursor - 1⟩ destination)
  | .document _ => s
  | .textBlock _ => s
  | .listItem _ => s
  | .other _ _ => s

def step (options : BuildOptions) (s : State) : WalkEvent → State
  | .enter n => enter s n
  | .exit n => exit options s n

def run (options : BuildOptions) (root : Node) : State :=
  root.walk.foldl (step options) {}

def State.output (s : State) : BuildOutput :=
  ⟨s.operations.toList, s.unsupported.toList, s.cursor⟩

end Builder

/-- The operations that write the tree into an empty document. -/
def build (root : Node) (options : BuildOptions := {}) : BuildOutput :=
  (Builder.run options root).output

/-- The log of building the tree. -/
def buildLog (root : Node) (options : BuildOptions := {}) : List Log.Event :=
  (Builder.run options root).log.toList

end DocMark.Edit
