-- SUMMARY: Reading the text of a block: code spans, raw HTML, links, emphasis and plain text.
import DocMark.Markdown.Autolink
import DocMark.Markdown.Emphasis
import DocMark.Markdown.Html
import DocMark.Markdown.Reference

/-!
# Reading inline text

Each step reads one construct at the front of the text and adds what it made to the pieces read
so far. An open bracket sets the pieces before it aside; when it is closed, the pieces after it
become the content of a link or an image, or are put back behind the bracket as text. Emphasis is
decided when a link is closed and at the end.
-/
namespace DocMark.Markdown

structure OpenBracket where
  isImage : Bool
  /-- The pieces before the bracket, the last one first. -/
  before : List Piece
  /-- The text after the bracket. -/
  start : List Char
  /-- Whether another bracket was opened after it. -/
  hasInner : Bool

/-- What has been read of a text. -/
structure InlineState where
  /-- The pieces since the innermost open bracket, the last one first. -/
  pieces : List Piece := []
  brackets : List OpenBracket := []
  /-- Whether a bracket may become a link. A link that was just made takes that from the brackets
      around it, and the next opening bracket gives it back. -/
  linksAllowed : Bool := false
  /-- Whether the last bracket was an opening one. -/
  inBrackets : Bool := false
  /-- Whether a comment was not closed; then nothing that begins with `<!` is looked for. -/
  commentOpen : Bool := false
  /-- Whether a processing instruction was not closed; then no other one is looked for. -/
  instructionOpen : Bool := false
  /-- Whether a code span was not closed. -/
  codeOpen : Bool := false
  /-- The runs of backticks met when looking for the end of a code span, the last one first: their
      length and how much of the text they begin. -/
  ticks : List (Nat × Nat) := []

namespace OpenBracket

def text (b : OpenBracket) : List Char := if b.isImage then ['!', '['] else ['[']

end OpenBracket

namespace InlineState

def push (s : InlineState) (p : Piece) : InlineState := { s with pieces := p :: s.pieces }

def pushText (s : InlineState) (cs : List Char) : InlineState := s.push (Piece.ofText cs)

def pushNode (s : InlineState) (a : Ast) : InlineState := s.push (.node a)

/-- The innermost bracket and what follows it as text. -/
def dropBracket (s : InlineState) : InlineState :=
  match s.brackets with
  | [] => s
  | b :: outer => { s with pieces := s.pieces ++ Piece.ofText b.text :: b.before, brackets := outer }

/-- All pieces in order, with open brackets as text. -/
def allPieces (s : InlineState) : List Piece :=
  (s.brackets.foldl (fun pieces b => pieces ++ Piece.ofText b.text :: b.before) s.pieces).reverse

end InlineState

/-- What one step gives: the state and the rest of the text. -/
abbrev InlineStep := InlineState × List Char

/-! ## Code spans -/

/-- The longest run of backticks that bounds a code span. -/
def maxTicks : Nat := 80

/-- The content of a code span: line ends are spaces, and one space is dropped on each side if both
    have one and there is anything else, be it a line end. -/
def codeText (cs : List Char) : List Char :=
  let flat := cs.map fun c => if c = '\n' then ' ' else c
  if cs.any (· != ' ') && flat.head? == some ' ' && flat.getLast? == some ' ' then
    (flat.drop 1).dropLast
  else flat

/-- Looks for a run of `length` backticks, where `run` have just been met and `content` is the text
    before them in reverse. Gives the content and the rest, and notes the runs that it met. -/
def closeCode (length : Nat) (ticks : List (Nat × Nat)) (run : Nat) (content : List Char) :
    List Char → Option (List Char × List Char) × List (Nat × Nat)
  | [] =>
    let ticks := if 0 < run then (run, run) :: ticks else ticks
    (if 0 < run ∧ run = length then some (content.reverse, []) else none, ticks)
  | c :: cs =>
    if c = '\x60' then closeCode length ticks (run + 1) content cs
    else if run = 0 then closeCode length ticks 0 (c :: content) cs
    else
      let ticks := (run, run + cs.length + 1) :: ticks
      if run = length then (some (content.reverse, c :: cs), ticks)
      else closeCode length ticks 0 (c :: List.replicate run '\x60' ++ content) cs

/-- Whether runs of this length are known to be used up before the rest of the text. -/
def InlineState.noTicksLeft (s : InlineState) (length : Nat) (rest : List Char) : Bool :=
  s.codeOpen && (s.ticks.lookup length).all (rest.length ≤ ·)

/-- A run of backticks, where `cs` follows the first one. -/
def readTicks (s : InlineState) (cs : List Char) : InlineStep :=
  let length := (cs.takeWhile (· == '\x60')).length + 1
  let rest := cs.dropWhile (· == '\x60')
  let literally := List.replicate length '\x60'
  if maxTicks < length || s.noTicksLeft length rest then (s.pushText literally, rest)
  else
    match closeCode length s.ticks 0 [] rest with
    | (some (content, rest), ticks) =>
      let code := String.ofList (codeText content)
      ({ s with ticks }.pushNode (.leaf (.code code)), rest)
    | (none, ticks) => ({ s with ticks, codeOpen := true }.pushText literally, rest)

/-! ## Line ends, escapes, references and angle brackets -/

/-- A line end; two spaces before it make it a break. -/
def readLineEnd (s : InlineState) (before cs : List Char) : InlineStep :=
  let element := match before with
    | ' ' :: ' ' :: _ => Element.lineBreak
    | _ => .softBreak
  (s.pushNode (.leaf element), cs.dropWhile isBlank)

def readBackslash (s : InlineState) : List Char → InlineStep
  | [] => (s.pushText ['\\'], [])
  | c :: cs =>
    if isEscapable c then (s.pushText [c], cs)
    else if c = '\n' then (s.pushNode (.leaf .lineBreak), cs)
    else (s.pushText ['\\'], c :: cs)

def readAmpersand (s : InlineState) (cs : List Char) : InlineStep :=
  match entity? cs with
  | some (text, rest) => (s.pushText text, rest)
  | none => (s.pushText ['&'], cs)

/-- Raw HTML after its angle bracket, unless an open comment or instruction rules it out. -/
def InlineState.afterHtml? (s : InlineState) (cs : List Char) : Option (List Char) :=
  if s.commentOpen && cs.head? == some '!' || s.instructionOpen && cs.head? == some '?' then none
  else Html.afterInline? cs

def readAngle (s : InlineState) (cs : List Char) : InlineStep :=
  match angleLink? cs with
  | some (link, rest) => (s.pushNode link, rest)
  | none =>
    match s.afterHtml? cs with
    | some rest =>
      let literal := '<' :: cs.take (cs.length - rest.length)
      (s.pushNode (.leaf (.htmlInline (String.ofList literal))), rest)
    | none =>
      let commentOpen := s.commentOpen || startsWith "!--".toList cs
      let instructionOpen := s.instructionOpen || startsWith ['?'] cs
      ({ s with commentOpen, instructionOpen }.pushText ['<'], cs)

/-! ## Addresses -/

/-- Drops so many characters of text from the end. -/
def dropText : Nat → List Piece → List Piece
  | n, .node (.node (.text s) []) :: pieces =>
    let kept := s.toList.take (s.length - n)
    if kept.isEmpty then dropText (n - s.length) pieces else Piece.ofText kept :: pieces
  | _, pieces => pieces

/-- A colon, which may belong to an address whose scheme has been read as text. -/
def readColon (s : InlineState) (before cs : List Char) : InlineStep :=
  match if s.inBrackets then none else webLink? before (':' :: cs) with
  | some (link, length, rest) =>
    ({ s with pieces := dropText length s.pieces }.pushNode link, rest)
  | none => (s.pushText [':'], cs)

/-- A `w`, which may begin an address. -/
def readW (s : InlineState) (before cs : List Char) : InlineStep :=
  match if s.inBrackets then none else wwwLink? before ('w' :: cs) with
  | some (link, rest) => (s.pushNode link, rest)
  | none => (s.pushText ['w'], cs)

/-! ## Brackets -/

def openBracket (s : InlineState) (isImage : Bool) (cs : List Char) : InlineStep :=
  let outer := match s.brackets with
    | [] => []
    | b :: bs => { b with hasInner := true } :: bs
  ({ s with
      pieces := []
      brackets := ⟨isImage, s.pieces, cs, false⟩ :: outer
      linksAllowed := s.linksAllowed || !isImage
      inBrackets := true }, cs)

/-- The label after a closing bracket and what follows it. A missing or empty one stands for the
    text in the brackets, unless that has brackets itself. -/
def referenceLabel? (b : OpenBracket) (rest : List Char) : Option (List Char × List Char) :=
  let inner := b.start.take (b.start.length - rest.length - 1)
  match label? rest with
  | some (label, after) =>
    if label.isEmpty && !b.hasInner then some (inner, after) else some (label, after)
  | none => if b.hasInner then none else some (inner, rest)

/-- Where a bracket that is closed before `rest` leads: destination, title and what follows. -/
def bracketTarget? (references : List Reference) (b : OpenBracket) (rest : List Char) :
    Option (List Char × List Char × List Char) :=
  let inline := match rest with
    | '(' :: cs => inlineTarget? cs
    | _ => none
  match inline with
  | some (url, title, rest) => some (cleanUrl url, cleanTitle title, rest)
  | none => do
    let (label, rest) ← referenceLabel? b rest
    let reference ← findReference? references label
    some (reference.url, reference.title, rest)

/-- A closing bracket, before `rest`. -/
def closeBracket (references : List Reference) (s : InlineState) (rest : List Char) : InlineStep :=
  let s := { s with inBrackets := false }
  match s.brackets with
  | [] => (s.pushText [']'], rest)
  | b :: outer =>
    let target :=
      if b.isImage || s.linksAllowed then bracketTarget? references b rest else none
    match target with
    | none => (s.dropBracket.pushText [']'], rest)
    | some (url, title, rest) =>
      let url := String.ofList url
      let title := String.ofList title
      let element := if b.isImage then Element.image url title else .link url title
      let node := Ast.node element (pairRuns s.pieces.reverse)
      ({ s with
          pieces := .node node :: b.before
          brackets := outer
          linksAllowed := s.linksAllowed && b.isImage }, rest)

/-! ## Plain text -/

/-- The characters that end a stretch of plain text. -/
def isSpecial (c : Char) : Bool := "\n_*\"\x60'\\&<[]!:w~".toList.contains c

/-- The characters that are always a text of their own at the start of a stretch. -/
def standsAlone (c : Char) : Bool := "'\"!.-$".toList.contains c

/-- A stretch of plain text. Spaces at its end are dropped before a line end, and those at its start
    after a line break. -/
def readText (s : InlineState) (cs : List Char) : InlineStep :=
  let text := cs.takeWhile fun c => !isSpecial c
  let rest := cs.dropWhile fun c => !isSpecial c
  let text := if rest.head? == some '\n' then trimSpaceEnd text else text
  let text := match s.pieces with
    | .node (.node .lineBreak []) :: _ => trimSpaceStart text
    | _ => text
  (if text.isEmpty then s else s.pushText text, rest)

/-- A run of emphasis marks. -/
def readMarks (s : InlineState) (mark : Char) (before cs : List Char) : InlineStep :=
  let length := (cs.takeWhile (· == mark)).length + 1
  let rest := cs.dropWhile (· == mark)
  let run := Run.ofMarks mark length before rest
  (if run.canOpen || run.canClose then s.push (.run run) else s.pushText run.text, rest)

/-! ## Whole texts -/

/-- Reads what begins with `c`, between `before`, which is in reverse, and `cs`. -/
def readInline (references : List Reference) (s : InlineState) (before : List Char) (c : Char)
    (cs : List Char) : InlineStep :=
  match c with
  | '\n' => readLineEnd s before cs
  | '\x60' => readTicks s cs
  | '\\' => readBackslash s cs
  | '&' => readAmpersand s cs
  | '<' => readAngle s cs
  | ':' => readColon s before cs
  | 'w' => readW s before cs
  | '[' => openBracket s false cs
  | ']' => closeBracket references s cs
  | _ =>
    if c = '*' ∨ c = '_' ∨ c = '~' then readMarks s c before cs
    else if c = '!' ∧ cs.head? = some '[' ∧ cs[1]? ≠ some '^' then openBracket s true (cs.drop 1)
    else if standsAlone c then (s.pushText [c], cs)
    else readText s (c :: cs)

/-- Reads a text to its end, after `before`; `fuel` bounds its length. -/
def readInlinesFrom (references : List Reference) :
    Nat → InlineState → List Char → List Char → InlineState
  | 0, s, _, _ => s
  | _ + 1, s, _, [] => s
  | fuel + 1, s, before, c :: cs =>
    let (s, rest) := readInline references s before c cs
    let taken := (c :: cs).take (cs.length + 1 - rest.length)
    readInlinesFrom references fuel s (taken.reverse ++ before) rest

/-- Texts that stand side by side, as one. -/
def joinTexts : List Ast → List Ast
  | .node (.text s) [] :: rest =>
    match joinTexts rest with
    | .node (.text t) [] :: rest => .leaf (.text (s ++ t)) :: rest
    | rest => .leaf (.text s) :: rest
  | a :: rest => a :: joinTexts rest
  | [] => []

/-- The e-mail addresses of a text as links. -/
def linkEmails : Ast → List Ast
  | .node (.text s) [] => splitEmails (s.length + 1) s.toList
  | a => [a]

def Element.isLink : Element → Bool
  | .link _ _ => true
  | .image _ _ => true
  | _ => false

mutual

/-- A node with texts joined and addresses linked below it. Links and images stay as they are. -/
def Ast.settle : Ast → Ast
  | .node e cs =>
    if e.isLink then .node e cs else .node e ((joinTexts (settleAll cs)).flatMap linkEmails)

def settleAll : List Ast → List Ast
  | [] => []
  | a :: rest => a.settle :: settleAll rest

end

/-- The nodes of a block's text. -/
def readInlines (references : List Reference) (text : List Char) : List Ast :=
  let text := trimSpaceEnd text
  let s := readInlinesFrom references text.length {} [] text
  (joinTexts (settleAll (pairRuns s.allPieces))).flatMap linkEmails

end DocMark.Markdown
