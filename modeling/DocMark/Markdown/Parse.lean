-- SUMMARY: Reading a Markdown text: from the characters, or the bytes, to the tree.
import DocMark.Markdown.BlockReader
import DocMark.Markdown.InlineReader
import DocMark.Markdown.Lower
import DocMark.Text.Utf8

/-!
# Reading Markdown

Blocks are read first, since link references may stand anywhere in the text; then the text of each
block is read with all of them at hand. Every text is Markdown; only bytes can be refused.
-/
namespace DocMark.Markdown

/-- What a block is in the syntax tree. -/
def Block.element (kind : BlockKind) (text : List Char) : Element :=
  match kind with
  | .document => .document
  | .quote => .blockQuote
  | .list marker tight => .list marker.isOrdered tight
  | .item _ => .item
  | .paragraph => .paragraph
  | .heading level _ => .heading level
  | .fenced _ _ _ => .codeBlock (String.ofList text)
  | .indentedCode => .codeBlock (String.ofList text)
  | .html _ => .htmlBlock (String.ofList text)
  | .thematicBreak => .thematicBreak
  | .table _ _ => .table
  | .tableRow => .tableRow
  | .tableCell => .tableCell

/-- Whether a block's text is inline Markdown. -/
def BlockKind.holdsInlines : BlockKind → Bool
  | .paragraph => true
  | .heading _ _ => true
  | .tableCell => true
  | _ => false

mutual

/-- The syntax tree of a block, given the link references of its document. -/
def Block.toAst (references : List Reference) : Block → Ast
  | .mk kind text _ children =>
    if kind.holdsInlines then .node (Block.element kind text) (readInlines references text)
    else .node (Block.element kind text) (toAstAll references children)

def toAstAll (references : List Reference) : List Block → List Ast
  | [] => []
  | b :: bs => b.toAst references :: toAstAll references bs

end

/-- The syntax tree of a text. -/
def readAst (source : String) : Ast :=
  let (document, references) := readBlocks source.toList
  document.toAst references

/-- The tree of a text. -/
def parse (source : String) : Node := (readAst source).toNode

/-- The tree of a text given as bytes. -/
def parseBytes (source : List UInt8) : Except Text.Utf8.Fault Node :=
  (Text.Utf8.decode source).map fun cs => parse (String.ofList cs)

/-- Why bytes are no Markdown. -/
def refusalMessage (fault : Text.Utf8.Fault) : String :=
  "Parse error: input is not valid UTF-8: " ++ fault.message

end DocMark.Markdown
