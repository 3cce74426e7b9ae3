-- SUMMARY: From the syntax tree to the tree that is compiled: kinds without a meaning of their own keep their name.
import DocMark.Markdown.Anchor
import DocMark.Markdown.Ast
import DocMark.Markdown.Node

/-!
# From syntax trees to Markdown trees

`Ast.toNode` keeps the shape of a tree. Headings get their anchors in the order of the
document; a paragraph directly in an item of a tight list becomes a text block; a line end becomes
a space; code becomes a node with its text. Code blocks and raw HTML keep only their kind.
-/
namespace DocMark.Markdown

/-- The name under which an element is kept if the compiler gives it no meaning. -/
def Element.name : Element → String
  | .document => "document"
  | .blockQuote => "block_quote"
  | .list _ _ => "list"
  | .item => "list_item"
  | .paragraph => "paragraph"
  | .heading _ => "heading"
  | .codeBlock _ => "code_block"
  | .htmlBlock _ => "html_block"
  | .thematicBreak => "thematic_break"
  | .table => "table"
  | .tableRow => "table_row"
  | .tableCell => "table_cell"
  | .text _ => "text"
  | .softBreak => "soft_break"
  | .lineBreak => "line_break"
  | .code _ => "code"
  | .htmlInline _ => "html_inline"
  | .emphasis => "emph"
  | .strong => "strong"
  | .strikethrough => "strikethrough"
  | .link _ _ => "link"
  | .image _ _ => "image"

mutual

/-- The node of a tree, where `tight` says that the parent is an item of a tight list or that list
    itself, and `used` holds the anchors of earlier headings. Gives the anchors used after it too. -/
def Ast.lower (tight : Bool) (used : List String) : Ast → Node × List String
  | .node .document cs =>
    let (below, used) := lowerAll false used cs
    (.document below, used)
  | .node (.heading level) cs =>
    let (below, used) := lowerAll false used cs
    let anchor := freshAnchor used (slug (Node.plainTextAll below))
    (.heading level anchor below, anchor :: used)
  | .node .paragraph cs =>
    let (below, used) := lowerAll false used cs
    (if tight then .textBlock below else .paragraph below, used)
  | .node (.list ordered tightItems) cs =>
    let (items, used) := lowerAll tightItems used cs
    (.list ordered tightItems items, used)
  | .node .item cs =>
    let (below, used) := lowerAll tight used cs
    (.listItem below, used)
  | .node (.text content) _ => (.text content, used)
  | .node .softBreak _ => (.text " ", used)
  | .node .lineBreak _ => (.text " ", used)
  | .node (.code literal) _ => (.other "code" [.text literal], used)
  | .node (.link url _) cs =>
    let (below, used) := lowerAll false used cs
    (.link url below, used)
  | .node e cs =>
    let (below, used) := lowerAll false used cs
    (.other e.name below, used)

def lowerAll (tight : Bool) (used : List String) : List Ast → List Node × List String
  | [] => ([], used)
  | a :: rest =>
    let (n, used) := a.lower tight used
    let (ns, used) := lowerAll tight used rest
    (n :: ns, used)

end

/-- The tree of a document that the compiler reads. -/
def Ast.toNode (a : Ast) : Node := (a.lower false []).1

end DocMark.Markdown
