-- SUMMARY: The tree of a Markdown document: the kinds the compiler knows, and every other kind by its name.

/-!
# Markdown trees

`Node` is the tree that the compiler reads. Kinds it gives no meaning to are kept as
`other`, so that a traversal still reaches the text below them. `plainText` is the text
of a tree and `headingAnchors` lists its headings, both in document order.
-/
namespace DocMark.Markdown

inductive Node where
  | document (children : List Node)
  | heading (level : Nat) (anchor : String) (children : List Node)
  | paragraph (children : List Node)
  /-- The text of a tight list item, which makes no paragraph of its own. -/
  | textBlock (children : List Node)
  | text (content : String)
  | list (ordered tight : Bool) (items : List Node)
  | listItem (children : List Node)
  | link (destination : String) (children : List Node)
  | other (name : String) (children : List Node)
deriving Inhabited, Repr

namespace Node

def children : Node → List Node
  | .document cs => cs
  | .heading _ _ cs => cs
  | .paragraph cs => cs
  | .textBlock cs => cs
  | .text _ => []
  | .list _ _ items => items
  | .listItem cs => cs
  | .link _ cs => cs
  | .other _ cs => cs

def kind : Node → String
  | .document _ => "document"
  | .heading _ _ _ => "heading"
  | .paragraph _ => "paragraph"
  | .textBlock _ => "text_block"
  | .text _ => "text"
  | .list _ _ _ => "list"
  | .listItem _ => "list_item"
  | .link _ _ => "link"
  | .other name _ => name

mutual

/-- The text of all text nodes, joined. -/
def plainText : Node → String
  | .document cs => plainTextAll cs
  | .heading _ _ cs => plainTextAll cs
  | .paragraph cs => plainTextAll cs
  | .textBlock cs => plainTextAll cs
  | .text content => content
  | .list _ _ items => plainTextAll items
  | .listItem cs => plainTextAll cs
  | .link _ cs => plainTextAll cs
  | .other _ cs => plainTextAll cs

def plainTextAll : List Node → String
  | [] => ""
  | n :: ns => n.plainText ++ plainTextAll ns

end

mutual

/-- The anchors of all headings; a heading comes before those below it. -/
def headingAnchors : Node → List String
  | .document cs => headingAnchorsAll cs
  | .heading _ anchor cs => anchor :: headingAnchorsAll cs
  | .paragraph cs => headingAnchorsAll cs
  | .textBlock cs => headingAnchorsAll cs
  | .text _ => []
  | .list _ _ items => headingAnchorsAll items
  | .listItem cs => headingAnchorsAll cs
  | .link _ cs => headingAnchorsAll cs
  | .other _ cs => headingAnchorsAll cs

def headingAnchorsAll : List Node → List String
  | [] => []
  | n :: ns => n.headingAnchors ++ headingAnchorsAll ns

end

end Node

end DocMark.Markdown
