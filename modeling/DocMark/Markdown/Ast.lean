-- SUMMARY: The syntax tree of a Markdown text, with a kind for every construct of the language.

/-!
# Syntax trees

`Ast` is what reading a Markdown text gives, before anything is left out of it: every construct
has its kind, and leaves keep the text they were written with.
-/
namespace DocMark.Markdown

inductive Element where
  | document
  | blockQuote
  | list (ordered tight : Bool)
  | item
  | paragraph
  | heading (level : Nat)
  | codeBlock (literal : String)
  | htmlBlock (literal : String)
  | thematicBreak
  | table
  | tableRow
  | tableCell
  | text (content : String)
  | softBreak
  | lineBreak
  | code (literal : String)
  | htmlInline (literal : String)
  | emphasis
  | strong
  | strikethrough
  | link (url title : String)
  | image (url title : String)
deriving DecidableEq, Inhabited, Repr

inductive Ast where
  | node (element : Element) (children : List Ast)
deriving Inhabited, Repr

namespace Ast

def element : Ast → Element
  | .node e _ => e

def children : Ast → List Ast
  | .node _ cs => cs

def leaf (e : Element) : Ast := .node e []

def text (content : List Char) : Ast := leaf (.text (String.ofList content))

end Ast

end DocMark.Markdown
