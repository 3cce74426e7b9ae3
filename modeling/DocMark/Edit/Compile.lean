-- SUMMARY: The compiler from Markdown trees to edit operations, as a recursion over the tree.
import DocMark.Edit.Builder

/-!
# Compiling without a stack

`compileNode` gives each node its own operations: the node's break if it has one, then its
children's operations with the cursor passed along, then its closing operation over the range
that starts where its children did and ends before the cursor that they leave. It states what
the event machine of `Builder` computes, with each range tied to its own node. What the range is
with and without text in it, `closedRange_of_lt` and `closedRange_self` say.
-/
namespace DocMark.Edit

open Document Markdown

/-- What a piece of the tree contributes: its operations and kinds without meaning, and the
    cursor after it. -/
structure Compiled where
  operations : List Operation
  unsupported : List String
  cursor : Nat
deriving DecidableEq, Inhabited, Repr

namespace Compiled

def nothing (cursor : Nat) : Compiled := ⟨[], [], cursor⟩

def insertion (text : String) (cursor : Nat) : Compiled :=
  ⟨[.insertText text cursor], [], cursor + Text.Utf16.length text⟩

/-- One piece, then another that starts at the cursor the first one leaves. -/
def andThen (a : Compiled) (f : Nat → Compiled) : Compiled :=
  let b := f a.cursor
  ⟨a.operations ++ b.operations, a.unsupported ++ b.unsupported, b.cursor⟩

/-- A piece followed by style operations, which leave the cursor where it is. -/
def andStyle (a : Compiled) (f : Nat → List Operation) : Compiled :=
  { a with operations := a.operations ++ f a.cursor }

end Compiled

def compileBreak (cursor : Nat) : Compiled := Compiled.insertion "\n" cursor

def compileBreakUnlessFirst (cursor : Nat) : Compiled :=
  if cursor > Builder.initialCursor then compileBreak cursor else Compiled.nothing cursor

mutual

def compileNode (options : BuildOptions) : Node → Nat → Compiled
  | .document cs, cursor => compileAll options cs cursor
  | .textBlock cs, cursor => compileAll options cs cursor
  | .heading level _ cs, cursor =>
    (compileBreakUnlessFirst cursor).andThen fun start =>
      (compileAll options cs start).andStyle fun stop =>
        [.setParagraphStyle (closedRange start stop) (NamedStyle.ofLevel level).name]
  | .paragraph cs, cursor =>
    (compileBreak cursor).andThen fun start =>
      (compileAll options cs start).andStyle fun stop =>
        [.setParagraphStyle (closedRange start stop) NamedStyle.normalText.name]
  | .list ordered _ items, cursor =>
    (compileBreakUnlessFirst cursor).andThen fun start =>
      (compileAll options items start).andStyle fun stop =>
        [.setBulletList (closedRange start stop) (options.preset ordered)]
  | .listItem cs, cursor => (compileBreak cursor).andThen fun c => compileAll options cs c
  | .link destination cs, cursor =>
    (compileAll options cs cursor).andStyle fun stop =>
      if stop - cursor = 0 then [] else [.setLink ⟨cursor, stop - 1⟩ destination]
  | .text content, cursor =>
    if content.isEmpty then Compiled.nothing cursor else Compiled.insertion content cursor
  | .other kind cs, cursor =>
    let inner := compileAll options cs cursor
    { inner with unsupported := kind :: inner.unsupported }

def compileAll (options : BuildOptions) : List Node → Nat → Compiled
  | [], cursor => Compiled.nothing cursor
  | n :: ns, cursor => (compileNode options n cursor).andThen fun c => compileAll options ns c

end

/-- The operations that write the tree into an empty document, compiled node by node. -/
def compile (root : Node) (options : BuildOptions := {}) : BuildOutput :=
  let c := compileNode options root Builder.initialCursor
  ⟨c.operations, c.unsupported, c.cursor⟩

end DocMark.Edit
