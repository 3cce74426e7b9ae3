-- SUMMARY: A Markdown tree as the flat sequence of its nodes' enters and exits.
import DocMark.Markdown.Node

/-!
# Walks

`Node.walk` lists one `enter` and one `exit` per node: a node is entered before anything
below it and left after all of it. Text nodes have both events too.
-/
namespace DocMark.Markdown

inductive WalkEvent where
  | enter (node : Node)
  | exit (node : Node)
deriving Inhabited, Repr

namespace WalkEvent

def node : WalkEvent → Node
  | .enter n => n
  | .exit n => n

def isEnter : WalkEvent → Bool
  | .enter _ => true
  | .exit _ => false

/-- The event as a word, such as `enter:paragraph`. -/
def label (e : WalkEvent) : String :=
  (if e.isEnter then "enter:" else "exit:") ++ e.node.kind

end WalkEvent

namespace Node

mutual

def walk : Node → List WalkEvent
  | .document cs => .enter (.document cs) :: (walkAll cs ++ [.exit (.document cs)])
  | .heading level anchor cs =>
    .enter (.heading level anchor cs) :: (walkAll cs ++ [.exit (.heading level anchor cs)])
  | .paragraph cs => .enter (.paragraph cs) :: (walkAll cs ++ [.exit (.paragraph cs)])
  | .textBlock cs => .enter (.textBlock cs) :: (walkAll cs ++ [.exit (.textBlock cs)])
  | .text content => [.enter (.text content), .exit (.text content)]
  | .list ordered tight items =>
    .enter (.list ordered tight items) :: (walkAll items ++ [.exit (.list ordered tight items)])
  | .listItem cs => .enter (.listItem cs) :: (walkAll cs ++ [.exit (.listItem cs)])
  | .link destination cs =>
    .enter (.link destination cs) :: (walkAll cs ++ [.exit (.link destination cs)])
  | .other name cs => .enter (.other name cs) :: (walkAll cs ++ [.exit (.other name cs)])

def walkAll : List Node → List WalkEvent
  | [] => []
  | n :: ns => n.walk ++ walkAll ns

end

end Node

end DocMark.Markdown
