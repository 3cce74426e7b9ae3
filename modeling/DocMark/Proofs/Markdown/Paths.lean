-- SUMMARY: Paths into trees: where they lead, what lies above that place, and the subtrees that they reach.
import Mathlib
import DocMark.Markdown.Ast
import DocMark.Markdown.Node

/-!
# Paths

Two parts of a tree may be alike, so a part is told from all others by the path that leads to it from the root. A
path says at each step which child to take. It leads to the same place in a syntax tree and in
the Markdown tree made of it if every step keeps the order of the children.
-/
namespace DocMark.Markdown

/-! ## Following a path -/

section Follow

variable {α : Type} (children : α → List α)

/-- Where a path leads from a tree, if it does not leave it. -/
def follow : α → List Nat → Option α
  | a, [] => some a
  | a, i :: path => (children a)[i]?.bind fun c => follow c path

theorem follow_cons_eq_some_iff {a b : α} {i : Nat} {path : List Nat} :
    follow children a (i :: path) = some b ↔
      ∃ c, (children a)[i]? = some c ∧ follow children c path = some b :=
  Option.bind_eq_some_iff

theorem follow_concat (a : α) (path : List Nat) (i : Nat) :
    follow children a (path ++ [i]) = (follow children a path).bind fun b => (children b)[i]? := by
  induction path generalizing a with
  | nil =>
    cases h : (children a)[i]? <;> simp [follow, h]
  | cons j path ih =>
    cases h : (children a)[j]? with
    | none => simp [follow, h]
    | some c => simpa [follow, h] using ih c

end Follow

/-- The subtree that a path leads to. -/
def Ast.atPath? (a : Ast) (path : List Nat) : Option Ast := follow Ast.children a path

/-- The node that a path leads to. -/
def Node.atPath? (n : Node) (path : List Nat) : Option Node := follow Node.children n path

namespace Ast

/-! ## What lies above a place -/

/-- The elements above the place that a path leads to, the nearest one first. -/
def ancestors : Ast → List Nat → List Element
  | _, [] => []
  | a, i :: path => a.children[i]?.elim [] (fun c => c.ancestors path) ++ [a.element]

theorem ancestors_cons {a c : Ast} {i : Nat} (hc : a.children[i]? = some c) (path : List Nat) :
    a.ancestors (i :: path) = c.ancestors path ++ [a.element] := by
  simp [ancestors, hc]

theorem ancestors_concat {a b : Ast} {path : List Nat} (hb : a.atPath? path = some b) (i : Nat) :
    a.ancestors (path ++ [i]) = b.element :: a.ancestors path := by
  induction path generalizing a with
  | nil =>
    obtain rfl := Option.some_injective _ hb
    cases h : a.children[i]? <;> simp [ancestors, h]
  | cons j path ih =>
    obtain ⟨c, hc, hb⟩ := (follow_cons_eq_some_iff _).mp hb
    rw [List.cons_append, ancestors_cons hc, ancestors_cons hc, ih hb, List.cons_append]

/-- The nearest element above a place is that of the parent. -/
theorem exists_parent {a b : Ast} {path : List Nat} {e : Element} {above : List Element}
    (hb : a.atPath? path = some b) (h : a.ancestors path = e :: above) :
    ∃ parent p, a.atPath? parent = some p ∧ p.element = e ∧ b ∈ p.children ∧ a.ancestors parent = above := by
  rcases List.eq_nil_or_concat' path with rfl | ⟨parent, i, rfl⟩
  · cases h
  · rw [atPath?, follow_concat] at hb
    obtain ⟨p, hp, hi⟩ := Option.bind_eq_some_iff.mp hb
    rw [ancestors_concat hp] at h
    obtain ⟨he, habove⟩ := List.cons_eq_cons.mp h
    exact ⟨parent, p, hp, he, List.mem_of_getElem? hi, habove⟩

/-- Only the root has nothing above it. -/
theorem eq_root_of_ancestors_eq_nil {a b : Ast} {path : List Nat} (hb : a.atPath? path = some b)
    (h : a.ancestors path = []) : b = a := by
  cases path with
  | nil => exact (Option.some_injective _ hb).symm
  | cons i path => simp [ancestors] at h

/-! ## Subtrees -/

mutual

/-- The tree itself and all trees below it, in document order. -/
def subtrees : Ast → List Ast
  | .node e cs => .node e cs :: subtreesAll cs

def subtreesAll : List Ast → List Ast
  | [] => []
  | a :: rest => a.subtrees ++ subtreesAll rest

end

theorem mem_subtreesAll_iff {b : Ast} {as : List Ast} : b ∈ subtreesAll as ↔ ∃ a ∈ as, b ∈ a.subtrees := by
  induction as with
  | nil => simp [subtreesAll]
  | cons a rest ih => simp [subtreesAll, ih]

theorem mem_subtrees_iff {a b : Ast} : b ∈ a.subtrees ↔ b = a ∨ ∃ c ∈ a.children, b ∈ c.subtrees := by
  cases a with
  | node e cs => rw [subtrees, List.mem_cons, mem_subtreesAll_iff, children]

theorem mem_subtrees_self (a : Ast) : a ∈ a.subtrees := mem_subtrees_iff.mpr (.inl rfl)

theorem mem_subtrees_of_atPath? {a b : Ast} {path : List Nat} (hb : a.atPath? path = some b) :
    b ∈ a.subtrees := by
  induction path generalizing a with
  | nil =>
    obtain rfl := Option.some_injective _ hb
    exact mem_subtrees_self _
  | cons i path ih =>
    obtain ⟨c, hc, hb⟩ := (follow_cons_eq_some_iff _).mp hb
    exact mem_subtrees_iff.mpr (.inr ⟨c, List.mem_of_getElem? hc, ih hb⟩)

end Ast

end DocMark.Markdown
