/-! How deep an expression nests. Groups, repetitions and sets put what they hold one level deeper,
and so do the branches of a choice and the parts of a sequence, if there are several of them. -/
namespace NetBench.Launch.Pattern

/-- How deep parts nest: one alone stands for itself, several together are one deeper. -/
def together : List Nat → Nat
  | [] => 0
  | [depth] => depth
  | depths => depths.foldr max 0 + 1

def deepest : Nat := 250

/-- The depths of what was read inside of brackets or parentheses: of the parts of the branch that
is read, the last one first, and of the branches before it. -/
structure Nest where
  parts : List Nat := []
  branches : List Nat := []
  deriving DecidableEq, Repr

namespace Nest

def depth (n : Nest) : Nat := together (together n.parts :: n.branches)

def add (n : Nest) (part : Nat) : Nest := { n with parts := part :: n.parts }

def fork (n : Nest) : Nest := ⟨[], together n.parts :: n.branches⟩

/-- Begins another branch beside all that was read, which is one branch now. -/
def combine (n : Nest) : Nest := ⟨[], [n.depth]⟩

def wrap (n : Nest) : Nest := { n with parts := n.parts.modifyHead (· + 1) }

end Nest

end NetBench.Launch.Pattern
