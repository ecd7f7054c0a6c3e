import NetBench.Launch.Pattern.Set
import NetBench.Text.Letters

/-! Which texts are regular expressions. A filter compares the value of a field with one, and drops
a directive whose expression is none. -/
namespace NetBench.Launch.Pattern

/-- Where a reading stands: the modes and the nest here and around the open groups, whether
something is there to be repeated, and the names of groups so far. -/
structure State where
  modes : Modes := {}
  nest : Nest := {}
  outer : List (Modes × Nest) := []
  repeatable : Bool := false
  names : List (List Char) := []

namespace State

def enter (s : State) (modes : Modes) : State :=
  { s with modes, nest := {}, outer := (s.modes, s.nest) :: s.outer, repeatable := false }

def add (s : State) (part : Nat) : State :=
  { s with nest := s.nest.add part, repeatable := true }

/-- Names a group: a letter or an underscore first, then also numbers, dots and brackets. -/
def name? (s : State) (name : List Char) : Option State :=
  let starts := name.head?.any fun c => c = '_' || Text.isAlphabetic c
  let goesOn := (name.drop 1).all fun c => "_.[]".toList.contains c || Text.isAlphanumeric c
  if starts && goesOn && !s.names.contains name then
    some { s.enter s.modes with names := name :: s.names }
  else none

/-- What follows an opening parenthesis: flags alone, or the start of a group. -/
def group (s : State) (cs : List Char) : Option (State × List Char) :=
  let named (cs : List Char) : Option (State × List Char) :=
    match cs.span (· ≠ '>') with
    | (name, '>' :: rest) => (s.name? name).map (·, rest)
    | _ => none
  match s.modes.skip false cs with
  | '?' :: 'P' :: '<' :: cs => named cs
  | '?' :: '<' :: cs => named cs
  | '?' :: cs =>
    match cs.span fun c => c ≠ ':' && c ≠ ')' with
    | (flags, ':' :: rest) => (s.modes.set? flags).map fun m => (s.enter m, rest)
    | (flags, _ :: rest) =>
      if flags.isEmpty then none
      else (s.modes.set? flags).map fun modes =>
        ({ s.add 0 with modes, repeatable := false }, rest)
    | (_, []) => none
  | cs => some (s.enter s.modes, cs)

/-- Goes past what begins with `c`. A count in braces is never closed here, for a filter ends the
expression at the closing brace. -/
def step (s : State) (c : Char) (cs : List Char) : Option (State × List Char) :=
  let reads (a : Atom) (cs : List Char) : Option (State × List Char) :=
    if a.fits s.modes then some (s.add 0, cs) else none
  match c with
  | '(' => s.group cs
  | ')' =>
    match s.outer with
    | [] => none
    | (modes, nest) :: outer =>
      some ({ s with modes, nest, outer }.add (s.nest.depth + 1), cs)
  | '|' => some ({ s with nest := s.nest.fork, repeatable := false }, cs)
  | '?' | '*' | '+' =>
    if s.repeatable then
      some ({ s with nest := s.nest.wrap }, if cs.head? = some '?' then cs.drop 1 else cs)
    else none
  | '{' => none
  | '[' => do
    let (nest, cs) ← opening s.modes cs
    let (depth, rest) ← set s.modes (cs.length + 1) [] nest cs
    some (s.add depth, rest)
  | '\\' => do
    let (a, rest) ← escape s.modes cs
    reads a rest
  | '.' => if s.modes.wide then reads .place cs else none
  | '^' | '$' => reads .place cs
  | c => reads (.char c false) cs

/-- Reads on to the end, where no group is open and nothing nests too deep. -/
def accepts (s : State) : (fuel : Nat) → List Char → Bool
  | 0, _ => false
  | fuel + 1, cs =>
    match s.modes.skip false cs with
    | [] => s.outer.isEmpty && s.nest.depth ≤ deepest
    | c :: cs => (s.step c cs).any fun (s, cs) => s.accepts fuel cs

end State

/-- Whether a text is a regular expression. Every step goes past a character, so the fuel lasts. -/
def isPattern (s : List Char) : Bool := State.accepts {} (s.length + 1) s

end NetBench.Launch.Pattern
