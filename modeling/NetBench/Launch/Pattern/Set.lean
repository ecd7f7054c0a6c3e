import NetBench.Launch.Pattern.Atom
import NetBench.Launch.Pattern.Nest

/-! Sets in square brackets: members, ranges, sets within sets, and what several sets have in common
or not. -/
namespace NetBench.Launch.Pattern

/-- How many dashes come first, and what follows them, with blanks and comments dropped where they
are skipped. -/
def dashes (m : Modes) (inComment : Bool) : List Char → Nat × List Char
  | [] => (0, [])
  | c :: cs =>
    if inComment then dashes m (c ≠ '\n') cs
    else if c = '-' then let (n, rest) := dashes m false cs; (n + 1, rest)
    else if m.spaced && Text.isBlank c then dashes m false cs
    else if m.spaced && c = '#' then dashes m true cs
    else (0, c :: cs)

/-- What stands between an opening bracket and the members of a set: a sign that inverts it, and
dashes or a closing bracket, which are members if they come at once. -/
def opening (m : Modes) (cs : List Char) : Option (Nest × List Char) :=
  let cs := m.skip false cs
  let inverted := cs.head? = some '^'
  let cs := if inverted then m.skip false (cs.drop 1) else cs
  let (nest, cs) : Nest × List Char :=
    match dashes m false cs with
    | (0, ']' :: rest) => (⟨[0], []⟩, rest)
    | (n, rest) => (⟨.replicate n 0, []⟩, rest)
  if inverted && !m.wide || m.foldsAll && nest ≠ {} then none else some (nest, cs)

def setNames : List String :=
  ["alnum", "alpha", "ascii", "blank", "cntrl", "digit", "graph", "lower", "print", "punct",
    "space", "upper", "word", "xdigit"]

/-- Reads a name between colons and the bracket behind it, and says whether the set is inverted. -/
def named? : List Char → Option (Bool × List Char)
  | ':' :: cs =>
    let inverted := cs.head? = some '^'
    let cs := if inverted then cs.drop 1 else cs
    let (name, rest) := cs.span (· ≠ ':')
    match rest with
    | ':' :: ']' :: rest =>
      if setNames.contains (String.ofList name) then some (inverted, rest) else none
    | _ => none
  | _ => none

def item (m : Modes) : List Char → Option (Atom × List Char)
  | [] => none
  | '\\' :: cs => escape m cs
  | c :: cs => some (.char c false, cs)

/-- The character behind a dash, which may be the first one of a comment. -/
def beyond (m : Modes) (cs : List Char) : Option Char :=
  if m.spaced then
    match cs.dropWhile Text.isBlank with
    | '#' :: cs => (cs.dropWhile Text.isBlank).head?
    | cs => cs.head?
  else cs.head?

/-- A member of a set, or a range. A dash before a closing bracket or before another dash makes no
range. -/
def member (m : Modes) (cs : List Char) : Option (List Char) := do
  let (a, cs) ← item m cs
  match m.skip false cs with
  | '-' :: after =>
    if beyond m after = some ']' || beyond m after = some '-' then
      if a.fitsSet m then some ('-' :: after) else none
    else
      let (b, cs) ← item m (m.skip false after)
      match a, b with
      | .char x _, .char y _ =>
        if a.fitsSet m && b.fitsSet m && x.toNat ≤ y.toNat then some cs else none
      | _, _ => none
  | rest => if a.fitsSet m then some rest else none

/-- Reads on in a set within others, to the end of the outermost one: how deep it nests, and the
rest. -/
def set (m : Modes) : (fuel : Nat) → (outer : List Nest) → Nest → List Char →
    Option (Nat × List Char)
  | 0, _, _, _ => none
  | fuel + 1, outer, nest, cs =>
    match m.skip false cs with
    | [] => none
    | '[' :: cs =>
      match named? cs with
      | some (inverted, cs) =>
        if inverted && !m.wide || m.foldsAll then none else set m fuel outer (nest.add 0) cs
      | none => do
        let (inner, cs) ← opening m cs
        set m fuel (nest :: outer) inner cs
    | ']' :: cs =>
      match outer with
      | [] => some (nest.depth + 1, cs)
      | around :: outer => set m fuel outer (around.add (nest.depth + 1)) cs
    | '&' :: '&' :: cs | '-' :: '-' :: cs | '~' :: '~' :: cs => set m fuel outer nest.combine cs
    | cs => do set m fuel outer (nest.add 0) (← member m cs)

end NetBench.Launch.Pattern
