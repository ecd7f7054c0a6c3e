/-! Reading from the front of a text. A scan gives what it read and the text after it. -/
namespace NetBench.Toml

abbrev Scan (α : Type) : Type := List Char → Option (α × List Char)

/-- Repeats a scan until it fails, at most `n` times. -/
def Scan.upTo (item : Scan α) : Nat → List Char → List α × List Char
  | 0, cs => ([], cs)
  | n + 1, cs =>
    match item cs with
    | none => ([], cs)
    | some (a, rest) =>
      let (more, rest) := upTo item n rest
      (a :: more, rest)

/-- Repeats a scan until it fails. A scan that succeeds takes a character, so the length of the
text bounds the repetitions. -/
def Scan.many (item : Scan α) (cs : List Char) : List α × List Char := item.upTo cs.length cs

/-- Items with a separator between neighbours; a separator that no item follows is left. -/
def Scan.separated (sep : Char) (item : Scan α) (cs : List Char) : List α × List Char :=
  match item cs with
  | none => ([], cs)
  | some (a, rest) =>
    let next : Scan α
      | c :: cs => if c = sep then item cs else none
      | [] => none
    let (more, rest) := Scan.many next rest
    (a :: more, rest)

def isGap (c : Char) : Bool := c = ' ' || c = '\t'

def skipGap (cs : List Char) : List Char := cs.dropWhile isGap

def isCommentChar (c : Char) : Bool := c = '\t' || (' ' ≤ c && c ≠ '\x7F')

/-- The end of a line, with a comment before it allowed. The end of the text ends a line too. -/
def lineEnd (cs : List Char) : Option (List Char) :=
  let ended : List Char → Option (List Char)
    | [] => some []
    | '\n' :: cs => some cs
    | '\r' :: '\n' :: cs => some cs
    | _ => none
  match skipGap cs with
  | '#' :: cs => ended (cs.dropWhile isCommentChar)
  | cs => ended cs

/-- Blanks, line ends and comments, up to the next other character. -/
def skipVoid (inComment : Bool) : List Char → Option (List Char)
  | [] => if inComment then none else some []
  | '\n' :: cs => skipVoid false cs
  | '\r' :: '\n' :: cs => skipVoid false cs
  | c :: cs =>
    if inComment then (if isCommentChar c then skipVoid true cs else none)
    else if isGap c then skipVoid false cs
    else if c = '#' then skipVoid true cs
    else some (c :: cs)

end NetBench.Toml
