import NetBench.Text.Numeral
import NetBench.Toml.Scan

/-! The four forms of strings: basic and literal, each on one line or on several.
Each reader starts behind the opening mark. -/
namespace NetBench.Toml

/-- The code point that hexadecimal digits give, unless it is a surrogate or too large. -/
def scalar? (hex : List Char) : Option Char := do
  let n ← Text.number? 16 Text.hexDigit? hex
  if n < 0xD800 || (0xDFFF < n && n < 0x110000) then some (Char.ofNat n) else none

def isBasicChar (c : Char) : Bool := isCommentChar c && c ≠ '"' && c ≠ '\\'

def simpleEscape? : Char → Option Char
  | 'b' => some '\x08'
  | 't' => some '\t'
  | 'n' => some '\n'
  | 'f' => some '\x0C'
  | 'r' => some '\r'
  | '"' => some '"'
  | '\\' => some '\\'
  | _ => none

private def prepend (c : Char) : Option (List Char × List Char) → Option (List Char × List Char) :=
  Option.map fun (s, rest) => (c :: s, rest)

def basicBody : List Char → Option (List Char × List Char)
  | '"' :: cs => some ([], cs)
  | '\\' :: 'u' :: a :: b :: c :: d :: cs => do prepend (← scalar? [a, b, c, d]) (basicBody cs)
  | '\\' :: 'U' :: a :: b :: c :: d :: e :: f :: g :: h :: cs => do
    prepend (← scalar? [a, b, c, d, e, f, g, h]) (basicBody cs)
  | '\\' :: c :: cs => do prepend (← simpleEscape? c) (basicBody cs)
  | c :: cs => if isBasicChar c then prepend c (basicBody cs) else none
  | [] => none

/-- Whether a backslash here ends its line. -/
def continues (cs : List Char) : Bool :=
  match skipGap cs with
  | '\n' :: _ => true
  | '\r' :: '\n' :: _ => true
  | _ => false

/-- Several lines. Up to two quotation marks may stand before the closing three. While `trimming`,
after a backslash at the end of a line, blanks and line ends are left out. -/
def basicLines (trimming : Bool) : List Char → Option (List Char × List Char)
  | '"' :: '"' :: '"' :: '"' :: '"' :: cs => some (['"', '"'], cs)
  | '"' :: '"' :: '"' :: '"' :: cs => some (['"'], cs)
  | '"' :: '"' :: '"' :: cs => some ([], cs)
  | '"' :: cs => prepend '"' (basicLines false cs)
  | '\r' :: '\n' :: cs =>
    if trimming then basicLines true cs else prepend '\n' (basicLines false cs)
  | '\n' :: cs => if trimming then basicLines true cs else prepend '\n' (basicLines false cs)
  | '\\' :: 'u' :: a :: b :: c :: d :: cs => do
    prepend (← scalar? [a, b, c, d]) (basicLines false cs)
  | '\\' :: 'U' :: a :: b :: c :: d :: e :: f :: g :: h :: cs => do
    prepend (← scalar? [a, b, c, d, e, f, g, h]) (basicLines false cs)
  | '\\' :: c :: cs =>
    if continues (c :: cs) then basicLines true (c :: cs)
    else do prepend (← simpleEscape? c) (basicLines false cs)
  | c :: cs =>
    if trimming && isGap c then basicLines true cs
    else if isBasicChar c then prepend c (basicLines false cs) else none
  | [] => none

def isLiteralChar (c : Char) : Bool := isCommentChar c && c ≠ '\''

def literalBody : List Char → Option (List Char × List Char)
  | '\'' :: cs => some ([], cs)
  | c :: cs => if isLiteralChar c then prepend c (literalBody cs) else none
  | [] => none

def literalLines : List Char → Option (List Char × List Char)
  | '\'' :: '\'' :: '\'' :: '\'' :: '\'' :: cs => some (['\'', '\''], cs)
  | '\'' :: '\'' :: '\'' :: '\'' :: cs => some (['\''], cs)
  | '\'' :: '\'' :: '\'' :: cs => some ([], cs)
  | '\'' :: cs => prepend '\'' (literalLines cs)
  | '\r' :: '\n' :: cs => prepend '\n' (literalLines cs)
  | '\n' :: cs => prepend '\n' (literalLines cs)
  | c :: cs => if isLiteralChar c then prepend c (literalLines cs) else none
  | [] => none

/-- A line end right behind the opening marks does not count. -/
def dropFirstLineEnd : List Char → List Char
  | '\n' :: cs => cs
  | '\r' :: '\n' :: cs => cs
  | cs => cs

private def asString : Option (List Char × List Char) → Option (String × List Char) :=
  Option.map fun (s, rest) => (String.ofList s, rest)

def lineString : Scan String
  | '"' :: cs => asString (basicBody cs)
  | '\'' :: cs => asString (literalBody cs)
  | _ => none

def string : Scan String
  | '"' :: '"' :: '"' :: cs => asString (basicLines false (dropFirstLineEnd cs))
  | '\'' :: '\'' :: '\'' :: cs => asString (literalLines (dropFirstLineEnd cs))
  | cs => lineString cs

end NetBench.Toml
