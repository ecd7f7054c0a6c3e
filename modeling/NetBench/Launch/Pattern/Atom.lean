import NetBench.Text.Blank
import NetBench.Text.Numeral

/-! Modes of reading an expression, and its smallest parts. Without tables of case and of words for
all scripts, the classes of digits, words and blanks, word boundaries and the folding of case are
for bytes only. -/
namespace NetBench.Launch.Pattern

/-- Modes of reading: whether blanks and comments are skipped, whether case is folded, and whether
characters are matched rather than bytes. -/
structure Modes where
  spaced : Bool := false
  folded : Bool := false
  wide : Bool := true
  deriving DecidableEq, Repr

namespace Modes

/-- The modes after flags, of which those behind a dash are taken back. Every flag stands once and
the dash is not the last. -/
def set? (m : Modes) (flags : List Char) : Option Modes :=
  let known := flags.all fun c => "imsURux-".toList.contains c
  let lifted (flag : Char) (before : Bool) : Bool :=
    if (flags.takeWhile (· ≠ '-')).contains flag then true
    else if flags.contains flag then false else before
  if known && flags.Nodup && flags.getLast? ≠ some '-' then
    some ⟨lifted 'x' m.spaced, lifted 'i' m.folded, lifted 'u' m.wide⟩
  else none

/-- Drops blanks and comments where they are skipped. -/
def skip (m : Modes) (inComment : Bool) : List Char → List Char
  | [] => []
  | c :: cs =>
    if !m.spaced then c :: cs
    else if inComment then skip m (c ≠ '\n') cs
    else if Text.isBlank c then skip m false cs
    else if c = '#' then skip m true cs
    else c :: cs

def foldsAll (m : Modes) : Bool := m.folded && m.wide

end Modes

/-- The smallest expressions: a character, which may be given as a byte; one of the classes of
digits, words and blanks; a place in the text. -/
inductive Atom where
  | char (c : Char) (byte : Bool)
  | family
  | place
  deriving DecidableEq, Repr

namespace Atom

/-- What may stand outside of a set. A byte that is no character of its own matches no text. -/
def fits (m : Modes) : Atom → Bool
  | .char c byte => !m.foldsAll && (m.wide || !byte || c.toNat < 0x80)
  | .family | .place => true

def fitsSet (m : Modes) : Atom → Bool
  | .char c _ => !m.foldsAll && (m.wide || c.toNat < 0x80)
  | .family => true
  | .place => false

end Atom

def hex (m : Modes) : (n value : Nat) → List Char → Option (Nat × List Char)
  | 0, value, cs => some (value, cs)
  | n + 1, value, cs =>
    match m.skip false cs with
    | [] => none
    | c :: cs => do hex m n (value * 16 + (← Text.hexDigit? c)) cs

def controls : List (Char × Char) :=
  [('a', '\x07'), ('f', '\x0c'), ('n', '\n'), ('r', '\r'), ('t', '\t'), ('v', '\x0b')]

/-- What a backslash and the text behind it stand for, and the rest. There are no references back,
and no properties. -/
def escape (m : Modes) : List Char → Option (Atom × List Char)
  | [] => none
  | c :: cs =>
    let coded (digits : Nat) (byte : Bool) : Option (Atom × List Char) := do
      let (value, rest) ← hex m digits 0 cs
      if value.isValidChar then some (.char (.ofNat value) byte, rest) else none
    match c with
    | 'x' => coded 2 true
    | 'u' => coded 4 false
    | 'U' => coded 8 false
    | 'd' | 's' | 'w' => if m.wide then none else some (.family, cs)
    | 'b' | 'B' | '<' | '>' => if m.wide then none else some (.place, cs)
    | 'A' | 'z' => some (.place, cs)
    | c =>
      match controls.lookup c with
      | some control => some (.char control false, cs)
      | none => if c.toNat < 0x80 && !c.isAlphanum then some (.char c false, cs) else none

end NetBench.Launch.Pattern
