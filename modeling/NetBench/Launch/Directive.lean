import NetBench.Launch.Pattern
import NetBench.Launch.Verbosity
import NetBench.Text.Offset
import NetBench.Text.Pieces

/-! Directives of a filter: `part[span{field=value}]=level`, where each part may be missing.
Its marks are looked for in the text without the blanks around it, but what stands between them is
cut out of the whole text at the same offsets. So a directive with blanks in front is read askew,
and one whose offsets then fall inside of a character cannot be read at all. -/
namespace NetBench.Launch

/-- A condition on a field: its name, and whether a value is asked for. -/
structure FieldTest where
  name : String
  valued : Bool
  deriving DecidableEq, Repr

/-- A directive for the events of a part of the program, in a span, with a field. -/
structure Directive where
  part : Option String := none
  span : Option String := none
  field : Option FieldTest := none
  verbosity : Verbosity := .downTo .trace
  deriving DecidableEq, Repr

/-- Why a text gives no directive. -/
inductive Flaw where
  | malformed
  | torn
  deriving DecidableEq, Repr

namespace FieldTest

/-- Whether a text is a number: digits with a point and an exponent, or one of the names of what is
no finite number. -/
def isNumber (s : List Char) : Bool :=
  let s := match s with
    | '+' :: s | '-' :: s => s
    | s => s
  let (whole, rest) := s.span Char.isDigit
  let (places, rest) := match rest with
    | '.' :: rest => rest.span Char.isDigit
    | rest => ([], rest)
  let ends := match rest with
    | [] => true
    | e :: '+' :: digits | e :: '-' :: digits | e :: digits =>
      e.toLower = 'e' && !digits.isEmpty && digits.all Char.isDigit
  ["inf", "infinity", "nan"].contains (String.ofList s).toLower ||
    (!whole.isEmpty || !places.isEmpty) && ends

/-- A name alone, or a name and a value behind an equals sign. -/
def ofText (s : List Char) : Except Flaw FieldTest :=
  match Text.pieces '=' s with
  | [name] => if name.isEmpty then .error .malformed else .ok ⟨String.ofList name, false⟩
  | name :: value :: _ =>
    if isNumber value || Pattern.isPattern value then .ok ⟨String.ofList name, true⟩
    else .error .malformed
  | [] => .error .malformed

end FieldTest

namespace Directive

def between (whole : List Char) (start stop : Nat) : Except Flaw (List Char) :=
  (Text.slice? start stop whole).elim (.error .torn) .ok

/-- The verbosity from an offset on. Without a text it is everything. -/
def readVerbosity (whole : List Char) (start : Nat) : Except Flaw Verbosity := do
  match ← between whole start (Text.size whole) with
  | [] => return .downTo .trace
  | text => (Verbosity.ofText? text).elim (.error .malformed) .ok

def readEnd (whole : List Char) (d : Directive) (offset : Nat) :
    List Char → Except Flaw Directive
  | [] => .ok d
  | '=' :: _ => return { d with verbosity := ← readVerbosity whole (offset + 1) }
  | _ => .error .malformed

def readField (whole : List Char) (d : Directive) (offset : Nat) (rest : List Char) :
    Except Flaw Directive := do
  match Text.cut '}' rest with
  | (_, none) => throw .malformed
  | (front, some rest) =>
    let stop := offset + Text.size front
    let field ← FieldTest.ofText (← between whole offset stop)
    match rest with
    | ']' :: rest => readEnd whole { d with field := some field } (stop + 2) rest
    | _ => throw .malformed

/-- Reads on behind an opening bracket. A field needs no name of a span before it. -/
def readSpan (whole : List Char) (d : Directive) (offset : Nat) (rest : List Char) :
    Except Flaw Directive := do
  let (front, rest) := rest.span fun c => c ≠ ']' && c ≠ '{'
  let stop := offset + Text.size front
  match rest with
  | [] => throw .malformed
  | mark :: rest =>
    let span := String.ofList (← between whole offset stop)
    if mark = ']' then readEnd whole { d with span := some span } (stop + 1) rest
    else
      readField whole { d with span := if span.isEmpty then none else some span } (stop + 1) rest

def startsPart (c : Char) : Bool := c = '-' || c = ':' || c = '_' || Text.isAlphanumeric c

/-- Reads a directive. A word alone is a verbosity if it can be, or else a part that is logged in
full. -/
def ofText (whole : List Char) : Except Flaw Directive := do
  match Text.trim whole with
  | [] => throw .malformed
  | '[' :: rest => readSpan whole {} 1 rest
  | c :: rest =>
    if !startsPart c then throw .malformed
    let (front, rest) := (c :: rest).span fun c => c ≠ '=' && c ≠ '['
    match rest with
    | [] => return match Verbosity.ofText? whole with
      | some verbosity => { verbosity }
      | none => { part := some (String.ofList whole) }
    | mark :: rest =>
      let stop := Text.size front
      let part := some (String.ofList (← between whole 0 stop))
      if mark = '=' then return { part, verbosity := ← readVerbosity whole (stop + 1) }
      else readSpan whole { part } (stop + 1) rest

end Directive
end NetBench.Launch
