import NetBench.Toml.Scalars
import NetBench.Toml.Strings
import NetBench.Toml.Tree

/-! Reading a TOML 1.0 document. -/
namespace NetBench.Toml

/-- Parts of a dotted key and levels of nested values stay below this. -/
def depthLimit : Nat := 80

def isBareChar (c : Char) : Bool := c.isAlphanum || c = '-' || c = '_'

def keyPart (cs : List Char) : Option (String × List Char) := do
  let cs := skipGap cs
  let (key, rest) ← match cs with
    | '"' :: _ | '\'' :: _ => lineString cs
    | _ =>
      let name := cs.takeWhile isBareChar
      if name.isEmpty then none else some (String.ofList name, cs.dropWhile isBareChar)
  return (key, skipGap rest)

/-- A dotted key: the parts before the last, and the last. -/
def key (cs : List Char) : Option ((List String × String) × List Char) :=
  let (parts, rest) := Scan.separated '.' keyPart cs
  match parts.getLast? with
  | none => none
  | some last =>
    if parts.length < depthLimit then some ((parts.dropLast, last), rest) else none

def pair (value : Scan Value) (cs : List Char) :
    Option ((List String × String × Value) × List Char) := do
  let ((path, last), rest) ← key cs
  match rest with
  | '=' :: rest =>
    let (v, rest) ← value (skipGap rest)
    return ((path, last, v), skipGap rest)
  | _ => none

/-- The items of an array, behind its opening bracket; a comma may stand behind the last. -/
def arrayBody (value : Scan Value) (cs : List Char) : Option (Value × List Char) := do
  let item : Scan Value := fun cs => do
    let (v, rest) ← value (← skipVoid false cs)
    return (v, ← skipVoid false rest)
  let (items, rest) := Scan.separated ',' item cs
  let rest := match rest with
    | ',' :: more => if items.isEmpty then rest else more
    | _ => rest
  match ← skipVoid false rest with
  | ']' :: rest => return (.array items, rest)
  | _ => none

/-- The entries of a table written as a value, behind its opening brace. -/
def inlineBody (value : Scan Value) (cs : List Char) : Option (Value × List Char) := do
  let (pairs, rest) := Scan.separated ',' (pair value) cs
  let b ← pairs.foldlM (fun b (path, last, v) => b.insert path last v) Branch.empty
  match skipGap rest with
  | '\x7d' :: rest => return (b.slot.value, rest)
  | _ => none

/-- A value with at most `room` levels of values in it. -/
def value (room : Nat) (cs : List Char) : Option (Value × List Char) :=
  match cs with
  | '"' :: _ | '\'' :: _ => (string cs).map fun (s, rest) => (.string s, rest)
  | '[' :: rest => match room with
    | 0 => none
    | room + 1 => arrayBody (value room) rest
  | '\x7b' :: rest => match room with
    | 0 => none
    | room + 1 => inlineBody (value room) rest
  | _ => scalar cs

/-- The table that entries go to now: the root, or the one that the last header opened. -/
inductive Place where
  | root
  | table (path : List String) (key : String)
  | row (path : List String) (key : String)

structure Draft where
  root : Branch
  current : Branch
  place : Place

namespace Draft

def empty : Draft := ⟨.empty, .empty, .root⟩

def close (d : Draft) : Option Branch :=
  match d.place with
  | .root => some d.current
  | .table path key => d.root.closeTable path key d.current
  | .row path key => d.root.closeRow path key d.current

def openTable (d : Draft) (path : List String) (key : String) : Option Draft := do
  let (root, current) ← (← d.close).openTable path key
  return ⟨root, current, .table path key⟩

def openRow (d : Draft) (path : List String) (key : String) : Option Draft := do
  return ⟨← (← d.close).openRow path key, .empty, .row path key⟩

def insert (d : Draft) (path : List String) (key : String) (v : Value) : Option Draft := do
  return { d with current := ← d.current.insert path key v }

end Draft

/-- One line at least of a document: a header, an entry, a comment or nothing. -/
def expression (d : Draft) (cs : List Char) : Option (Draft × List Char) :=
  match cs with
  | '\n' :: rest => some (d, rest)
  | '\r' :: '\n' :: rest => some (d, rest)
  | '#' :: _ => do return (d, ← lineEnd cs)
  | '[' :: '[' :: rest => do
    let ((path, last), rest) ← key rest
    match rest with
    | ']' :: ']' :: rest => return (← d.openRow path last, ← lineEnd rest)
    | _ => none
  | '[' :: rest => do
    let ((path, last), rest) ← key rest
    match rest with
    | ']' :: rest => return (← d.openTable path last, ← lineEnd rest)
    | _ => none
  | cs => do
    let ((path, last, v), rest) ← pair (value (depthLimit - 1)) cs
    return (← d.insert path last v, ← lineEnd rest)

/-- Reads expressions up to the end of the text. Each takes a character, so a count above the
text's length is never used up. -/
def expressions : Nat → Draft → List Char → Option Draft
  | 0, _, _ => none
  | n + 1, d, cs =>
    match skipGap cs with
    | [] => some d
    | cs => do
      let (d, rest) ← expression d cs
      expressions n d rest

/-- The entries of a document, unless its text is not TOML. A byte order mark may lead. -/
def read? (s : String) : Option (List (String × Value)) := do
  let cs := match s.toList with
    | '\uFEFF' :: cs => cs
    | cs => cs
  let root ← (← expressions (cs.length + 1) .empty cs).close
  return entryValues root.entries

end NetBench.Toml
