import NetBench.Toml.Value

/-! A document under construction. Tables remember how they came about, because a table may be
opened by one header only, and dotted keys may extend only tables that dotted keys made. -/
namespace NetBench.Toml

inductive Slot where
  | leaf (v : Value)
  | branch (implicit dotted : Bool) (entries : List (String × Slot))
  | rows (tables : List (List (String × Slot)))

/-- A table: `implicit` without a header of its own, `dotted` made by a dotted key. -/
structure Branch where
  implicit : Bool
  dotted : Bool
  entries : List (String × Slot)

namespace Branch

def empty : Branch := ⟨false, false, []⟩

def slot (b : Branch) : Slot := .branch b.implicit b.dotted b.entries

def get? (b : Branch) (key : String) : Option Slot := b.entries.lookup key

def push (b : Branch) (key : String) (s : Slot) : Branch :=
  { b with entries := b.entries ++ [(key, s)] }

def replace (b : Branch) (key : String) (s : Slot) : Branch :=
  { b with entries := b.entries.map fun (k, old) => if k = key then (k, s) else (k, old) }

def erase (b : Branch) (key : String) : Branch :=
  { b with entries := b.entries.filter (·.1 ≠ key) }

/-- Acts on the table at the end of a path, making tables on the way; of an array of tables it goes
into the last one. A dotted path may not enter a table with a header of its own. -/
def within (dotted : Bool) (act : Branch → Option (Branch × α)) :
    List String → Branch → Option (Branch × α)
  | [], b => act b
  | key :: path, b =>
    match b.get? key with
    | none => do
      let (c, a) ← within dotted act path ⟨true, dotted, []⟩
      return (b.push key c.slot, a)
    | some (.leaf _) => none
    | some (.branch implicit wasDotted entries) =>
      if dotted && !implicit then none
      else do
        let (c, a) ← within dotted act path ⟨implicit, wasDotted, entries⟩
        return (b.replace key c.slot, a)
    | some (.rows tables) => do
      let (c, a) ← within dotted act path ⟨false, false, ← tables.getLast?⟩
      return (b.replace key (.rows (tables.dropLast ++ [c.entries])), a)

/-- Enters a value under a dotted key, whose last part is new in its table. -/
def insert (b : Branch) (path : List String) (key : String) (v : Value) : Option Branch := do
  let (b, _) ← within true (fun t =>
    if t.dotted == path.isEmpty then none
    else if (t.get? key).isSome then none
    else some (t.push key (.leaf v), ())) path b
  return b

/-- Takes the table that a header opens out of its parent: a new one, or one that headers of
tables below it made. -/
def openTable (b : Branch) (path : List String) (key : String) : Option (Branch × Branch) :=
  within false (fun t => match t.get? key with
    | none => some (t, .empty)
    | some (.branch true false entries) => some (t.erase key, ⟨false, false, entries⟩)
    | some _ => none) path b

/-- Puts an open table back, as the last entry of its parent. -/
def closeTable (b : Branch) (path : List String) (key : String) (c : Branch) : Option Branch := do
  let (b, _) ← within false (fun t => match t.get? key with
    | none => some (t.push key c.slot, ())
    | some (.branch true false _) => some (t.replace key c.slot, ())
    | some _ => none) path b
  return b

/-- Makes sure that an array of tables stands under the key. -/
def openRow (b : Branch) (path : List String) (key : String) : Option Branch := do
  let (b, _) ← within false (fun t => match t.get? key with
    | none => some (t.push key (.rows []), ())
    | some (.rows _) => some (t, ())
    | some _ => none) path b
  return b

/-- Puts an open table back as the last of its array. -/
def closeRow (b : Branch) (path : List String) (key : String) (c : Branch) : Option Branch := do
  let (b, _) ← within false (fun t => match t.get? key with
    | none => some (t.push key (.rows [c.entries]), ())
    | some (.rows tables) => some (t.replace key (.rows (tables ++ [c.entries])), ())
    | some _ => none) path b
  return b

end Branch

mutual

def Slot.value : Slot → Value
  | .leaf v => v
  | .branch _ _ entries => .table (entryValues entries)
  | .rows tables => .tables (rowValues tables)

def entryValues : List (String × Slot) → List (String × Value)
  | [] => []
  | (key, s) :: rest => (key, s.value) :: entryValues rest

def rowValues : List (List (String × Slot)) → List Value
  | [] => []
  | entries :: rest => .table (entryValues entries) :: rowValues rest

end

end NetBench.Toml
