import NetBench.Options.Basic
import NetBench.Text.Numeral
import NetBench.Text.Pieces

/-! Reading a command line. Options have a value, given as `--name value`, `--name=value` or,
for those with a letter, `-x value`, `-x=value` or `-xvalue`. Nothing else may stand on it. -/
namespace NetBench
open Text

/-- Why a command line gives no values. The two requests for information count among them. -/
inductive Refusal where
  | help
  | version
  | unknown (argument : String)
  | repeated (o : Opt)
  | missingValue (o : Opt)
  | badNumber (o : Opt) (value : String)
  | badChoice (o : Opt) (value : String)
  | needlessValue (name value : String)
  deriving DecidableEq, Repr

/-- A numeral with an optional plus. Where `minus` is allowed too, it leaves only zero in range. -/
def natural? (minus : Bool) : List Char → Option Nat
  | '+' :: ds => decimal? ds
  | '-' :: ds => if minus then (decimal? ds).filter (· == 0) else none
  | ds => decimal? ds

def word? (minus : Bool) (bits : Nat) (cs : List Char) : Option Nat :=
  (natural? minus cs).filter (· < Nat.pow 2 bits)

/-- The value of that kind that a text writes. A path may not be empty. -/
def ValueKind.read? (kind : ValueKind) (s : String) : Option kind.Value :=
  match kind with
  | .path => if s.isEmpty then none else some s
  | .role => Role.ofName? s
  | .text => some s
  | .byte => (word? true 8 s.toList).map Nat.toUInt8
  | .half => (word? true 16 s.toList).map Nat.toUInt16
  | .word => (word? true 32 s.toList).map Nat.toUInt32
  | .long => (word? false 64 s.toList).map Nat.toUInt64

def Opt.refuse (o : Opt) (s : String) : Refusal :=
  match o.kind with
  | .path | .role | .text => .badChoice o s
  | .byte | .half | .word | .long => .badNumber o s

def Opt.read (o : Opt) (s : String) : Except Refusal o.Value :=
  match o.kind.read? s with
  | some v => .ok v
  | none => .error (o.refuse s)

/-- An argument by its shape. -/
inductive Argument where
  | escape
  | long (name : List Char) (value : Option (List Char))
  | short (letter : Char) (rest : List Char)
  | plain
  deriving DecidableEq, Repr

/-- A single dash is plain, and two dashes alone end the options. -/
def Argument.ofString (s : String) : Argument :=
  match s.toList with
  | ['-', '-'] => .escape
  | '-' :: '-' :: cs => let (name, value) := cut '=' cs; .long name value
  | '-' :: c :: cs => .short c cs
  | _ => .plain

/-- What a name on the command line stands for. -/
inductive Target where
  | opt (o : Opt)
  | help
  | version
  deriving DecidableEq, Repr

/-- Long names are never shortened. -/
def Target.ofLong? (name : List Char) : Option Target :=
  if name = "help".toList then some .help
  else if name = "version".toList then some .version
  else (Opt.all.find? (·.long.toList == name)).map .opt

def Target.ofLetter? (c : Char) : Option Target :=
  if c = 'h' then some .help
  else if c = 'V' then some .version
  else (Opt.all.find? (·.letter == some c)).map .opt

/-- An option whose value, or whose check, is still to come. -/
inductive Pending where
  | nothing
  | awaiting (o : Opt)
  | holding (o : Opt) (value : String)
  deriving DecidableEq, Repr

namespace CommandLine

/-- Takes a value for an option; a repetition is refused before the value is looked at. -/
def give (line : CommandLine) (o : Opt) (value : String) : Except Refusal CommandLine :=
  if (line o).isSome then .error (.repeated o)
  else do return line.set o (← o.read value)

def settle (line : CommandLine) : Pending → Except Refusal CommandLine
  | .nothing => .ok line
  | .awaiting o => .error (.missingValue o)
  | .holding o value => line.give o value

/-- Reads on. A pending option is checked only when the next option comes up or the line ends,
so an argument that is unknown wins over it. -/
def readFrom (line : CommandLine) (pending : Pending) : List String → Except Refusal CommandLine
  | [] => line.settle pending
  | a :: rest =>
    match Argument.ofString a with
    | .escape => match rest with
      | [] => line.settle pending
      | b :: _ => .error (.unknown b)
    | .plain => match pending with
      | .awaiting o => readFrom line (.holding o a) rest
      | _ => .error (.unknown a)
    | .long name value => match Target.ofLong? name, value with
      | none, _ => .error (.unknown (String.ofList ('-' :: '-' :: name)))
      | some (.opt o), none => do readFrom (← line.settle pending) (.awaiting o) rest
      | some (.opt o), some v => do
        readFrom (← (← line.settle pending).give o (String.ofList v)) .nothing rest
      | some _, some v =>
        .error (.needlessValue (String.ofList ('-' :: '-' :: name)) (String.ofList v))
      | some .help, none => do let _ ← line.settle pending; .error .help
      | some .version, none => do let _ ← line.settle pending; .error .version
    | .short letter cs => match Target.ofLetter? letter, cs with
      | none, _ => .error (.unknown (String.ofList ['-', letter]))
      | some (.opt o), [] => do readFrom (← line.settle pending) (.awaiting o) rest
      | some (.opt o), '=' :: v => do
        readFrom (← (← line.settle pending).give o (String.ofList v)) .nothing rest
      | some (.opt o), v => do
        readFrom (← (← line.settle pending).give o (String.ofList v)) .nothing rest
      | some .help, _ => do let _ ← line.settle pending; .error .help
      | some .version, _ => do let _ ← line.settle pending; .error .version

def read (args : List String) : Except Refusal CommandLine := readFrom empty .nothing args

end CommandLine
end NetBench
