import NetBench.Launch.Directive

/-! Which events a process logs. A filter is a list of directives between commas; of those that
apply to an event the most special one counts. -/
namespace NetBench

/-- The part of the program that logs an event. -/
def Event.part : Event → String
  | .starting _ _ _ | .serverStopped _ | .clientFailed _ _ => "sock_bench"
  | .streamFinished _ _ | .probeFinished _ => "sock_bench"
  | .connectFailed _ _ | .connected _ | .greeting _ | .greetingFailed _ => "sock_bench::client"
  | .sendSpeed _ | .writeFailed _ _ _ | .limitReached _ | .hungUp => "sock_bench::client"
  | .queueFailed _ _ | .listening _ _ | .acceptFailed _ | .reading => "sock_bench::server"
  | .readFinished _ | .drained _ _ => "sock_bench::server"
  | .bindFailed _ _ | .echoListening _ | .receiveFailed _ | .received _ _ => "sock_bench::echo"
  | .replyFailed _ _ | .sendFailed _ _ | .echoed _ _ => "sock_bench::echo"
  | .roundTimedOut _ | .roundFailed _ _ => "sock_bench::echo"
  | .accepted _ | .dialled _ _ => "sock_bench::transport::net"

def Event.fieldNames (e : Event) : List String := "message" :: e.fields.map (·.1)

namespace Launch

/-- A directive for events: those of a part of the program, with a field. -/
structure Rule where
  part : Option String
  field : Option String
  verbosity : Verbosity
  deriving DecidableEq, Repr

namespace Rule

/-- Spans and values of their fields are asked for by other directives, which no event meets: the
program has no spans. -/
def ofDirective? (d : Directive) : Option Rule :=
  if d.span.isSome || d.field.any (·.valued) then none
  else some ⟨d.part, d.field.map (·.name), d.verbosity⟩

def errors : Rule := ⟨none, none, .downTo .error⟩

def appliesTo (r : Rule) (e : Event) : Bool :=
  (r.part.all fun part => part.toList.isPrefixOf e.part.toList) &&
    r.field.all fun field => e.fieldNames.contains field

def weight (r : Rule) : Nat := r.part.elim 0 fun part => part.utf8ByteSize + 1

/-- Whether `r` leaves an event to `other`, which comes later and applies to it too. A longer part
goes first, then a rule with a field, then the field that is later in the alphabet. -/
def yieldsTo (r other : Rule) : Bool :=
  r.weight < other.weight || r.weight = other.weight && match r.field, other.field with
    | none, _ => true
    | some _, none => false
    | some field, some field' => field ≤ field'

end Rule

abbrev Filter : Type := List Rule

namespace Filter

def parts (s : String) : List (List Char) := (Text.pieces ',' s.toList).filter (· ≠ [])

/-- Reads a filter and leaves out what is no directive. With nothing left, errors are logged. There
is no filter if a directive cannot be cut at its marks. -/
def ofText? (s : String) : Option Filter :=
  let read := (parts s).map Directive.ofText
  if read.any fun r => r matches .error .torn then none
  else match read.filterMap Except.toOption with
    | [] => some [.errors]
    | directives => some (directives.filterMap Rule.ofDirective?)

/-- Reads a filter of which every part has to be a directive. Without any, nothing is logged. -/
def strict (s : String) : Except Flaw Filter := do
  let directives ← (parts s).mapM Directive.ofText
  return directives.filterMap Rule.ofDirective?

/-- The filter of a process. What a variable of its surroundings holds goes before the level of its
settings, unless something in it is no directive. -/
def chosen? (override? : Option String) (level : String) : Option Filter :=
  match override?.map strict with
  | some (.ok filter) => some filter
  | some (.error .torn) => none
  | some (.error .malformed) | none => ofText? level

def deciding (f : Filter) (e : Event) : Option Rule :=
  (f.filter (·.appliesTo e)).foldl (fun best r => match best with
    | some b => if b.yieldsTo r then some r else some b
    | none => some r) none

def admits (f : Filter) (e : Event) : Bool :=
  (f.deciding e).any fun r => r.verbosity.admits e.level

end Filter
end Launch
end NetBench
