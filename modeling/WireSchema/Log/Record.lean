import WireSchema.Text.Printable

/-!
# Log/Record — what the program reports while it runs

A record has a level, the part of the program that speaks, a message and fields. It is written on one
line as `LEVEL part: message name=value …`; line breaks inside a value are kept.
-/

namespace WireSchema

/-- How important a record is. -/
inductive Level
  | error
  | warn
  | info
  | debug
  | trace
  deriving DecidableEq, Repr

/-- The word for a level. -/
def Level.name : Level → Text
  | .error => "ERROR"
  | .warn => "WARN"
  | .info => "INFO"
  | .debug => "DEBUG"
  | .trace => "TRACE"

/-- The place of a level among the levels, the most important first. -/
def Level.rank : Level → Nat
  | .error => 1
  | .warn => 2
  | .info => 3
  | .debug => 4
  | .trace => 5

/-- The part of the program that a record comes from. -/
inductive Speaker
  | program
  | generator
  | compiler
  deriving DecidableEq, Repr

/-- The name under which a part is reported and filtered. -/
def Speaker.name : Speaker → Text
  | .program => "debugger_proto_gen"
  | .generator => "debugger_proto_gen::generator"
  | .compiler => "debugger_proto_gen::compiler"

/-- One report. -/
structure Record where
  level : Level
  speaker : Speaker
  message : Text
  fields : List (Text × Text)
  deriving DecidableEq, Repr

/-- Whether a record has a field; its message counts as one. -/
def Record.hasField (r : Record) (name : Text) : Bool :=
  name == "message".toList || r.fields.any fun f => f.1 == name

/-- The line of a record. -/
def Record.line (r : Record) : Text :=
  r.level.name ++ " " ++ r.speaker.name ++ ": " ++ r.message
    ++ r.fields.flatMap fun f => (" " ++ f.1 ++ "=" ++ f.2 : Text)

end WireSchema
