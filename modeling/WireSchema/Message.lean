import WireSchema.Text.Basic

/-!
# Message — the fields of the debugger message

The message has one field before the function enum and fifteen after it. Names and numbers are part
of the deployed wire format: 12 to 15 are not assigned, so that `arg4` continues at 16.
-/

namespace WireSchema

/-- Whether a field must be present. -/
inductive FieldLabel
  | required
  | optional
  deriving DecidableEq, Repr

/-- The keyword of the label. -/
def FieldLabel.text : FieldLabel → Text
  | .required => "required"
  | .optional => "optional"

/-- One field of the message. -/
structure Field where
  label : FieldLabel
  type : Text
  name : Text
  number : Nat
  default? : Option Text := none
  comment? : Option Text := none
  deriving DecidableEq, Repr

namespace Message

/-- The first line of every schema. -/
def header : Text := "// do not edit; auto generated by generate_DebuggerMessage_proto.py"

/-- The package that holds the message. -/
def package : Text := "GLESv2Debugger"

/-- The field before the function enum. -/
def contextField : Field :=
  { label := .required, type := "int32", name := "context_id", number := 1
    comment? := some ("GL context id" : Text) }

/-- The fields after the function enum, in the order in which they are written. -/
def fields : List Field :=
  [{ label := .required, type := "Function", name := "function", number := 2
     default? := some ("NEG" : Text), comment? := some ("type/function of message" : Text) },
   { label := .required, type := "bool", name := "has_next_message", number := 3 },
   { label := .required, type := "bool", name := "expect_response", number := 4 },
   { label := .optional, type := "int32", name := "ret", number := 5
     comment? := some ("return value from previous GL call" : Text) },
   { label := .optional, type := "int32", name := "arg0", number := 6
     comment? := some ("args to GL call" : Text) },
   { label := .optional, type := "int32", name := "arg1", number := 7 },
   { label := .optional, type := "int32", name := "arg2", number := 8 },
   { label := .optional, type := "int32", name := "arg3", number := 9 },
   { label := .optional, type := "int32", name := "arg4", number := 16 },
   { label := .optional, type := "int32", name := "arg5", number := 17 },
   { label := .optional, type := "int32", name := "arg6", number := 18 },
   { label := .optional, type := "int32", name := "arg7", number := 19 },
   { label := .optional, type := "int32", name := "arg8", number := 20 },
   { label := .optional, type := "bytes", name := "data", number := 10
     comment? := some ("variable length data used for GL call" : Text) },
   { label := .optional, type := "float", name := "time", number := 11
     comment? := some ("timing of previous GL call (seconds)" : Text) }]

end Message

end WireSchema
