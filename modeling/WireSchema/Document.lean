import WireSchema.FunctionTable
import WireSchema.Message

/-!
# Document — the schema as text

The schema is a sequence of lines: a fixed beginning up to the opening of the function enum, one line
per line of the enum, and a fixed end with the remaining fields. Tabs indent, line feeds end each
line, and a comment is written as it is. The text depends on the enum alone.
-/

namespace WireSchema

/-- A field declaration. -/
def Field.line (f : Field) : Text :=
  "\t" ++ f.label.text ++ " " ++ f.type ++ " " ++ f.name ++ " = " ++ Text.decimal f.number
    ++ (match f.default? with
        | some d => " [default = " ++ d ++ "]"
        | none => [])
    ++ ";"
    ++ (match f.comment? with
        | some c => " // " ++ c
        | none => [])

/-- A line of the enum's body. -/
def EnumLine.line : EnumLine → Text
  | .member name value => "\t\t" ++ name ++ " = " ++ Text.decimal value.toNat ++ ";"
  | .comment text => "\t\t// " ++ text

namespace Document

/-- The lines before the enum's body. -/
def opening : List Text :=
  [Message.header,
   "package " ++ Message.package ++ ";",
   "",
   "option optimize_for = LITE_RUNTIME;",
   "",
   "message Message",
   ['\x7b'],
   Message.contextField.line,
   "\tenum Function",
   ['\t', '\x7b']]

/-- The lines after the enum's body. -/
def closing : List Text := ['\t', '\x7d'] :: Message.fields.map Field.line ++ [['\x7d']]

/-- All lines of the schema of an enum. -/
def lines (e : FunctionEnum) : List Text := opening ++ e.lines.map EnumLine.line ++ closing

/-- The text of the schema of an enum. -/
def render (e : FunctionEnum) : Text := Text.unlines (lines e)

end Document

end WireSchema
