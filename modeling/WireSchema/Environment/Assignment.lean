import WireSchema.Environment.Basic
import WireSchema.Text.Alphanumeric
import WireSchema.Text.Blank

/-!
# Environment/Assignment — one line of an environment file

A line is `name=value`, with blanks around the sign and an optional `export` before the name. A value
is a run of pieces: plain characters, text between apostrophes taken as it is, and text between double
quotes. Outside apostrophes a backslash escapes the next character, and `$name` or `${name}` stands
for a variable. An unquoted blank ends the value; only a comment may follow. An empty line and a
comment assign nothing, and any other line is bad.
-/

namespace WireSchema.Assignment

/-- How far a reference to a variable has been read. -/
inductive Reference
  | none
  /-- Behind the dollar sign. -/
  | open
  /-- Behind the dollar sign and a brace. -/
  | braced
  deriving DecidableEq, Repr

/-- A value while it is read. -/
structure Reading where
  /-- Between apostrophes. -/
  strong : Bool := false
  /-- Between double quotes. -/
  weak : Bool := false
  /-- Behind a backslash. -/
  escaped : Bool := false
  /-- Behind the value. -/
  ending : Bool := false
  reference : Reference := .none
  /-- The name of the reference, as far as it has been read. -/
  name : Text := []
  output : Text := []
  deriving DecidableEq, Repr

/-- The character that an escaped one stands for. -/
def unescape? (c : Char) : Option Char :=
  if c = 'n' then some '\n'
  else if c = '\\' ∨ c = '\'' ∨ c = '"' ∨ c = '$' ∨ c = ' ' then some c
  else none

/-- Puts the value of the pending reference behind the output. -/
def Reading.refer (r : Reading) (env : Environment) : Reading :=
  { r with output := r.output ++ (env.get? r.name).getD [], name := [], reference := .none }

/-- Puts a character behind the output. -/
def Reading.push (r : Reading) (c : Char) : Reading := { r with output := r.output ++ [c] }

/-- Reads a character inside a reference. -/
def Reading.stepReference (r : Reading) (env : Environment) (c : Char) : Reading :=
  if Text.isAlphanumeric c then { r with name := r.name ++ [c] }
  else if r.reference = .braced then
    if c = '\x7d' then r.refer env else { r with name := r.name ++ [c] }
  else if c = '\x7b' ∧ r.name = [] then { r with reference := .braced }
  else if c = '$' then { r.refer env with reference := .open }
  else (r.refer env).push c

/-- Reads a character of a value; a bad one gives nothing. -/
def Reading.step? (r : Reading) (env : Environment) (c : Char) : Option Reading :=
  if r.escaped then (unescape? c).map fun d => { r.push d with escaped := false }
  else if r.strong then some (if c = '\'' then { r with strong := false } else r.push c)
  else if r.reference ≠ .none then some (r.stepReference env c)
  else if c = '$' then some { r with reference := .open }
  else if c = '\\' then some { r with escaped := true }
  else if r.weak then some (if c = '"' then { r with weak := false } else r.push c)
  else if c = '\'' then some { r with strong := true }
  else if c = '"' then some { r with weak := true }
  else if c = ' ' ∨ c = '\t' then some { r with ending := true }
  else some (r.push c)

/-- The value at the end of its text. -/
def Reading.finish? (r : Reading) (env : Environment) : Option Text :=
  if r.strong ∨ r.weak ∨ r.reference = .braced then none else some (r.refer env).output

/-- Reads the value on the rest of a line. -/
def value? (env : Environment) : Reading → Text → Option Text
  | r, [] => r.finish? env
  | r, c :: cs =>
    if r.ending then
      if c = ' ' ∨ c = '\t' then value? env r cs
      else if c = '#' then r.finish? env
      else none
    else match r.step? env c with
      | none => none
      | some r => value? env r cs

/-- A character that may begin a name. -/
def isNameStart (c : Char) : Bool := c.isAlpha || c == '_'

/-- A character that may continue a name. -/
def isNamePart (c : Char) : Bool := c.isAlphanum || c == '_' || c == '.'

/-- Splits the name off a line, and the blanks behind it. -/
def name? (t : Text) : Option (Text × Text) :=
  match t with
  | [] => none
  | c :: _ =>
    if isNameStart c then some (t.takeWhile isNamePart, Text.trimStart (t.dropWhile isNamePart))
    else none

/-- Splits the name and the sign off a line; the word `export` alone is no name. -/
def left? (t : Text) : Option (Text × Text) :=
  match name? t with
  | none => none
  | some (name, '=' :: rest) => some (name, rest)
  | some (name, rest) =>
    if name = "export".toList then
      match name? rest with
      | some (name, '=' :: rest) => some (name, rest)
      | _ => none
    else none

/-- Whether nothing but a comment stands there. -/
def isSilent (t : Text) : Bool := t.isEmpty || t.head? == some '#'

/-- What a line assigns: a good line gives a name and a value or nothing, a bad line gives nothing at
all. -/
def ofLine? (env : Environment) (line : Text) : Option (Option (Text × Text)) :=
  let t := Text.trim line
  if isSilent t then some none
  else match left? t with
    | none => none
    | some (name, rest) =>
      let rest := Text.trimStart rest
      if isSilent rest then some (some (name, []))
      else (value? env {} rest).map fun v => some (name, v)

end WireSchema.Assignment
