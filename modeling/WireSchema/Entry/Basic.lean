import WireSchema.Text.Blank

/-!
# Entry/Basic — reading one line of an entry-point list

A line declares an entry point when it contains the marker `API_ENTRY(` anywhere. The name is the
text between the first parenthesis of the *line* — which need not be the marker's own — and the
first closing one after it, without the blanks around it, and it must be an identifier of the schema
language. `Entry.readLine` gives nothing for a line without the marker, and the name or the fault of
a line with it.
-/

namespace WireSchema

/-- What is wrong with a line that contains the marker. -/
inductive LineFault
  /-- No parenthesis closes the first one. -/
  | missingCloseParen
  /-- Only blanks stand between the parentheses. -/
  | emptyName
  /-- What stands there is no identifier. -/
  | invalidName (name : Text)
  deriving DecidableEq, Repr

namespace Entry

/-- The token that marks a line as the declaration of an entry point. -/
def marker : Text := "API_ENTRY("

/-- A character that may begin an identifier: an ASCII letter or an underscore. -/
def isNameStart (c : Char) : Bool := c.isAlpha || c == '_'

/-- A character that may continue an identifier: an ASCII letter or digit, or an underscore. -/
def isNamePart (c : Char) : Bool := c.isAlphanum || c == '_'

/-- Whether the text is an identifier of the schema language, `[A-Za-z_][A-Za-z0-9_]*`. -/
def isIdentifier : Text → Bool
  | [] => false
  | c :: cs => isNameStart c && cs.all isNamePart

/-- The name on a line that contains the marker. -/
def readName (line : Text) : Except LineFault Text :=
  match Text.cut '(' line with
  | none => .error .missingCloseParen
  | some (_, rest) =>
    match Text.cut ')' rest with
    | none => .error .missingCloseParen
    | some (inside, _) =>
      let name := Text.trim inside
      if name.isEmpty then .error .emptyName
      else if isIdentifier name then .ok name
      else .error (.invalidName name)

/-- What a line declares: nothing without the marker, else a name or a fault. -/
def readLine (line : Text) : Option (Except LineFault Text) :=
  if Text.occursIn marker line then some (readName line) else none

end Entry

end WireSchema
