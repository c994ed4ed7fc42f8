import WireSchema.Control
import WireSchema.Entry.Scan

/-!
# FunctionTable — the function enum, built one pass at a time

A **pass** is one list of lines with a label for reports and a comment that closes its part of the
enum. The table takes passes one after the other and numbers their entries on. A pass is taken whole
or not at all: the first offending line decides the error, and the table is then left as it was.
A line offends when it does not parse, when its name is reserved for a control value, or when the
name was taken before, in an earlier accepted pass or earlier in the same one. Closing the table
appends the control values.
-/

namespace WireSchema

/-- Where an entry was declared. -/
structure Place where
  origin : Text
  line : Nat
  deriving DecidableEq, Repr

/-- A place as reports show it, `origin:line`. -/
def Place.text (p : Place) : Text := p.origin ++ ":" ++ Text.decimal p.line

/-- A line of the enum's body. -/
inductive EnumLine
  | member (name : Text) (value : UInt32)
  | comment (text : Text)
  deriving DecidableEq, Repr

/-- The name and value of a member. -/
def EnumLine.member? : EnumLine → Option (Text × UInt32)
  | .member name value => some (name, value)
  | .comment _ => none

/-- Why a pass was not taken. -/
inductive TableError
  | parse (error : ParseError)
  | duplicate (name : Text) (place first : Place)
  | reserved (name : Text) (place : Place)
  deriving DecidableEq, Repr

/-- What is said about a pass that was not taken. -/
def TableError.message : TableError → Text
  | .parse error => error.message
  | .duplicate name place first =>
    "`" ++ name ++ "` at " ++ place.text ++ " duplicates the enum member at " ++ first.text
  | .reserved name place => "`" ++ name ++ "` at " ++ place.text ++ " collides with a control value"

/-- One list of lines, its label and its closing comment. -/
structure Pass where
  origin : Text
  lines : List Text
  endMarker : Text
  deriving DecidableEq, Repr

/-- The enum, ready to be written. -/
structure FunctionEnum where
  lines : List EnumLine
  /-- The number of functions, controls not counted. -/
  functions : Nat
  /-- The value of the first control. -/
  controlStart : UInt32
  deriving DecidableEq, Repr

/-- The members in order, controls included. -/
def FunctionEnum.members (e : FunctionEnum) : List (Text × UInt32) :=
  e.lines.filterMap EnumLine.member?

/-- The enum under construction. -/
structure FunctionTable where
  lines : List EnumLine
  /-- Every accepted name with the place of its declaration. -/
  seen : List (Text × Place)
  nextIndex : UInt32
  functions : Nat
  deriving DecidableEq, Repr

namespace FunctionTable

/-- The table before the first pass. -/
def empty : FunctionTable := ⟨[], [], 0, 0⟩

/-- Checks the items of a pass in order against the names taken so far. The result is the list of
good entries with their places; the first offending item ends the check. -/
def check (origin : Text) (seen : List (Text × Place)) :
    List Item → Except TableError (List (Entry × Place))
  | [] => .ok []
  | .error e :: _ => .error (.parse e)
  | .ok entry :: items =>
    let place : Place := ⟨origin, entry.line⟩
    if Control.isReserved entry.name then .error (.reserved entry.name place)
    else match seen.lookup entry.name with
      | some first => .error (.duplicate entry.name place first)
      | none =>
        match check origin ((entry.name, place) :: seen) items with
        | .error e => .error e
        | .ok rest => .ok ((entry, place) :: rest)

/-- Takes a pass: the number of entries it contributed and the table after it. -/
def extend (t : FunctionTable) (p : Pass) : Except TableError (Nat × FunctionTable) :=
  let read := (Scan.ofLines p.lines t.nextIndex).drain
  match check p.origin t.seen (read.map Prod.fst) with
  | .error e => .error e
  | .ok entries =>
    .ok (entries.length,
      { lines := t.lines ++ entries.map (fun e => .member e.1.name e.1.index)
          ++ [.comment p.endMarker]
        seen := (entries.map fun e => (e.1.name, e.2)).reverse ++ t.seen
        nextIndex := ((Scan.ofLines p.lines t.nextIndex).behind read).nextIndex
        functions := t.functions + entries.length })

/-- The members that list the given controls from a first value on. -/
def controlLines (first : UInt32) : List Control → List EnumLine
  | [] => []
  | c :: cs => .member c.name first :: controlLines (first + 1) cs

/-- Closes the table: the control values follow the functions. -/
def finish (t : FunctionTable) : FunctionEnum where
  lines := t.lines ++ controlLines t.nextIndex Control.all
  functions := t.functions
  controlStart := t.nextIndex

end FunctionTable

end WireSchema
