import WireSchema.Environment.Assignment
import WireSchema.FileSystem.Basic
import WireSchema.Text.Printable

/-!
# Environment/File — variables from a file

The file `.env` of the current directory, or of the nearest directory above that has one, gives
variables that are not set yet. It is read line by line, and reading stops at the first bad line;
what was set before stays. A line goes on behind its end while a quote is open, and a comment that
begins behind a blank ends it early. A last line without an ending is bad when it closes with an open
quote, a backslash or a blank. A value with a NUL character cannot be set, which is an error.
-/

namespace WireSchema

/-- A variable of a file that cannot be set: its value holds a NUL character. -/
structure UnsettableVariable where
  name : Text
  value : Text
  deriving DecidableEq, Repr

/-- What is said about a variable that cannot be set. -/
def UnsettableVariable.message (v : UnsettableVariable) : Text :=
  "failed to set environment variable `" ++ Text.quote v.name ++ "` to `" ++ Text.quote v.value
    ++ "`: " ++ SystemError.nulInPath.message

namespace EnvironmentFile

/-- What the characters of a line so far leave open. -/
inductive Open
  | nothing
  /-- Behind a blank, where a comment may begin. -/
  | blank
  | escape
  | strong
  | strongEscape
  | weak
  | weakEscape
  deriving DecidableEq, Repr

/-- What a character outside quotes opens. -/
def Open.enter (c : Char) (other : Open) : Open :=
  if c = '\\' then .escape
  else if c = '"' then .weak
  else if c = '\'' then .strong
  else other

/-- What is open behind a character. -/
def Open.next : Open → Char → Open
  | .nothing, c =>
    if Text.isBlank c ∧ c ≠ '\n' ∧ c ≠ '\r' then .blank else Open.enter c .nothing
  | .blank, c => Open.enter c .nothing
  | .escape, _ => .nothing
  | .weak, c => if c = '\\' then .weakEscape else if c = '"' then .nothing else .weak
  | .weakEscape, _ => .weak
  | .strong, c => if c = '\\' then .strongEscape else if c = '\'' then .nothing else .strong
  | .strongEscape, _ => .strong

/-- Reads a line up to its comment: the text, and what is open at its end if there is no comment. -/
def readLine : Open → Text → Text × Option Open
  | o, [] => ([], some o)
  | .blank, '#' :: _ => ([], none)
  | o, c :: cs =>
    let r := readLine (o.next c) cs
    (c :: r.1, r.2)

/-- A line without its ending. -/
def dropEnding (t : Text) : Text :=
  match t.reverse with
  | '\n' :: '\r' :: r => r.reverse
  | '\n' :: r => r.reverse
  | _ => t

/-- Joins written lines to the lines that are meant. A line that is no text, and one that is still
open at the end of the file, gives nothing and ends the reading. -/
def joinLines : Open → Text → List (Option Text) → List (Option Text)
  | .nothing, _, [] => []
  | _, _, [] => [none]
  | _, _, none :: _ => [none]
  | o, before, some l :: ls =>
    if (Text.trimStart (before ++ l)).head? = some '#' then some [] :: joinLines .nothing [] ls
    else match readLine o l with
      | (kept, none) => some (before ++ kept) :: joinLines .nothing [] ls
      | (_, some .nothing) => some (dropEnding (before ++ l)) :: joinLines .nothing [] ls
      | (_, some o) => joinLines o (before ++ l) ls

/-- The bytes behind a byte order mark. -/
def dropMark : Bytes → Bytes
  | 0xEF :: 0xBB :: 0xBF :: bs => bs
  | bs => bs

/-- The lines of a file that are meant. -/
def lines (content : Bytes) : List (Option Text) :=
  joinLines .nothing [] ((Bytes.pieces 0x0A (dropMark content)).map Utf8.decode?)

/-- Sets a variable unless it has a readable value. -/
def setDefault (env : Environment) (name value : Text) : Except UnsettableVariable Environment :=
  match env.get? name with
  | some _ => .ok env
  | none => if '\x00' ∈ value then .error ⟨name, value⟩ else .ok (env.set name value)

/-- Takes the assignments of lines over into an environment, up to the first bad line. -/
def assign (env : Environment) : List (Option Text) → Except UnsettableVariable Environment
  | [] => .ok env
  | none :: _ => .ok env
  | some l :: ls =>
    match Assignment.ofLine? env l with
    | none => .ok env
    | some none => assign env ls
    | some (some (name, value)) =>
      match setDefault env name value with
      | .error v => .error v
      | .ok env => assign env ls

/-- The content of the nearest environment file, seen from a reversed location upwards. -/
def findUp (fs : FileSystem) : List Text → Option Bytes
  | [] => match fs.node? [".env".toList] with
    | some (.file content) => some content
    | _ => none
  | name :: above => match fs.node? ((name :: above).reverse ++ [".env".toList]) with
    | some (.file content) => some content
    | _ => findUp fs above

/-- An environment with the variables of the nearest file. -/
def load (env : Environment) (fs : FileSystem) : Except UnsettableVariable Environment :=
  match findUp fs fs.current.reverse with
  | none => .ok env
  | some content => assign env (lines content)

end EnvironmentFile

end WireSchema
