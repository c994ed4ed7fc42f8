import WireSchema.Log.Pattern
import WireSchema.Log.Record
import WireSchema.Text.Blank
import WireSchema.Text.Utf8

/-!
# Log/Filter — which records are shown

A filter is a list of directives between commas. A directive is a level, which holds for everything,
or `target[span{field=value}]=level`, of which each part but one may be missing; without a level it
shows all levels. A directive holds for the records of every part of the program whose name begins
with its target, and of these only for records that have its field. The program has no spans, so a
directive that names one, or asks for the value of a field, which is asked of spans only, holds for no
record. Of several that hold, the most specific decides. A record is shown when its level is at least
as important as the deciding one; without any it is not.
-/

namespace WireSchema

/-- One directive: the records it speaks about, and the least important level it shows, if any. -/
structure Directive where
  target? : Option Text
  span? : Option Text
  /-- The name of a field. -/
  field? : Option Text
  /-- The value that the field must have. -/
  value? : Option Text
  level : Option Level
  deriving DecidableEq, Repr

namespace Directive

/-! ## Reading -/

/-- Reads a number; a plus sign may stand before it. -/
def number? (t : Text) : Option Nat :=
  let digits := match t with
    | '+' :: r => r
    | _ => t
  if digits = [] ∨ !digits.all Char.isDigit then none
  else some (digits.foldl (fun n d => n * 10 + (d.toNat - 0x30)) 0)

/-- Reads a level: a word in either case, or the number of its rank. -/
def level? (t : Text) : Option (Option Level) :=
  let word := Text.lower t
  let rank := number? t
  if word = "off".toList ∨ rank = some 0 then some none
  else if word = "error".toList ∨ rank = some 1 then some (some .error)
  else if word = "warn".toList ∨ rank = some 2 then some (some .warn)
  else if word = "info".toList ∨ rank = some 3 then some (some .info)
  else if word = "debug".toList ∨ rank = some 4 then some (some .debug)
  else if word = "trace".toList ∨ rank = some 5 then some (some .trace)
  else none

/-- Whether a text without sign is a decimal number or the name of a number that no digits give. -/
def isUnsignedDecimal (t : Text) : Bool :=
  let word := Text.lower t
  if word = "inf".toList ∨ word = "infinity".toList ∨ word = "nan".toList then true
  else
    let whole := t.takeWhile Char.isDigit
    let (fraction, rest) := match t.dropWhile Char.isDigit with
      | '.' :: r => (r.takeWhile Char.isDigit, r.dropWhile Char.isDigit)
      | r => ([], r)
    let exponent := match rest with
      | [] => true
      | e :: r =>
        let digits := match r with
          | '+' :: r => r
          | '-' :: r => r
          | r => r
        (e == 'e' || e == 'E') && digits != [] && digits.all Char.isDigit
    whole ++ fraction != [] && exponent

/-- Whether the value of a field can be asked for: it is a pattern, or a number with a plus sign, which
is none. -/
def isValue (t : Text) : Bool :=
  Pattern.isWellFormed t || match t with
    | '+' :: r => isUnsignedDecimal r
    | _ => false

/-- Reads the field of a directive and its value. -/
def condition? (t : Text) : Option (Text × Option Text) :=
  if t = [] then none
  else
    let name := t.takeWhile (· ≠ '=')
    match t.dropWhile (· ≠ '=') with
    | [] => some (name, none)
    | _ :: r =>
      let value := r.takeWhile (· ≠ '=')
      if isValue value then some (name, some value) else none

/-- The part of a text between two positions, which count bytes. -/
def part? (t : Text) (first last : Nat) : Option Text :=
  Utf8.decode? (((Utf8.encode t).take last).drop first)

/-- Reads the level on a text from a position to its end. -/
def levelFrom? (t : Text) (first : Nat) : Option (Option Level) :=
  (part? t first (Utf8.length t)).bind fun l => if l = [] then some (some .trace) else level? l

/-- Reads what follows a bracket. -/
def ending? (t : Text) (first : Nat) (rest : Text) : Option (Option Level) :=
  match rest with
  | [] => some (some .trace)
  | '=' :: _ => levelFrom? t (first + 1)
  | _ => none

/-- Reads a directive from within its bracket, which begins at a position of `t`. -/
def bracket? (t : Text) (target? : Option Text) (first : Nat) (rest : Text) : Option Directive :=
  let inSpan (c : Char) : Bool := c ≠ ']' && c ≠ '\x7b'
  let last := first + Utf8.length (rest.takeWhile inSpan)
  match rest.dropWhile inSpan with
  | [] => none
  | ']' :: rest => do
    let span ← part? t first last
    let level ← ending? t (last + 1) rest
    return ⟨target?, some span, none, none, level⟩
  | _ :: rest =>
    let end_ := last + 1 + Utf8.length (rest.takeWhile (· ≠ '\x7d'))
    match rest.dropWhile (· ≠ '\x7d') with
    | _ :: ']' :: rest => do
      let span ← part? t first last
      let (field, value?) ← (part? t (last + 1) end_).bind condition?
      let level ← ending? t (end_ + 2) rest
      return ⟨target?, if span = [] then none else some span, some field, value?, level⟩
    | _ => none

/-- A character that may begin a directive without bracket. -/
def isTargetStart (c : Char) : Bool := Text.isAlphanumeric c || c == '-' || c == ':' || c == '_'

/-- Reads one directive. Its marks are found on the text without the blanks around it, but their
positions then count from the beginning of the whole text. -/
def ofText? (t : Text) : Option Directive :=
  let inTarget (c : Char) : Bool := c ≠ '=' && c ≠ '['
  match Text.trim t with
  | [] => none
  | '[' :: rest => bracket? t none 1 rest
  | c :: cs =>
    if !isTargetStart c then none
    else
      let last := Utf8.length ((c :: cs).takeWhile inTarget)
      match (c :: cs).dropWhile inTarget with
      | [] => match level? t with
        | some level => some ⟨none, none, none, none, level⟩
        | none => some ⟨some t, none, none, none, some .trace⟩
      | '=' :: _ => do
        let target ← part? t 0 last
        let level ← levelFrom? t (last + 1)
        return ⟨some target, none, none, none, level⟩
      | _ :: rest => (part? t 0 last).bind fun target => bracket? t (some target) (last + 1) rest

/-! ## Deciding -/

/-- Whether a directive speaks about a record. -/
def holdsFor (d : Directive) (r : Record) : Bool :=
  d.span? == none && d.value? == none
    && (match d.target? with
        | none => true
        | some t => t.isPrefixOf r.speaker.name)
    && (match d.field? with
        | none => true
        | some f => r.hasField f)

/-- Whether a directive goes before an earlier one that holds for the same record: a longer target
does, then a field, then the field that comes later in the order of characters. -/
def goesBefore (d earlier : Directive) : Bool :=
  let size (d : Directive) : Nat := match d.target? with
    | none => 0
    | some t => t.length + 1
  if size d ≠ size earlier then size earlier < size d
  else match earlier.field?, d.field? with
    | none, _ => true
    | some _, none => false
    | some f, some g => f.le g

end Directive

/-- The directives of a filter, in the order in which they are written. -/
abbrev LogFilter := List Directive

namespace LogFilter

/-- Reads a filter; empty parts say nothing. -/
def parse? (t : Text) : Option LogFilter :=
  ((Text.split ',' t).filter (· ≠ [])).mapM Directive.ofText?

/-- The filter of a run that names none. -/
def default : LogFilter := [⟨some "debugger_proto_gen", none, none, none, some .info⟩]

/-- The filter under the value of its variable: a value that is no filter counts as none. -/
def ofVariable (value : Option Text) : LogFilter :=
  match value with
  | none => default
  | some t => (parse? t).getD default

/-- The directive that decides about a record. -/
def deciding? (f : LogFilter) (r : Record) : Option Directive :=
  (f.filter fun d => d.holdsFor r).foldl (fun best d =>
    match best with
    | none => some d
    | some b => if d.goesBefore b then some d else some b) none

/-- Whether a record is shown. -/
def shows (f : LogFilter) (r : Record) : Bool :=
  match (f.deciding? r).bind Directive.level with
  | none => false
  | some least => r.level.rank ≤ least.rank

end LogFilter

end WireSchema
