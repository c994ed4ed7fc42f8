import WireSchema.Text.Alphanumeric
import WireSchema.Text.Blank

/-!
# Log/Pattern — well-formed patterns

A filter may ask for the value of a field by a regular expression. What an expression matches is of
no concern here, as no record is ever shown for the value of a field; but a filter with an ill-formed
one is no filter. An expression is well-formed when its groups and classes are closed, every
repetition has something to repeat, every range goes upwards, and every escape has a meaning.

The meaning depends on the mode. An expression is about all characters unless its flag `u` is
switched off, and is then about ASCII alone. There are no tables of the scripts: what needs them,
such as the digits or the case pairs of all characters, has a meaning for ASCII only.

Expressions come without commas, braces and equals signs that close or count anything, since those
end a field in a filter; a counted repetition is thus always ill-formed.
-/

namespace WireSchema.Pattern

/-! ## Modes -/

/-- How an expression is read: whether letters stand for both their cases, whether characters past
ASCII are meant, and whether blanks are there for the eye alone. -/
structure Mode where
  caseless : Bool
  wide : Bool
  spaced : Bool
  deriving DecidableEq, Repr

namespace Mode

/-- The mode at the beginning of an expression. -/
def plain : Mode := ⟨false, true, false⟩

/-- The mode behind flags; those behind a sign are switched off. -/
def set (m : Mode) (flags : Text) : Mode :=
  let on := flags.takeWhile (· ≠ '-')
  let named (flag : Char) (old : Bool) : Bool := if flag ∈ flags then decide (flag ∈ on) else old
  ⟨named 'i' m.caseless, named 'u' m.wide, named 'x' m.spaced⟩

/-- Drops blanks and comments, which run from `#` to the end of their line. -/
def dropSpace (inComment : Bool) : Text → Text
  | [] => []
  | c :: r =>
    if inComment then dropSpace (c ≠ '\n') r
    else if Text.isBlank c then dropSpace false r
    else if c = '#' then dropSpace true r
    else c :: r

/-- Where the next character that counts is. -/
def next (m : Mode) (t : Text) : Text := if m.spaced then dropSpace false t else t

end Mode

/-! ## Atoms -/

/-- What one character or escape stands for. -/
inductive Atom
  | literal (c : Char)
  /-- A byte by its two digits. -/
  | byte (c : Char)
  /-- The digits, blanks or letters of words, or with `negated` all but these. -/
  | set (negated : Bool)
  /-- The beginning or the end of the text. -/
  | edge
  /-- The beginning or the end of a word. -/
  | boundary
  /-- Any character but a line break. -/
  | any
  deriving DecidableEq, Repr

/-- Whether an atom has a meaning outside a class. -/
def Mode.admits (m : Mode) : Atom → Bool
  | .literal c => if m.wide then !m.caseless else !m.caseless || c.toNat < 0x80
  | .byte c => if m.wide then !m.caseless else c.toNat < 0x80
  | .set negated => !m.wide && !negated
  | .edge => true
  | .boundary => !m.wide
  | .any => m.wide

/-- Whether an atom has a meaning in a class. -/
def Mode.admitsInClass (m : Mode) : Atom → Bool
  | .literal c | .byte c => if m.wide then !m.caseless else c.toNat < 0x80
  | .set negated => !m.wide && !negated
  | _ => false

/-- The value of a hexadecimal digit. -/
def hexDigit? (c : Char) : Option Nat :=
  if c.isDigit then some (c.toNat - 0x30)
  else if 'a' ≤ c ∧ c ≤ 'f' then some (c.toNat - 0x57)
  else if 'A' ≤ c ∧ c ≤ 'F' then some (c.toNat - 0x37)
  else none

/-- Reads a number of the given count of hexadecimal digits. -/
def hexNumber? (m : Mode) : Nat → Nat → Text → Option (Nat × Text)
  | 0, n, t => some (n, t)
  | digits + 1, n, t =>
    match m.next t with
    | [] => none
    | c :: r => (hexDigit? c).bind fun d => hexNumber? m digits (n * 16 + d) r

/-- Reads a character by its number. -/
def codePoint? (m : Mode) (digits : Nat) (t : Text) : Option (Char × Text) :=
  (hexNumber? m digits 0 t).bind fun (n, r) =>
    if n.isValidChar then some (Char.ofNat n, r) else none

/-- Reads an escape behind its backslash. -/
def escape? (m : Mode) : Text → Option (Atom × Text)
  | [] => none
  | c :: r =>
    if c ∈ "dsw".toList then some (.set false, r)
    else if c ∈ "DSW".toList then some (.set true, r)
    else if c ∈ "Az".toList then some (.edge, r)
    else if c ∈ "bB<>".toList then some (.boundary, r)
    else if c ∈ "aftnrv".toList then
      some (.literal (if c = 'a' then '\x07' else if c = 'f' then '\x0C' else if c = 't' then '\t'
        else if c = 'n' then '\n' else if c = 'r' then '\r' else '\x0B'), r)
    else if c = 'x' then (codePoint? m 2 r).map fun (c, r) => (.byte c, r)
    else if c = 'u' then (codePoint? m 4 r).map fun (c, r) => (.literal c, r)
    else if c = 'U' then (codePoint? m 8 r).map fun (c, r) => (.literal c, r)
    else if c.toNat < 0x80 ∧ !c.isAlphanum then some (.literal c, r)
    else none

/-! ## Classes -/

/-- Reads one item of a class. -/
def classItem? (m : Mode) : Text → Option (Atom × Text)
  | [] => none
  | '\\' :: r => escape? m r
  | c :: r => some (.literal c, r)

/-- The character that an atom stands for in a range. -/
def Atom.char? : Atom → Option Char
  | .literal c | .byte c => some c
  | _ => none

/-- Drops the lines at the beginning of a class, which stand for themselves. -/
def dropLines (m : Mode) : Text → Text
  | '-' :: r => dropLines m r
  | c :: r => if m.spaced && Text.isBlank c then dropLines m r else c :: r
  | [] => []

/-- Reads the beginning of a class behind its bracket: a sign that negates it, lines, and a closing
bracket that stands for itself when nothing is before it. A class of ASCII alone has no complement
in texts. -/
def classBody? (m : Mode) (t : Text) : Option Text :=
  let (negated, t) := match m.next t with
    | '^' :: r => (true, m.next r)
    | t => (false, t)
  if negated && !m.wide then none
  else match t with
    | ']' :: r => if m.wide && m.caseless then none else some r
    | '-' :: _ => if m.wide && m.caseless then none else some (dropLines m t)
    | _ => some t

/-- Whether a text begins with the complement of a named class, behind its bracket. -/
def beginsWithNamedComplement (t : Text) : Bool :=
  ["alnum", "alpha", "ascii", "blank", "cntrl", "digit", "graph", "lower", "print", "punct", "space",
    "upper", "word", "xdigit"].any fun name => (":^".toList ++ name.toList ++ ":]".toList).isPrefixOf t

/-- Reads the classes that are open to the end of the outermost. The fuel bounds the number of
items. -/
def classes? (m : Mode) : Nat → Nat → Text → Option Text
  | 0, _, _ => none
  | _ + 1, 0, t => some t
  | fuel + 1, depth + 1, t =>
    match m.next t with
    | [] => none
    | '[' :: r =>
      if !m.wide && beginsWithNamedComplement r then none
      else (classBody? m r).bind (classes? m fuel (depth + 2))
    | ']' :: r => classes? m fuel depth r
    | '&' :: '&' :: r | '-' :: '-' :: r | '~' :: '~' :: r => classes? m fuel (depth + 1) r
    | t =>
      match classItem? m t with
      | none => none
      | some (low, r) =>
        if !m.admitsInClass low then none
        else match m.next r with
          | '-' :: r' =>
            let behind := m.next r'
            if behind.head? = some ']' ∨ behind.head? = some '-' then classes? m fuel (depth + 1) r
            else match classItem? m behind with
              | none => none
              | some (high, r) =>
                match low.char?, high.char? with
                | some a, some b =>
                  if a ≤ b ∧ m.admitsInClass high then classes? m fuel (depth + 1) r else none
                | _, _ => none
          | _ => classes? m fuel (depth + 1) r

/-! ## Groups -/

/-- Whether flags stand for something: each at most once, with at most one sign that switches those
behind it off. -/
def areFlags (flags : Text) : Bool :=
  flags.all (fun c => c ∈ "imsUuRx-".toList) && decide flags.Nodup && flags.getLast? != some '-'

/-- Whether a text names a group. -/
def isGroupName : Text → Bool
  | [] => false
  | c :: cs => (c == '_' || (Text.isAlphanumeric c && !c.isDigit))
      && cs.all fun c => c ∈ "_.[]".toList || Text.isAlphanumeric c

/-- What stands behind an opening parenthesis. -/
inductive GroupHead
  | opens (mode : Mode) (name? : Option Text)
  /-- Flags for the rest of the group around them; no group opens. -/
  | switches (mode : Mode)
  deriving DecidableEq, Repr

/-- Reads the head of a group behind its parenthesis. -/
def groupHead? (m : Mode) (t : Text) : Option (GroupHead × Text) :=
  match m.next t with
  | '?' :: 'P' :: '<' :: r | '?' :: '<' :: r =>
    match Text.cut '>' r with
    | some (name, r) => if isGroupName name then some (.opens m (some name), r) else none
    | none => none
  | '?' :: r =>
    let flags := r.takeWhile fun c => c ≠ ':' ∧ c ≠ ')'
    if !areFlags flags then none
    else match r.drop flags.length with
      | ':' :: r => some (.opens (m.set flags) none, r)
      | ')' :: r => if flags = [] then none else some (.switches (m.set flags), r)
      | _ => none
  | r => some (.opens m none, r)

/-! ## Expressions -/

/-- How far an expression is read: the modes around the open groups, the mode here, the names given
to groups, and whether something stands before that could be repeated. -/
structure Progress where
  outer : List Mode
  mode : Mode
  names : List Text
  operand : Bool
  deriving DecidableEq, Repr

/-- The progress behind the head of a group, unless its name is taken. -/
def Progress.enter? (p : Progress) : GroupHead → Option Progress
  | .switches m => some { p with mode := m, operand := false }
  | .opens m name? =>
    if name?.any p.names.contains then none
    else some ⟨p.mode :: p.outer, m, name?.toList ++ p.names, false⟩

/-- The progress behind the end of a group, if one is open. -/
def Progress.leave? (p : Progress) : Option Progress :=
  match p.outer with
  | [] => none
  | m :: outer => some { p with outer, mode := m, operand := true }

/-- Reads one step of an expression at a character that counts. -/
def step? (p : Progress) (c : Char) (r : Text) : Option (Progress × Text) :=
  let behind (r : Text) : Progress × Text := ({ p with operand := true }, r)
  let atom (a : Atom) (r : Text) : Option (Progress × Text) :=
    if p.mode.admits a then some (behind r) else none
  if c = '(' then (groupHead? p.mode r).bind fun (head, r) => (p.enter? head).map fun p => (p, r)
  else if c = ')' then p.leave?.map fun p => (p, r)
  else if c = '|' then some ({ p with operand := false }, r)
  else if c = '*' ∨ c = '+' ∨ c = '?' then if p.operand then some (behind r) else none
  else if c = '\x7b' then none
  else if c = '[' then
    (classBody? p.mode r).bind fun r => (classes? p.mode (r.length + 1) 1 r).map behind
  else if c = '\\' then (escape? p.mode r).bind fun (a, r) => atom a r
  else if c = '.' then atom .any r
  else if c = '^' ∨ c = '$' then atom .edge r
  else atom (.literal c) r

/-- Whether the rest of an expression is well-formed. The fuel bounds the number of steps. -/
def scan : Nat → Progress → Text → Bool
  | 0, _, _ => false
  | fuel + 1, p, t =>
    match p.mode.next t with
    | [] => p.outer == []
    | c :: r => match step? p c r with
      | none => false
      | some (p, r) => scan fuel p r

/-- Whether an expression is well-formed. -/
def isWellFormed (t : Text) : Bool := scan (t.length + 1) ⟨[], .plain, [], false⟩ t

end WireSchema.Pattern
