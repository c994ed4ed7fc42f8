import WireSchema.Text.Utf8

/-!
# Environment/Basic — variables of a process

A variable has a name and bytes as its value. A value that is not valid UTF-8 cannot be read and
counts as absent. Of several settings of one name the first counts.
-/

namespace WireSchema

/-- The variables of a process. -/
structure Environment where
  settings : List (Text × Bytes)
  deriving DecidableEq, Repr

namespace Environment

/-- The variables of a block of `name=value` pieces, each closed by a NUL byte. A piece without an
equals sign sets nothing. -/
def ofBlock (block : Bytes) : Environment :=
  ⟨(Bytes.pieces 0 block).filterMap fun piece =>
    let setting := piece.takeWhile (· ≠ 0)
    match setting.dropWhile (· ≠ 0x3D) with
    | [] => none
    | _ :: value => (Utf8.decode? (setting.takeWhile (· ≠ 0x3D))).map fun name => (name, value)⟩

/-- The bytes of a variable. A setting is found by its text up to an equals sign, so that a name which
holds one itself finds what follows it in a value of the variable named before its first. The empty
name finds nothing. -/
def bytes? (env : Environment) (name : Text) : Option Bytes :=
  if name = [] then none
  else match Text.cut '=' name with
    | none => env.settings.lookup name
    | some (base, rest) =>
      let lead := Utf8.encode (rest ++ ['='])
      env.settings.findSome? fun s =>
        if s.1 = base ∧ lead.isPrefixOf s.2 then some (s.2.drop lead.length) else none

/-- The value of a variable, if it is set and readable. -/
def get? (env : Environment) (name : Text) : Option Text := (env.bytes? name).bind Utf8.decode?

/-- Sets a variable, in the place of its earlier value. -/
def set (env : Environment) (name value : Text) : Environment :=
  ⟨(name, Utf8.encode value) :: env.settings.eraseP fun s => s.1 == name⟩

end Environment

end WireSchema
