import WireSchema.Compiler.Basic
import WireSchema.Text.Blank

/-!
# Config — where the generator reads and writes

Every setting has a default and one environment variable that replaces it. An empty value is a value:
only an absent variable leaves the default. The extension variable adds a second pass, and the skip
flag is the only text that can be wrong. Relative paths are resolved against the work directory.

The schema compiler mirrors the schema's path, relative to the work directory, inside the C++ output
directory; `Config.renamePair` is the source it leaves there and the name the build expects.
-/

namespace WireSchema

/-- The comment behind the functions of the base list. -/
def baseEndMarker : Text := "end of GL functions"

/-- The comment behind the functions of the extension list. -/
def extensionEndMarker : Text := "end of GL EXT functions"

/-- An entry-point list to read, and the comment that closes its part of the enum. -/
structure InputPass where
  path : FilePath
  endMarker : Text
  deriving DecidableEq, Repr

/-- The settings of a run. -/
structure Config where
  workDir : FilePath
  passes : List InputPass
  schemaPath : FilePath
  compiler : Text
  cppOut : FilePath
  javaOut : FilePath
  /-- Whether bindings are generated. -/
  compile : Bool
  deriving DecidableEq, Repr

/-- An environment variable that replaces a setting. -/
inductive Variable
  | workDir
  | apiInput
  | extApiInput
  | schemaOutput
  | compiler
  | cppOut
  | javaOut
  | skipCompile
  deriving DecidableEq, Repr

/-- The name under which a variable is looked up. -/
def Variable.key : Variable → Text
  | .workDir => "PROTOGEN_WORK_DIR"
  | .apiInput => "PROTOGEN_API_INPUT"
  | .extApiInput => "PROTOGEN_EXT_API_INPUT"
  | .schemaOutput => "PROTOGEN_SCHEMA_OUTPUT"
  | .compiler => "PROTOGEN_COMPILER"
  | .cppOut => "PROTOGEN_CPP_OUT"
  | .javaOut => "PROTOGEN_JAVA_OUT"
  | .skipCompile => "PROTOGEN_SKIP_COMPILE"

/-- Why settings are refused: the skip flag is no boolean. -/
structure ConfigError where
  /-- The flag's value, trimmed and in small letters. -/
  value : Text
  deriving DecidableEq, Repr

namespace ConfigError

/-- What is said about refused settings. -/
def message (_ : ConfigError) : Text := "invalid " ++ Variable.skipCompile.key

/-- The cause behind the message. -/
def cause (e : ConfigError) : Text := "expected a boolean, got `" ++ e.value ++ "`"

/-- The message followed by its cause. -/
def chain (e : ConfigError) : Text := e.message ++ ": " ++ e.cause

end ConfigError

/-- Reads a flag: blanks around it and the case of its ASCII letters do not matter. -/
def parseFlag (raw : Text) : Except ConfigError Bool :=
  let value := Text.lower (Text.trim raw)
  if value ∈ ["1".toList, "true".toList, "yes".toList, "on".toList] then .ok true
  else if value ∈ [[], "0".toList, "false".toList, "no".toList, "off".toList] then .ok false
  else .error ⟨value⟩

namespace Config

/-- The settings without any variable. -/
def default : Config where
  workDir := ⟨"."⟩
  passes := [⟨⟨"gl2_api.in"⟩, baseEndMarker⟩]
  schemaPath := ⟨"DebuggerMessage.proto"⟩
  compiler := "aprotoc"
  cppOut := ⟨"src"⟩
  javaOut := ⟨"client/src"⟩
  compile := true

/-- The settings under a lookup of variables. -/
def ofLookup (lookup : Text → Option Text) : Except ConfigError Config :=
  let get (v : Variable) : Option Text := lookup v.key
  let path (v : Variable) (fallback : FilePath) : FilePath := ((get v).map FilePath.mk).getD fallback
  let skip : Except ConfigError Bool := match get .skipCompile with
    | none => .ok false
    | some raw => parseFlag raw
  match skip with
  | .error e => .error e
  | .ok skip => .ok
    { workDir := path .workDir default.workDir
      passes := ⟨path .apiInput ⟨"gl2_api.in"⟩, baseEndMarker⟩
        :: ((get .extApiInput).map fun t => (⟨⟨t⟩, extensionEndMarker⟩ : InputPass)).toList
      schemaPath := path .schemaOutput default.schemaPath
      compiler := (get .compiler).getD default.compiler
      cppOut := path .cppOut default.cppOut
      javaOut := path .javaOut default.javaOut
      compile := !skip }

/-- The same settings, rooted at another directory. -/
def inDir (c : Config) (dir : FilePath) : Config := { c with workDir := dir }

/-- A path as seen from the work directory. -/
def resolve (c : Config) (p : FilePath) : FilePath := c.workDir.join p

/-- The bindings to generate: C++, then Java. -/
def targets (c : Config) : List BindingTarget := [⟨.cpp, c.cppOut⟩, ⟨.java, c.javaOut⟩]

/-- What the compiler is asked for. -/
def request (c : Config) : BindingRequest := ⟨c.workDir, c.schemaPath, c.targets⟩

/-- The schema's path inside an output directory: a relative path itself, an absolute one behind the
work directory, and else its file name. -/
def mirroredSchema (c : Config) : FilePath :=
  if c.schemaPath.isAbsolute then
    match c.schemaPath.stripPrefix? c.workDir with
    | some rest => rest
    | none => ⟨c.schemaPath.fileName?.getD []⟩
  else c.schemaPath

/-- The C++ source that the compiler leaves, and the name that the build expects. -/
def renamePair (c : Config) : FilePath × FilePath :=
  let dir := c.resolve c.cppOut
  (dir.join (c.mirroredSchema.withExtension "pb.cc"),
    dir.join (c.mirroredSchema.withExtension "pb.cpp"))

end Config

end WireSchema
