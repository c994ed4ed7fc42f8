import WireSchema.Compiler.Basic
import WireSchema.FunctionTable

/-!
# Generation/Basic — how a generation can fail, and what it reports

A generation goes through five stages. Every error belongs to one of them, shows what it is about,
and may stand for the error of another part, which its chain then adds.
-/

namespace WireSchema

/-- A part of a generation. -/
inductive Stage
  | preconditions
  | extract
  | writeSchema
  | compile
  | rename
  deriving DecidableEq, Repr

/-- The name of a stage in reports. -/
def Stage.name : Stage → Text
  | .preconditions => "preconditions"
  | .extract => "extract"
  | .writeSchema => "write-schema"
  | .compile => "compile"
  | .rename => "rename"

/-- Why a generation stopped. -/
inductive GenerateError
  | inputNotFound (path : FilePath)
  | outputDirMissing (path : FilePath)
  | read (path : FilePath) (source : SystemError)
  | parse (path : FilePath) (source : ParseError)
  | duplicateEntry (name : Text) (place first : Place)
  | reservedName (name : Text) (place : Place)
  | writeSchema (path : FilePath) (source : SystemError)
  | compile (source : CompileError)
  | rename (source target : FilePath) (error : SystemError)
  deriving DecidableEq, Repr

namespace GenerateError

/-- The stage that an error belongs to. -/
def stage : GenerateError → Stage
  | .inputNotFound _ | .outputDirMissing _ => .preconditions
  | .read _ _ | .parse _ _ | .duplicateEntry _ _ _ | .reservedName _ _ => .extract
  | .writeSchema _ _ => .writeSchema
  | .compile _ => .compile
  | .rename _ _ _ => .rename

/-- What is said about an error. -/
def message : GenerateError → Text
  | .inputNotFound path => "input not found: " ++ path.text
  | .outputDirMissing path => "output directory missing: " ++ path.text
  | .read path _ => "failed to read " ++ path.text
  | .parse path source => path.text ++ ": " ++ source.message
  | .duplicateEntry name place first =>
    "duplicate enum member `" ++ name ++ "` at " ++ place.text
      ++ " (first seen at " ++ first.text ++ ")"
  | .reservedName name place =>
    "`" ++ name ++ "` at " ++ place.text ++ " is reserved for a control value"
  | .writeSchema path _ => "failed to write schema " ++ path.text
  | .compile source => source.message
  | .rename source target _ => "failed to rename " ++ source.text ++ " to " ++ target.text

/-- The message followed by the causes behind it. -/
def chain (e : GenerateError) : Text :=
  match e with
  | .read _ source | .writeSchema _ source | .rename _ _ source =>
    e.message ++ ": " ++ source.message
  | .parse _ source => e.message ++ ": " ++ source.message
  | .compile source => source.chain
  | _ => e.message

/-- The error of a pass that the table did not take, for a file at a path. -/
def ofTable (path : FilePath) : TableError → GenerateError
  | .parse e => .parse path e
  | .duplicate name place first => .duplicateEntry name place first
  | .reserved name place => .reservedName name place

end GenerateError

/-- What a complete generation reports. -/
structure Report where
  functions : Nat
  controlStart : UInt32
  schemaPath : FilePath
  /-- The renamed source, if bindings were generated. -/
  renamed? : Option FilePath
  deriving DecidableEq, Repr

/-- One call of the schema compiler: the request, the files it found, and its child process. -/
structure CompilerCall where
  request : BindingRequest
  found : FileSystem
  child? : Option Child

/-- What a generation leaves. -/
structure Outcome where
  result : Except GenerateError Report
  files : FileSystem
  log : List Record
  calls : List CompilerCall

end WireSchema
