import WireSchema.Log.Record
import WireSchema.Process.Launch

/-!
# Compiler/Basic — schema compilers

A request asks for the bindings of every target at once. A target is a language and the directory for
its sources; the request names them, the schema and the directory against which relative paths are
read.

A schema compiler answers a request: it changes the files and succeeds or fails. It fails in three
ways — its program is not found, cannot be launched, or ends without success.
-/

namespace WireSchema

/-! ## Requests -/

/-- A language for which bindings are generated. -/
inductive Language
  | cpp
  | java
  deriving DecidableEq, Repr

/-- The short name of the language. -/
def Language.name : Language → Text
  | .cpp => "cpp"
  | .java => "java"

/-- The bindings of one language, and where they go. -/
structure BindingTarget where
  language : Language
  outDir : FilePath
  deriving DecidableEq, Repr

/-- One invocation of the schema compiler. -/
structure BindingRequest where
  workDir : FilePath
  schema : FilePath
  targets : List BindingTarget
  deriving DecidableEq, Repr

/-! ## Answers -/

/-- Why bindings were not generated. -/
inductive CompileError
  | notFound (program : Text)
  | spawn (program : Text) (source : SystemError)
  | failed (program : Text) (status : WaitStatus) (stderr : Text)
  deriving DecidableEq, Repr

namespace CompileError

/-- What is said about a failed compiler. -/
def message : CompileError → Text
  | .notFound program => "schema compiler `" ++ program ++ "` not found"
  | .spawn program _ => "failed to launch schema compiler `" ++ program ++ "`"
  | .failed program status stderr =>
    "schema compiler `" ++ program ++ "` exited with " ++ status.text ++ ": " ++ stderr

/-- The message followed by the cause behind it, if there is one. -/
def chain (e : CompileError) : Text :=
  match e with
  | .spawn _ source => e.message ++ ": " ++ source.message
  | _ => e.message

end CompileError

/-- The answer of a schema compiler. -/
structure CompilerReply where
  result : Except CompileError Unit
  /-- The files it leaves. -/
  files : FileSystem
  log : List Record
  /-- The child process that did the work, if one started. -/
  child? : Option Child

/-- A schema compiler: what it does with a request and the files it finds. -/
abbrev Compiler := BindingRequest → FileSystem → CompilerReply

end WireSchema
