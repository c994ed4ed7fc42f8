import WireSchema.CommandLine
import WireSchema.FileSystem.Tree

/-!
# Main — the program on a real machine

What the program may look at is loaded into a file system, the program runs on it, and the files it
changed are stored. Paths decide what is loaded: every location that a walk along them can touch. This
layer starts no child processes — its host has no programs, so a run that wants bindings ends at the
compile stage, with the schema written.
-/

namespace WireSchema.Main

/-- The absolute path of a location. -/
def pathOf (l : Location) : String := String.ofList ('/' :: ['/'].intercalate l)

/-- What stands at a location: a file with its content, a directory, which refuses to be read as a
file, or nothing. -/
def probe (l : Location) : IO (Option Node) := do
  try
    let content ← IO.FS.readBinFile (pathOf l)
    return some (.file content.toList)
  catch
    | .inappropriateType _ 21 _ => return some .directory
    | _ => return none

/-- The locations that a walk along a path can touch. -/
def touched (fs : FileSystem) (p : FilePath) : List Location :=
  let parts := Text.split '/' p.text
  (List.range (parts.length + 1)).map fun n =>
    fs.spelled ⟨['/'].intercalate (parts.take n)⟩

/-- Loads locations that are not loaded yet. -/
def load (fs : FileSystem) (ls : List Location) : IO FileSystem :=
  ls.foldlM (fun fs l => do
    if (fs.node? l).isSome then return fs
    match ← probe l with
    | some n => return fs.put l n
    | none => return fs) fs

/-- The variables of this process; where the system does not show them all, those that settings and
the filter are read from. -/
def environment : IO Environment := do
  try
    return .ofBlock (← IO.FS.readBinFile "/proc/self/environ").toList
  catch _ =>
    let keys := "RUST_LOG".toList :: [Variable.workDir, .apiInput, .extApiInput, .schemaOutput,
      .compiler, .cppOut, .javaOut, .skipCompile].map Variable.key
    let values ← keys.mapM fun k => do return (k, ← IO.getEnv (String.ofList k))
    return ⟨values.filterMap fun (k, v) => v.map fun v => (k, Utf8.encode v.toList)⟩

/-- The paths that settings make the program look at. -/
def pathsOf (c : Config) : List FilePath :=
  c.resolve c.schemaPath :: c.passes.map (fun p => c.resolve p.path)
    ++ c.targets.map fun t => c.resolve t.outDir

/-- Stores the files that differ between two file systems. -/
def store (before after : FileSystem) : IO Unit :=
  after.nodes.forM fun (l, n) =>
    match n with
    | .file content =>
      if before.node? l = some n then pure ()
      else IO.FS.writeBinFile (pathOf l) ⟨content.toArray⟩
    | .directory => pure ()

end WireSchema.Main

open WireSchema

/-- Runs the program in the current directory; the result is its exit code. -/
def main : IO UInt32 := do
  let current : FilePath := ⟨(toString (← IO.currentDir)).toList⟩
  let bare : FileSystem := ⟨[], []⟩
  let bare := { bare with current := bare.spelled current }
  let above := Main.touched bare current
  let fs ← Main.load bare (above ++ above.map fun l => l ++ [".env".toList])
  let invocation : Invocation := ⟨← Main.environment, fs, ⟨[], []⟩⟩
  let fs ← match CommandLine.config? invocation with
    | some c => Main.load fs ((Main.pathsOf c).flatMap (Main.touched fs))
    | none => pure fs
  let out := CommandLine.run { invocation with files := fs }
  Main.store fs out.files
  (← IO.getStdout).putStr (String.ofList out.stdout)
  (← IO.getStderr).putStr (String.ofList out.stderr)
  return out.exitCode.toUInt32
