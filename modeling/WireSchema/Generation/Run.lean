import WireSchema.Config
import WireSchema.Document
import WireSchema.Generation.Basic

/-!
# Generation/Run — from the entry-point lists to the renamed bindings

A run checks that every list is a file and, when bindings are wanted, that every output directory is
a directory. Then it reads the lists in order into the enum, writes the schema, has the bindings
generated, and renames the C++ source. The first failure ends it. Nothing is written before the
whole enum stands, and a failed step writes nothing.

`buildEnum` is the reading alone, without the checks.
-/

namespace WireSchema

namespace Config

/-- The first list that is no file, or the first output directory that is no directory. -/
def unmet? (c : Config) (fs : FileSystem) : Option GenerateError :=
  let inputs := c.passes.map fun p => c.resolve p.path
  let outputs := c.targets.map fun t => c.resolve t.outDir
  match inputs.find? fun p => !fs.isFile p with
  | some p => some (.inputNotFound p)
  | none =>
    if c.compile then (outputs.find? fun p => !fs.isDirectory p).map .outputDirMissing else none

/-- Reads one list into a table: the number of its entries and the table after it. -/
def readPass (c : Config) (fs : FileSystem) (t : FunctionTable) (p : InputPass) :
    Except GenerateError (Nat × FunctionTable) :=
  let path := c.resolve p.path
  match fs.readText path with
  | .error .notFound => .error (.inputNotFound path)
  | .error e => .error (.read path e)
  | .ok content =>
    match t.extend ⟨p.path.text, Text.lines content, p.endMarker⟩ with
    | .error e => .error (.ofTable path e)
    | .ok r => .ok r

/-- What is reported about a list that was read. -/
def scannedRecord (c : Config) (p : InputPass) (added : Nat) : Record :=
  ⟨.info, .generator, "scanned entry points",
    [("input", (c.resolve p.path).text), ("entries", Text.decimal added)]⟩

/-- Reads lists into a table, one after the other. -/
def readPasses (c : Config) (fs : FileSystem) :
    FunctionTable → List InputPass → Except GenerateError FunctionTable × List Record
  | t, [] => (.ok t, [])
  | t, p :: ps =>
    match c.readPass fs t p with
    | .error e => (.error e, [])
    | .ok (added, t) =>
      let rest := readPasses c fs t ps
      (rest.1, c.scannedRecord p added :: rest.2)

/-- The enum of all lists. -/
def buildEnum (c : Config) (fs : FileSystem) : Except GenerateError FunctionEnum × List Record :=
  let read := c.readPasses fs .empty c.passes
  (read.1.map FunctionTable.finish, read.2)

/-- What is reported about a schema that was written. -/
def writtenRecord (c : Config) (e : FunctionEnum) : Record :=
  ⟨.info, .generator, "schema written",
    [("path", (c.resolve c.schemaPath).text), ("functions", Text.decimal e.functions),
     ("control_start", Text.decimal e.controlStart.toNat)]⟩

/-- What is reported about a target before its bindings are generated. -/
def targetRecord (t : BindingTarget) : Record :=
  ⟨.info, .generator, "generating bindings",
    [("language", Text.quote t.language.name), ("out_dir", t.outDir.text)]⟩

/-- Has the bindings generated and renames the C++ source: the new name, the files and the reports. -/
def compileBindings (c : Config) (compiler : Compiler) (fs : FileSystem) :
    Except GenerateError FilePath × FileSystem × List Record × List CompilerCall :=
  let reply := compiler c.request fs
  let calls := [⟨c.request, fs, reply.child?⟩]
  let log := c.targets.map targetRecord ++ reply.log
  match reply.result with
  | .error e => (.error (.compile e), reply.files, log, calls)
  | .ok () =>
    let pair := c.renamePair
    match reply.files.rename pair.1 pair.2 with
    | .error e => (.error (.rename pair.1 pair.2 e), reply.files, log, calls)
    | .ok fs =>
      let renamed : Record := ⟨.info, .generator, "renamed generated source",
        [("from", pair.1.text), ("to", pair.2.text)]⟩
      (.ok pair.2, fs, log ++ [renamed], calls)

/-- Runs a generation. -/
def run (c : Config) (compiler : Compiler) (fs : FileSystem) : Outcome :=
  match c.unmet? fs with
  | some e => ⟨.error e, fs, [], []⟩
  | none =>
    let built := c.buildEnum fs
    match built.1 with
    | .error e => ⟨.error e, fs, built.2, []⟩
    | .ok enum =>
      let schemaPath := c.resolve c.schemaPath
      match fs.write schemaPath (Utf8.encode (Document.render enum)) with
      | .error e => ⟨.error (.writeSchema schemaPath e), fs, built.2, []⟩
      | .ok written =>
        let log := built.2 ++ [c.writtenRecord enum]
        let report (renamed? : Option FilePath) : Report :=
          ⟨enum.functions, enum.controlStart, schemaPath, renamed?⟩
        if c.compile then
          let r := c.compileBindings compiler written
          ⟨r.1.map fun p => report (some p), r.2.1, log ++ r.2.2.1, r.2.2.2⟩
        else
          ⟨.ok (report none), written, log ++
            [⟨.info, .generator, "compilation disabled; skipping bindings", []⟩], []⟩

end Config

end WireSchema
