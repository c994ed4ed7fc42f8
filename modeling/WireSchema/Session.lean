import WireSchema.Compiler.External
import WireSchema.Environment.Basic
import WireSchema.Generation.Run

/-!
# Session — one run of the whole program

The program takes no arguments. It reads its settings from its variables and runs one generation with
a launched program as schema compiler. It ends with code 0 when the generation is complete and with
code 1 otherwise; settings that are refused are reported without any record. Standard output stays
empty.

What surrounds the program comes with the session: its variables, once all of them are set; the files;
the launcher that answers its command; and the console, which decides how reports look on standard
error.
-/

namespace WireSchema

/-- How standard error shows what the program reports. -/
structure Console where
  /-- The records of a generation, in their order. -/
  records : List Record → Text
  /-- Settings that are refused. -/
  refusal : ConfigError → Text

/-- What the program is started with. -/
structure Session where
  environment : Environment
  files : FileSystem
  launch : Launcher
  console : Console

/-- What the program leaves when it ends. -/
structure Completion where
  exitCode : UInt8
  stdout : Text
  stderr : Text
  files : FileSystem
  calls : List CompilerCall

namespace Session

/-- What is reported before a generation. -/
def startRecord (c : Config) : Record :=
  ⟨.info, .program, "starting debugger-proto-gen",
    [("work_dir", c.workDir.text), ("passes", Text.decimal c.passes.length),
     ("compiler", c.compiler)]⟩

/-- A renamed source as reports show it. -/
def renamedText : Option FilePath → Text
  | none => "None"
  | some p => "Some(" ++ Text.quote p.text ++ ")"

/-- What is reported behind a generation. -/
def endRecord : Except GenerateError Report → Record
  | .ok r => ⟨.info, .program, "generation complete",
      [("functions", Text.decimal r.functions),
       ("control_start", Text.decimal r.controlStart.toNat), ("schema", r.schemaPath.text),
       ("renamed", renamedText r.renamed?)]⟩
  | .error e => ⟨.error, .program, "generation failed",
      [("stage", e.stage.name), ("error", e.chain)]⟩

/-- The settings of a session. -/
def config (s : Session) : Except ConfigError Config := Config.ofLookup s.environment.get?

/-- Runs the program. -/
def run (s : Session) : Completion :=
  match s.config with
  | .error e => ⟨1, [], s.console.refusal e, s.files, []⟩
  | .ok c =>
    let out := c.run (Compiler.launching s.launch c.compiler) s.files
    { exitCode := match out.result with
        | .ok _ => 0
        | .error _ => 1
      stdout := []
      stderr := s.console.records (startRecord c :: out.log ++ [endRecord out.result])
      files := out.files
      calls := out.calls }

end Session

end WireSchema
