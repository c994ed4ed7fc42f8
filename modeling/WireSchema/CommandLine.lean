import WireSchema.Environment.File
import WireSchema.Log.Filter
import WireSchema.Session

/-!
# CommandLine — sessions as they are started

The variables of a session are those that the program finds, completed by the nearest environment
file. Its console shows the records that the filter lets through, a line for each, and its commands
are answered by a host. A file with a variable that cannot be set ends the program with a crash before
the session.
-/

namespace WireSchema

/-- What the program finds when it starts. -/
structure Invocation where
  environment : Environment
  files : FileSystem
  host : Host

namespace CommandLine

/-- A text behind four blanks, on each of its lines. -/
def indent (t : Text) : Text :=
  "    " ++ t.flatMap fun c => if c = '\n' then "\n    ".toList else [c]

/-- What is shown when the settings are refused. -/
def refusal (e : ConfigError) : Text :=
  "Error: " ++ e.message ++ "\n\nCaused by:\n" ++ indent e.cause ++ "\n"

/-- The console of an environment: its filter decides which records are shown. -/
def console (env : Environment) : Console where
  records rs :=
    let filter := LogFilter.ofVariable (env.get? "RUST_LOG")
    Text.unlines ((rs.filter filter.shows).map Record.line)
  refusal := refusal

/-- The session of an invocation, if its environment file can be taken over. -/
def session (i : Invocation) : Except UnsettableVariable Session :=
  (EnvironmentFile.load i.environment i.files).map fun env =>
    ⟨env, i.files, i.host.launch, console env⟩

/-- The settings of an invocation, unless they are refused. -/
def config? (i : Invocation) : Option Config :=
  (session i).toOption.bind fun s => s.config.toOption

/-- Starts the program. -/
def run (i : Invocation) : Completion :=
  match session i with
  | .error e => ⟨101, [], e.message ++ ['\n'], i.files, []⟩
  | .ok s => s.run

end CommandLine

end WireSchema
