import WireSchema.Compiler.Basic
import WireSchema.Text.Blank

/-!
# Compiler/External — a program as schema compiler

The request becomes one command: an output option per target, in order, and the schema as the only
other argument. What the program writes to standard error is read leniently and loses its trailing
blanks; it is reported, and it is part of the error when the program ends without success.
-/

namespace WireSchema

/-- The option that names the output directory of a language. -/
def Language.outFlag : Language → Text
  | .cpp => "--cpp_out"
  | .java => "--java_out"

/-- The argument for one target. -/
def BindingTarget.argument (t : BindingTarget) : Text := t.language.outFlag ++ "=" ++ t.outDir.text

/-- All arguments of a request. -/
def BindingRequest.arguments (r : BindingRequest) : List Text :=
  r.targets.map BindingTarget.argument ++ [r.schema.text]

/-- The command of a request. -/
def BindingRequest.command (r : BindingRequest) (program : Text) : Command :=
  ⟨program, r.arguments, r.workDir⟩

/-- A command as reports show it. -/
def Command.shown (c : Command) : Text :=
  "cd " ++ Text.quote c.directory.text ++ " && " ++ Text.quote c.program
    ++ c.args.flatMap fun a => ' ' :: Text.quote a

namespace Compiler

/-- What a program's standard error says. -/
def diagnostics (stderr : Bytes) : Text := Text.trimEnd (Utf8.decodeLossy stderr)

/-- The outcome of a launch: success only for a child that ended with success. -/
def outcome (program : Text) : Except SystemError Exit → Except CompileError Unit
  | .error .notFound => .error (.notFound program)
  | .error e => .error (.spawn program e)
  | .ok exit =>
    if exit.status.isSuccess then .ok ()
    else .error (.failed program exit.status (diagnostics exit.stderr))

/-- What is reported about a launch. -/
def launchRecords (c : Command) (exit : Except SystemError Exit) : List Record :=
  ⟨.debug, .compiler, "invoking schema compiler", [("program", c.program), ("cmd", c.shown)]⟩
    :: match exit with
      | .error _ => []
      | .ok exit =>
        if exit.stderr = [] then []
        else [⟨.debug, .compiler, "schema compiler diagnostics",
          [("stderr", diagnostics exit.stderr)]⟩]

/-- The compiler that launches a program. -/
def launching (launch : Launcher) (program : Text) : Compiler := fun request fs =>
  let command := request.command program
  let launched := launch fs command
  { result := outcome program launched.exit
    files := launched.files
    log := launchRecords command launched.exit
    child? := launched.child? }

/-- The compiler that runs a program of a host. -/
def external (h : Host) (program : Text) : Compiler := launching h.launch program

end Compiler

end WireSchema
