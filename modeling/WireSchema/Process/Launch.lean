import WireSchema.FileSystem.Basic
import WireSchema.Process.Status

/-!
# Process/Launch — starting a child process

Whoever launches a command sees how that came out: an error, or the end of a child, and the files as
they are then. A `Launcher` is any way to answer commands; nothing is asked of it, so that a child may
do whatever a child can, to the files and to the directory that its caller stands in.

A `Host` answers commands in a fixed order, and the first step that fails gives the error:

* a NUL character anywhere in the command is refused;
* the command's directory is entered;
* the program is found, seen from that directory: a name with a separator is a path, any other name
  is looked up among the programs of the search path;
* the program is executed, which needs an executable file whose interpreter exists.

What a program then does — to the files, and how it ends — is a function that the host holds. A host
is a plain launcher: the size of the environment does not matter to it, a program is executable by
where it stands, whatever its file holds, and the caller's directory stays where it was.
-/

namespace WireSchema

/-- A program to run, its arguments, and the directory to run it in. -/
structure Command where
  program : Text
  args : List Text
  directory : FilePath
  deriving DecidableEq, Repr

/-- What a child process was started from. -/
inductive Image
  /-- A file. -/
  | file (l : Location)
  /-- A program of the search path. -/
  | known (name : Text)
  deriving DecidableEq, Repr

/-- A child process as it starts. -/
structure Child where
  image : Image
  directory : Location
  args : List Text
  deriving DecidableEq, Repr

/-- The end of a child process, with what it wrote to standard error. -/
structure Exit where
  status : WaitStatus
  stderr : Bytes
  deriving DecidableEq, Repr

/-- The outcome of launching a command. -/
structure Launch where
  /-- The child, if it started. -/
  child? : Option Child
  exit : Except SystemError Exit
  files : FileSystem

/-- A way to launch commands and wait for their end, from the files that they find. -/
abbrev Launcher := FileSystem → Command → Launch

/-! ## Hosts -/

/-- A file that may be executed. -/
inductive Executable
  /-- Its interpreter does not exist. -/
  | orphan
  /-- It runs: from its start and the files it finds to its end and the files it leaves. -/
  | runs (behaviour : Child → FileSystem → Exit × FileSystem)

/-- The programs that can be started. -/
structure Host where
  /-- The programs that a bare name finds. -/
  known : List (Text × Executable)
  /-- The executable files. -/
  files : List (Location × Executable)

namespace Host

/-- The longest argument that a program can be given, in bytes. -/
def maxArgLength : Nat := 131071

/-- Finds a program by its name, seen from the current directory. -/
def find (h : Host) (fs : FileSystem) (program : Text) : Except SystemError (Image × Executable) :=
  if '/' ∈ program then
    match fs.locate ⟨program⟩ with
    | .error e => .error e
    | .ok l =>
      match h.files.lookup l, fs.node? l with
      | some x, some (.file _) => .ok (.file l, x)
      | _, _ => .error .permissionDenied
  else if program = ['.'] ∨ program = ['.', '.'] then .error .permissionDenied
  else if Utf8.length program > FileSystem.maxNameLength then .error .nameTooLong
  else match h.known.lookup program with
    | none => .error .notFound
    | some x => .ok (.known program, x)

/-- The directory in which a command runs. -/
def enter (fs : FileSystem) (dir : FilePath) : Except SystemError Location :=
  match fs.locate dir with
  | .error e => .error e
  | .ok l => if fs.node? l = some .directory then .ok l else .error .notDirectory

/-- A command made ready to run. -/
def prepare (h : Host) (fs : FileSystem) (c : Command) :
    Except SystemError (Child × (Child → FileSystem → Exit × FileSystem)) :=
  if '\x00' ∈ c.program ∨ (c.args.any fun a => '\x00' ∈ a) ∨ '\x00' ∈ c.directory.text then
    .error .nulInCommand
  else match enter fs c.directory with
    | .error e => .error e
    | .ok dir =>
      match h.find { fs with current := dir } c.program with
      | .error e => .error e
      | .ok (image, x) =>
        if c.args.any fun a => Utf8.length a > maxArgLength then .error .argumentsTooLong
        else match x with
          | .orphan => .error .notFound
          | .runs behaviour => .ok (⟨image, dir, c.args⟩, behaviour)

/-- Launches a command and waits for its end. -/
def launch (h : Host) (fs : FileSystem) (c : Command) : Launch :=
  match h.prepare fs c with
  | .error e => ⟨none, .error e, fs⟩
  | .ok (child, behaviour) =>
    let r := behaviour child { fs with current := child.directory }
    ⟨some child, .ok r.1, { r.2 with current := fs.current }⟩

end Host

end WireSchema
