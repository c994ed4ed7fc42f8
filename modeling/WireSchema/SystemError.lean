import WireSchema.Text.Basic

/-!
# SystemError — why the operating system refuses

An error of the system is its cause; the text is the system's own, with the error's number where it
has one.
-/

namespace WireSchema

/-- Why reading, writing, renaming or launching failed. -/
inductive SystemError
  | notFound
  | argumentsTooLong
  | permissionDenied
  | busy
  | notDirectory
  | isDirectory
  | invalidArgument
  | nameTooLong
  | notEmpty
  /-- A path holds a NUL character. -/
  | nulInPath
  /-- A program, argument or directory of a command holds a NUL character. -/
  | nulInCommand
  /-- A file that should be text is not valid UTF-8. -/
  | invalidText
  /-- Any other cause, by its text. -/
  | other (text : Text)
  deriving DecidableEq, Repr

namespace SystemError

/-- The text of a numbered error. -/
def numbered (text : Text) (number : Nat) : Text :=
  text ++ " (os error " ++ Text.decimal number ++ ")"

/-- The system's text for an error. -/
def message : SystemError → Text
  | .notFound => numbered "No such file or directory" 2
  | .argumentsTooLong => numbered "Argument list too long" 7
  | .permissionDenied => numbered "Permission denied" 13
  | .busy => numbered "Device or resource busy" 16
  | .notDirectory => numbered "Not a directory" 20
  | .isDirectory => numbered "Is a directory" 21
  | .invalidArgument => numbered "Invalid argument" 22
  | .nameTooLong => numbered "File name too long" 36
  | .notEmpty => numbered "Directory not empty" 39
  | .nulInPath => "file name contained an unexpected NUL byte"
  | .nulInCommand => "nul byte found in provided data"
  | .invalidText => "stream did not contain valid UTF-8"
  | .other text => text

end SystemError

end WireSchema
