import WireSchema.Text.Basic

/-!
# Process/Status — how a child process ended

The system packs the end of a process into one word. The low seven bits are the signal that killed
it, zero when it ended by itself with the code in the second byte; bit `0x80` says that its memory
was dumped. The remaining patterns are of processes that have not ended. Success is the zero word.
-/

namespace WireSchema

/-- The packed end of a process. -/
structure WaitStatus where
  raw : UInt32
  deriving DecidableEq, Repr

/-- The names of the signals, by number. -/
def signalNames : List (Nat × String) :=
  [(1, "SIGHUP"), (2, "SIGINT"), (3, "SIGQUIT"), (4, "SIGILL"), (5, "SIGTRAP"), (6, "SIGABRT"),
   (7, "SIGBUS"), (8, "SIGFPE"), (9, "SIGKILL"), (10, "SIGUSR1"), (11, "SIGSEGV"),
   (12, "SIGUSR2"), (13, "SIGPIPE"), (14, "SIGALRM"), (15, "SIGTERM"), (16, "SIGSTKFLT"),
   (17, "SIGCHLD"), (18, "SIGCONT"), (19, "SIGSTOP"), (20, "SIGTSTP"), (21, "SIGTTIN"),
   (22, "SIGTTOU"), (23, "SIGURG"), (24, "SIGXCPU"), (25, "SIGXFSZ"), (26, "SIGVTALRM"),
   (27, "SIGPROF"), (28, "SIGWINCH"), (29, "SIGIO"), (30, "SIGPWR"), (31, "SIGSYS")]

namespace WaitStatus

/-- The status of a process that ended with a code. -/
def ofCode (code : UInt8) : WaitStatus := ⟨code.toUInt32 <<< 8⟩

/-- The status of a process that a signal killed, as tests give it. -/
def ofSignal (signal : UInt8) : WaitStatus := ⟨signal.toUInt32 &&& 0x7F⟩

/-- The second byte of the word. -/
def secondByte (s : WaitStatus) : Nat := s.raw.toNat / 0x100 % 0x100

/-- Whether the process ended by itself, without complaint. -/
def isSuccess (s : WaitStatus) : Bool := s.raw == 0

/-- The code of a process that ended by itself. -/
def code? (s : WaitStatus) : Option Nat :=
  if s.raw.toNat % 0x80 = 0 then some s.secondByte else none

/-- The signal that killed the process. -/
def signal? (s : WaitStatus) : Option Nat :=
  let low := s.raw.toNat % 0x80
  if low = 0 ∨ low = 0x7F then none else some low

/-- Whether a killed process left a dump of its memory. -/
def dumped (s : WaitStatus) : Bool := s.raw.toNat / 0x80 % 2 == 1

/-- A signal as reports show it: its number and, if it has one, its name. -/
def signalText (n : Nat) : Text :=
  Text.decimal n ++ match signalNames.lookup n with
    | some name => " (" ++ name ++ ")"
    | none => []

/-- The word as a signed number. -/
def signedText (s : WaitStatus) : Text :=
  if s.raw.toNat < 0x80000000 then Text.decimal s.raw.toNat
  else '-' :: Text.decimal (0x100000000 - s.raw.toNat)

/-- What is said about the end of a process. -/
def text (s : WaitStatus) : Text :=
  match s.code? with
  | some code => "exit status: " ++ Text.decimal code
  | none =>
    match s.signal? with
    | some n => "signal: " ++ signalText n ++ (if s.dumped then " (core dumped)" else "" : Text)
    | none =>
      if s.raw.toNat % 0x100 = 0x7F then
        "stopped (not terminated) by signal: " ++ signalText s.secondByte
      else if s.raw = 0xFFFF then "continued (WIFCONTINUED)"
      else "unrecognised wait status: " ++ s.signedText ++ " 0x"
        ++ (Nat.toDigits 16 s.raw.toNat : Text)

end WaitStatus

end WireSchema
