import Mathlib.Tactic.Common
import WireSchema.Config
import WireSchema.Proofs.Process.Launch
import WireSchema.Compiler.External

/-!
# Proofs/Compiler/Answer — what a program answers to a request

A program gets one argument for each output directory and one for the schema.  Its answer is decided
by its launch alone: a launch that misses something is answered as a missing program, any other
failure as one to launch it, and a child that ended is believed only when it ended with success.

* `launching_eq_ok_iff`, `external_eq_notFound_iff` — two of the answers, by the launch.
-/

namespace WireSchema

/-! ## Arguments -/

/-- The command that the settings ask for: the program in the work directory, with the output directory
of each language and the schema. -/
def Config.command (c : Config) : Command where
  program := c.compiler
  args := ["--cpp_out=".toList ++ c.cppOut.text, "--java_out=".toList ++ c.javaOut.text,
    c.schemaPath.text]
  directory := c.workDir

/-- The command for the bindings of a configuration is the one that its settings ask for. -/
theorem Config.command_request (c : Config) : c.request.command c.compiler = c.command := rfl

theorem BindingTarget.not_nul_argument {t : BindingTarget} (h : '\x00' ∉ t.outDir.text) :
    '\x00' ∉ t.argument := by
  have hflag : '\x00' ∉ t.language.outFlag ++ "=" := by
    cases t.language <;> decide
  exact fun hnul => (List.mem_append.1 hnul).elim hflag h

namespace Compiler

variable {h : Host} {launch : Launcher} {program : Text} {r : BindingRequest} {fs : FileSystem}

/-! ## Outcomes -/

theorem outcome_eq_notFound_iff {p : Text} {exit : Except SystemError Exit} :
    outcome program exit = .error (.notFound p) ↔ exit = .error .notFound ∧ p = program := by
  rcases exit with e | exit
  · cases e <;> simp [outcome, eq_comm]
  · dsimp only [outcome]
    split <;> simp

theorem outcome_eq_ok_iff {exit : Except SystemError Exit} :
    outcome program exit = .ok () ↔ ∃ x, exit = .ok x ∧ x.status.raw = 0 := by
  rcases exit with e | exit
  · cases e <;> simp [outcome]
  · dsimp only [outcome]
    split <;> simp_all [WaitStatus.isSuccess]

/-- **A program is reported missing exactly when its launch misses something.** -/
theorem external_eq_notFound_iff {p : Text} :
    (external h program r fs).result = .error (.notFound p)
      ↔ h.prepare fs (r.command program) = .error .notFound ∧ p = program := by
  rw [← Host.launch_exit_eq_error_iff]
  exact outcome_eq_notFound_iff

/-- **A program succeeds exactly when its child ends with the status zero.** -/
theorem launching_eq_ok_iff : (launching launch program r fs).result = .ok ()
    ↔ ∃ exit, (launch fs (r.command program)).exit = .ok exit ∧ exit.status.raw = 0 :=
  outcome_eq_ok_iff

/-- Launchers matter through the one launch only. -/
theorem launching_congr {launch' : Launcher}
    (hlaunch : launch' fs (r.command program) = launch fs (r.command program)) :
    launching launch' program r fs = launching launch program r fs := by
  rw [launching, launching, hlaunch]

end Compiler

end WireSchema
