import Mathlib.Tactic.Common
import WireSchema.Process.Launch

/-!
# Proofs/Process/Launch — what a launch needs, and why it misses something

A command is made ready in steps, and each of them can fail: its texts, its directory, its program,
its arguments, the interpreter.  `preparation` says that there is no other way.  The directory and the
program can be missed with the same error, so that the error alone does not say which.

* `prepare_of_missing_directory` — a directory that is not there is missed before any program.
* `of_launch_exit` — a launch that came to an end, and the child that it started.
-/

namespace WireSchema

/-- No part of a command holds a NUL character. -/
structure Command.Clean (c : Command) : Prop where
  program : '\x00' ∉ c.program
  args : ∀ a ∈ c.args, '\x00' ∉ a
  directory : '\x00' ∉ c.directory.text

/-- No argument of a command is too long. -/
def Command.Short (c : Command) : Prop := ∀ a ∈ c.args, Utf8.length a ≤ Host.maxArgLength

theorem Command.clean_iff {c : Command} : c.Clean
    ↔ ¬ ('\x00' ∈ c.program ∨ (c.args.any fun a => '\x00' ∈ a) ∨ '\x00' ∈ c.directory.text) := by
  simp only [List.any_eq_true, decide_eq_true_eq, not_or, not_exists, not_and]
  exact ⟨fun ⟨hp, ha, hd⟩ => ⟨hp, ha, hd⟩, fun ⟨hp, ha, hd⟩ => ⟨hp, ha, hd⟩⟩

theorem Command.short_iff {c : Command} :
    c.Short ↔ ¬ (c.args.any fun a => Utf8.length a > Host.maxArgLength) := by
  simp only [Short, List.any_eq_true, decide_eq_true_eq, not_exists, not_and, Nat.not_lt]

namespace Host

variable {h : Host} {fs : FileSystem} {c : Command}

/-- What a program does: from its start and the files it finds to its end and the files it leaves. -/
abbrev Behaviour := Child → FileSystem → Exit × FileSystem

/-! ## Making ready -/

/-- The ways in which a command is made ready, each with its outcome. -/
inductive Preparation (h : Host) (fs : FileSystem) (c : Command) :
    Except SystemError (Child × Behaviour) → Prop
  | unclean (hnul : ¬ c.Clean) : Preparation h fs c (.error .nulInCommand)
  | unentered {e : SystemError} (hclean : c.Clean) (hdir : enter fs c.directory = .error e) :
    Preparation h fs c (.error e)
  | unfound {dir : Location} {e : SystemError} (hclean : c.Clean)
    (hdir : enter fs c.directory = .ok dir)
    (hfind : h.find { fs with current := dir } c.program = .error e) : Preparation h fs c (.error e)
  | long (hclean : c.Clean) (hlong : ¬ c.Short) : Preparation h fs c (.error .argumentsTooLong)
  | orphaned {dir : Location} {image : Image} (hclean : c.Clean) (hshort : c.Short)
    (hdir : enter fs c.directory = .ok dir)
    (hfind : h.find { fs with current := dir } c.program = .ok (image, .orphan)) :
    Preparation h fs c (.error .notFound)
  | ready {dir : Location} {image : Image} {behaviour : Behaviour} (hclean : c.Clean)
    (hshort : c.Short) (hdir : enter fs c.directory = .ok dir)
    (hfind : h.find { fs with current := dir } c.program = .ok (image, .runs behaviour)) :
    Preparation h fs c (.ok (⟨image, dir, c.args⟩, behaviour))

/-- **Every command is made ready, or fails, in one of these ways.** -/
theorem preparation (h : Host) (fs : FileSystem) (c : Command) :
    Preparation h fs c (h.prepare fs c) := by
  rw [prepare]
  split
  · rename_i hnul
    exact .unclean fun hclean => Command.clean_iff.1 hclean hnul
  rename_i hnul
  have hclean : c.Clean := Command.clean_iff.2 hnul
  split
  · rename_i hdir
    exact .unentered hclean hdir
  rename_i dir hdir
  split
  · rename_i hfind
    exact .unfound hclean hdir hfind
  rename_i image x hfind
  split
  · rename_i hlong
    exact .long hclean fun hshort => Command.short_iff.1 hshort hlong
  rename_i hlong
  have hshort : c.Short := Command.short_iff.2 hlong
  split
  · exact .orphaned hclean hshort hdir hfind
  · exact .ready hclean hshort hdir hfind

/-- **A directory that is not there is missed before any program.** -/
theorem prepare_of_missing_directory (hclean : c.Clean)
    (hdir : enter fs c.directory = .error .notFound) : h.prepare fs c = .error .notFound := by
  rw [prepare, if_neg (Command.clean_iff.1 hclean), hdir]

/-- A directory is entered at the location it leads to. -/
theorem of_enter_eq_ok {dir : FilePath} {l : Location} (h : enter fs dir = .ok l) :
    fs.locate dir = .ok l ∧ fs.node? l = some .directory := by
  rw [enter] at h
  split at h
  · contradiction
  rename_i m hm
  split at h
  · rename_i hdir
    obtain rfl := Except.ok.inj h
    exact ⟨hm, hdir⟩
  · contradiction

/-! ## Launching -/

/-- A launch misses something exactly when making ready does. -/
theorem launch_exit_eq_error_iff {e : SystemError} :
    (h.launch fs c).exit = .error e ↔ h.prepare fs c = .error e := by
  rw [launch]
  cases h.prepare fs c with
  | error e' => simp only [Except.error.injEq]
  | ok r => exact iff_of_false (fun h => nomatch h) (fun h => nomatch h)

/-- What a launch that came to an end started: a child in the command's directory, made from its
program, with its arguments; the child's end and its files are what the launch gives. -/
structure Started (h : Host) (fs : FileSystem) (c : Command) (child : Child) (exit : Exit)
    (left : FileSystem) : Prop where
  directory : fs.locate c.directory = .ok child.directory
    ∧ fs.node? child.directory = some .directory
  args : child.args = c.args
  program : ∃ behaviour left', h.find { fs with current := child.directory } c.program
      = .ok (child.image, .runs behaviour)
    ∧ behaviour child { fs with current := child.directory } = (exit, left')
    ∧ left = { left' with current := fs.current }

/-- **A launch that came to an end** started one child. -/
theorem of_launch_exit {exit : Exit} (hexit : (h.launch fs c).exit = .ok exit) :
    ∃ child, (h.launch fs c).child? = some child
      ∧ Started h fs c child exit (h.launch fs c).files := by
  have hprepared := preparation h fs c
  rw [launch] at hexit ⊢
  generalize h.prepare fs c = r at hexit hprepared ⊢
  cases hprepared with
  | unclean => contradiction
  | unentered => contradiction
  | unfound => contradiction
  | long => contradiction
  | orphaned => contradiction
  | ready _ _ hdir hfind =>
    obtain rfl := Except.ok.inj hexit
    exact ⟨_, rfl, of_enter_eq_ok hdir, rfl, _, _, hfind, rfl, rfl⟩

/-- A child that was started is the one of its launch, which came to an end. -/
theorem exists_exit_of_child {child : Child} (hchild : (h.launch fs c).child? = some child) :
    ∃ exit, (h.launch fs c).exit = .ok exit
      ∧ Started h fs c child exit (h.launch fs c).files := by
  rcases hexit : (h.launch fs c).exit with e | exit
  · rw [launch, launch_exit_eq_error_iff.1 hexit] at hchild
    contradiction
  · obtain ⟨started, hstarted, hlaunch⟩ := of_launch_exit hexit
    obtain rfl := Option.some.inj (hstarted.symm.trans hchild)
    exact ⟨exit, rfl, hlaunch⟩

end Host

end WireSchema
