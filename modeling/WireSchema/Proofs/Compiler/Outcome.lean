import WireSchema.Proofs.Compiler.Answer
import WireSchema.Proofs.Generation.Course
import WireSchema.Proofs.Process.Ending
import WireSchema.Proofs.Text.Malformed

/-!
# Proofs/Compiler/Outcome — what becomes of one invocation

A launch fails with an error of the system, or gives the end of a child with its standard error, and
one of four answers follows.  A child that failed is reported with its word as it is and a
**diagnosis**: its standard error, read as characters and bad sequences with U+FFFD for each of these,
without the blanks at the end.

* `diagnosis_iff` — there is one diagnosis of a standard error.
* `answered_outcome` — the answer to a launch, whatever it is.
* `invoked_external` — so it is for a program of a host, and a run passes failures on as they are.
-/

namespace WireSchema

namespace Compiler

variable {program : Text} {launch : Except SystemError Exit} {stderr : Bytes} {text : Text}

/-! ## Diagnoses -/

/-- What a failed child is reported to say. -/
structure Diagnosis (stderr : Bytes) (text : Text) : Prop where
  /-- It does not end in white space. -/
  solid : ∀ c, text.getLast? = some c → Text.isBlank c = false
  /-- With some white space behind it, it is the characters of the bytes, and U+FFFD for each bad
  sequence among them. -/
  lossy : ∃ xs blanks, Utf8.Scans stderr xs ∧ Text.AllBlank blanks
    ∧ xs.map (fun c => c.getD '\uFFFD') = text ++ blanks

/-- **There is one diagnosis of a standard error.** -/
theorem diagnosis_iff : Diagnosis stderr text ↔ diagnostics stderr = text := by
  constructor
  · rintro ⟨hsolid, xs, blanks, hscans, hblank, hlossy⟩
    have hdecode : Utf8.decodeLossy stderr = text ++ blanks := by
      rw [Utf8.decodeLossy, hscans.scan_eq, hlossy]
    rw [diagnostics, hdecode, Text.trimEnd_append_blank hblank, Text.trimEnd_eq_self hsolid]
  · rintro rfl
    obtain ⟨blanks, hblank, hlossy⟩ := Text.exists_trimEnd (Utf8.decodeLossy stderr)
    exact ⟨Text.getLast?_trimEnd _, _, blanks, Utf8.scans_scan stderr, hblank, hlossy⟩

/-- The diagnosis of a text is the text without white space at its end. -/
theorem Diagnosis.of_encode {t : Text} (h : Diagnosis (Utf8.encode t) text) :
    ∃ blanks, Text.AllBlank blanks ∧ t = text ++ blanks := by
  obtain ⟨xs, blanks, hscans, hblank, hlossy⟩ := h.lossy
  refine ⟨blanks, hblank, ?_⟩
  rw [← hlossy, ← hscans.scan_eq]
  exact (Utf8.decodeLossy_of_decode? (Utf8.decode?_encode t)).symm

/-! ## Answers -/

/-- How a launch is answered: by which result, for each of the four. -/
structure Answered (program : Text) (launch : Except SystemError Exit)
    (result : Except CompileError Unit) : Prop where
  /-- Success is a child that ended with the code zero, whatever it printed. -/
  ok_iff : result = .ok () ↔ ∃ stderr, launch = .ok ⟨Ending.status (.exited 0), stderr⟩
  /-- A failure is a child that ended in another way, with its word and its diagnosis. -/
  failed_iff : ∀ p status text, result = .error (.failed p status text) ↔
    p = program ∧ status ≠ Ending.status (.exited 0)
      ∧ ∃ stderr, launch = .ok ⟨status, stderr⟩ ∧ Diagnosis stderr text
  /-- A missing program is a launch that misses something. -/
  notFound_iff : ∀ p, result = .error (.notFound p) ↔ p = program ∧ launch = .error .notFound
  /-- Any other error of a launch is passed on. -/
  spawn_iff : ∀ p e, result = .error (.spawn p e) ↔
    p = program ∧ launch = .error e ∧ e ≠ .notFound

/-- The word of the code zero is the word of success. -/
theorem isSuccess_iff {status : WaitStatus} :
    status.isSuccess = true ↔ status = Ending.status (.exited 0) := by
  rw [WaitStatus.isSuccess, beq_iff_eq]
  exact ⟨congrArg WaitStatus.mk, fun h => h ▸ rfl⟩

theorem outcome_eq_failed_iff {p : Text} {status : WaitStatus} :
    outcome program launch = .error (.failed p status text) ↔
      p = program ∧ status.isSuccess ≠ true
        ∧ ∃ stderr, launch = .ok ⟨status, stderr⟩ ∧ diagnostics stderr = text := by
  rcases launch with e | ⟨status', stderr⟩
  · cases e <;> simp [outcome]
  dsimp only [outcome]
  split
  · rename_i hsuccess
    simp only [reduceCtorEq, Except.ok.injEq, Exit.mk.injEq, false_iff, not_and, not_exists]
    rintro - hfailure stderr ⟨rfl, -⟩
    exact absurd hsuccess hfailure
  · rename_i hfailure
    simp only [Except.error.injEq, CompileError.failed.injEq, Except.ok.injEq, Exit.mk.injEq]
    constructor
    · rintro ⟨rfl, rfl, rfl⟩
      exact ⟨rfl, hfailure, stderr, ⟨rfl, rfl⟩, rfl⟩
    · rintro ⟨rfl, -, _, ⟨rfl, rfl⟩, rfl⟩
      exact ⟨rfl, rfl, rfl⟩

theorem outcome_eq_spawn_iff {p : Text} {e : SystemError} :
    outcome program launch = .error (.spawn p e) ↔
      p = program ∧ launch = .error e ∧ e ≠ .notFound := by
  rcases launch with e' | exit
  · by_cases he : e' = .notFound
    · subst he
      simp only [outcome, Except.error.injEq, reduceCtorEq, false_iff, not_and]
      rintro - rfl
      exact not_not_intro rfl
    · have hspawn : outcome program (.error e') = .error (.spawn program e') :=
        outcome.eq_2 program e' he
      rw [hspawn, Except.error.injEq, CompileError.spawn.injEq, Except.error.injEq]
      constructor
      · rintro ⟨rfl, rfl⟩
        exact ⟨rfl, rfl, he⟩
      · rintro ⟨rfl, rfl, -⟩
        exact ⟨rfl, rfl⟩
  · dsimp only [outcome]
    split <;> simp

/-- **A launch is answered by the way it came out**: in two ways if it failed, and in two ways by the
end of its child. -/
theorem answered_outcome (program : Text) (launch : Except SystemError Exit) :
    Answered program launch (outcome program launch) where
  ok_iff := by
    rw [outcome_eq_ok_iff]
    constructor
    · rintro ⟨⟨⟨raw⟩, stderr⟩, hlaunch, rfl⟩
      exact ⟨stderr, hlaunch⟩
    · rintro ⟨stderr, hlaunch⟩
      exact ⟨_, hlaunch, rfl⟩
  failed_iff p status text := by
    simp only [outcome_eq_failed_iff, ne_eq, isSuccess_iff, diagnosis_iff]
  notFound_iff p := outcome_eq_notFound_iff.trans and_comm
  spawn_iff p e := outcome_eq_spawn_iff

/-! ## Invocations and runs -/

/-- What becomes of the invocations of a program, alone and in the runs of a configuration. -/
structure Invoked (h : Host) (program : Text) (c : Config) : Prop where
  /-- Each is answered by its launch. -/
  answered : ∀ r fs, Answered program (h.launch fs (r.command program)).exit
    (external h program r fs).result
  /-- However a launch comes out, with any error and any word, it is answered so. -/
  any : ∀ launch, Answered program launch (outcome program launch)
  /-- Among the ends of children, the code zero alone is success. -/
  ended : ∀ (e : Ending) stderr, outcome program (.ok ⟨e.status, stderr⟩) = .ok () ↔ e = .exited 0
  /-- Whatever a failed child printed has one diagnosis. -/
  diagnosed : ∀ stderr, ∃! text, Diagnosis stderr text
  /-- If that was a text, the diagnosis is the text without white space at its end. -/
  valid : ∀ t text, Diagnosis (Utf8.encode t) text → ∃ blanks, Text.AllBlank blanks ∧ t = text ++ blanks
  /-- A run fails at the compile stage exactly when its invocation fails, and with that failure. -/
  passed : ∀ fs g, ((c.run (external h program) fs).result = .error g ∧ g.stage = .compile) ↔
    c.compile = true ∧ ∃ e found err, c.Placed fs e found
      ∧ (external h program c.request found).result = .error err ∧ g = .compile err

/-- An error of the compile stage is one of the compiler. -/
theorem stage_eq_compile_iff {g : GenerateError} : g.stage = .compile ↔ ∃ err, g = .compile err := by
  cases g <;> simp [GenerateError.stage]

/-- **No failed invocation is taken for a good one, and none loses what it says.** -/
theorem invoked_external (h : Host) (program : Text) (c : Config) : Invoked h program c where
  answered _ _ := answered_outcome program _
  any := answered_outcome program
  ended e stderr := by
    rw [outcome_eq_ok_iff, ← Ending.isSuccess_status_iff, WaitStatus.isSuccess, beq_iff_eq]
    simp only [Except.ok.injEq, exists_eq_left']
  diagnosed stderr := ⟨_, diagnosis_iff.2 rfl, fun _ h => (diagnosis_iff.1 h).symm⟩
  valid _ _ hdiagnosis := hdiagnosis.of_encode
  passed fs g := by
    rw [stage_eq_compile_iff]
    constructor
    · rintro ⟨hresult, err, rfl⟩
      obtain ⟨hcompile, e, found, hplaced, herr⟩ := Config.result_run_eq_compile_iff.1 hresult
      exact ⟨hcompile, e, found, err, hplaced, herr, rfl⟩
    · rintro ⟨hcompile, e, found, err, hplaced, herr, rfl⟩
      exact ⟨Config.result_run_eq_compile_iff.2 ⟨hcompile, e, found, hplaced, herr⟩, err, rfl⟩

end Compiler

end WireSchema
