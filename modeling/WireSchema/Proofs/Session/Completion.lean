import WireSchema.Session
import WireSchema.Proofs.Compiler.Answer
import WireSchema.Proofs.Config.Settings
import WireSchema.Proofs.Generation.Completeness

/-!
# Proofs/Session/Completion — what the exit code says

Whoever starts the program sees its exit code only.  A generation is **complete** when the variables
name settings, all that these need is there, and all that is started under them goes well; nothing in
this says how the program is written.  The code is zero for complete generations, and one for any
other, so that zero is a promise about the files, the child process and its arguments.  The variables
are those that are set when the program reads them, wherever they come from, and neither the launcher
nor the console has to keep to anything.

* `complete_iff` — a complete generation is a run that goes through under the settings.
* `Complete.delivered` — what a complete generation has done.
* `exitCode_laws` — the exit code, read both ways.
-/

namespace WireSchema.Session

open FileSystem (Renamed)

variable {s : Session} {c : Config} {found left : FileSystem}

/-! ## Complete generations -/

/-- All that a generation needs is there, and all that it starts goes well.  `found` are the files
when the schema is in place, and `left` those at the end. -/
structure Complete (s : Session) (c : Config) (found left : FileSystem) : Prop where
  /-- The settings are those that the variables name; the flag among them can be read. -/
  named : c.NamedBy s.environment.get?
  numberable : c.Numberable s.files
  outputs : c.OutputsReady s.files
  written : s.files.write (c.resolve c.schemaPath) (c.enum s.files).document = .ok found
  skipped : c.compile = false → left = found
  /-- The program ends with the status zero, and it leaves a source that can be renamed. -/
  compiled : c.compile = true →
    (∃ exit, (s.launch found c.command).exit = .ok exit ∧ exit.status.raw = 0)
      ∧ (s.launch found c.command).files.rename c.renamePair.1 c.renamePair.2 = .ok left

/-- **A complete generation is a run that goes through**, with the named program as compiler. -/
theorem complete_iff : Complete s c found left ↔ s.config = .ok c
    ∧ c.Finished (Compiler.launching s.launch c.compiler) s.files found left := by
  constructor
  · intro h
    refine ⟨Config.ofLookup_eq_ok_iff.2 h.named, ?_, h.skipped, fun hcompile => ?_⟩
    · exact Config.placed_iff.2 ⟨h.numberable, h.outputs, rfl, h.written⟩
    · obtain ⟨hexit, hrename⟩ := h.compiled hcompile
      rw [← c.command_request] at hexit hrename
      exact ⟨Compiler.launching_eq_ok_iff.2 hexit, hrename⟩
  · rintro ⟨hconfig, hplaced, hskipped, hcompiled⟩
    obtain ⟨hnumberable, hready, -, hwritten⟩ := Config.placed_iff.1 hplaced
    refine ⟨Config.ofLookup_eq_ok_iff.1 hconfig, hnumberable, hready, hwritten, hskipped,
      fun hcompile => ?_⟩
    obtain ⟨hresult, hrename⟩ := hcompiled hcompile
    rw [← c.command_request]
    exact ⟨Compiler.launching_eq_ok_iff.1 hresult, hrename⟩

/-! ## The exit code -/

theorem exitCode_eq_zero_or_one (s : Session) : s.run.exitCode = 0 ∨ s.run.exitCode = 1 := by
  rw [run]
  split
  · exact .inr rfl
  dsimp only
  split
  · exact .inl rfl
  · exact .inr rfl

/-- **The code is zero for complete generations only**, and for all of them. -/
theorem exitCode_eq_zero_iff :
    s.run.exitCode = 0 ↔ ∃ c found left, Complete s c found left := by
  have hzero : s.run.exitCode = 0 ↔ ∃ c, s.config = .ok c
      ∧ ∃ r, (c.run (Compiler.launching s.launch c.compiler) s.files).result = .ok r := by
    rw [run]
    rcases s.config with e | c
    · simp
    · rcases hresult : (c.run (Compiler.launching s.launch c.compiler) s.files).result with e | r
      · simp [hresult]
      · simp [hresult]
  simp only [hzero, complete_iff, Config.isOk_result_run_iff, exists_and_left]

/-! ## What was done -/

/-- The command of the settings was launched once, when the schema was in place; its child ended with
success, and then the source that it left was renamed. -/
structure Launched (s : Session) (c : Config) (found left : FileSystem) : Prop where
  once : s.run.calls = [⟨c.request, found, (s.launch found c.command).child?⟩]
  /-- No other launch was looked at. -/
  sole : ∀ launch : Launcher, launch found c.command = s.launch found c.command →
    { s with launch }.run = s.run
  success : ∃ stderr, (s.launch found c.command).exit = .ok ⟨⟨0⟩, stderr⟩
  renamed : ∃ a b, (s.launch found c.command).files.spot? c.renamePair.1 = some a
    ∧ (s.launch found c.command).files.spot? c.renamePair.2 = some b
    ∧ Renamed (s.launch found c.command).files left a b

/-- What a complete generation has done. -/
structure Delivered (s : Session) (c : Config) (found left : FileSystem) : Prop where
  files : s.run.files = left
  /-- The document of the lists, as they were at the start, was written over the schema file. -/
  schema : c.SchemaChange s.files found (c.enum s.files).document
  /-- It has the entries of each list, then the list's marker, and the controls behind all lists. -/
  outline : (c.enum s.files).lines.map EnumLine.outline = outlineOf (c.inputs s.files)
  numbered : (c.enum s.files).Numbered
  /-- Without bindings, nothing else was changed, and no program was launched. -/
  skipped : c.compile = false →
    left = found ∧ s.run.calls = [] ∧ ∀ launch : Launcher, { s with launch }.run = s.run
  compiled : c.compile = true → Launched s c found left

theorem files_run (hconfig : s.config = .ok c) :
    s.run.files = (c.run (Compiler.launching s.launch c.compiler) s.files).files := by
  rw [run, hconfig]

theorem calls_run (hconfig : s.config = .ok c) :
    s.run.calls = (c.run (Compiler.launching s.launch c.compiler) s.files).calls := by
  rw [run, hconfig]

/-- Another launcher makes no difference where the run under the settings is the same. -/
theorem run_congr_launch {launch : Launcher} (hconfig : s.config = .ok c)
    (h : c.run (Compiler.launching launch c.compiler) s.files
      = c.run (Compiler.launching s.launch c.compiler) s.files) : { s with launch }.run = s.run := by
  have hconfig' : { s with launch }.config = .ok c := hconfig
  rw [run, run, hconfig, hconfig']
  dsimp only
  rw [h]

/-- The calls of a complete generation: one if bindings are wanted, for the files with the schema. -/
theorem Complete.calls_eq (h : Complete s c found left) :
    (c.run (Compiler.launching s.launch c.compiler) s.files).calls
      = if c.compile then [⟨c.request, found, (s.launch found c.command).child?⟩] else [] := by
  obtain ⟨-, hfinished⟩ := complete_iff.1 h
  obtain ⟨log, hrun⟩ := hfinished.run_eq
  rw [hrun]
  rfl

theorem Complete.launched (h : Complete s c found left) (hcompile : c.compile = true) :
    Launched s c found left := by
  obtain ⟨hconfig, -⟩ := complete_iff.1 h
  obtain ⟨⟨⟨⟨raw⟩, stderr⟩, hexit, rfl⟩, hrename⟩ := h.compiled hcompile
  have hcalls : (c.run (Compiler.launching s.launch c.compiler) s.files).calls
      = [⟨c.request, found, (s.launch found c.command).child?⟩] := by rw [h.calls_eq, if_pos hcompile]
  constructor
  case once => rw [calls_run hconfig, hcalls]
  case sole =>
    intro launch hlaunch
    refine run_congr_launch hconfig (Config.run_congr fun k hk => ?_)
    obtain rfl := List.mem_singleton.1 (hcalls ▸ hk)
    rw [← c.command_request] at hlaunch
    exact Compiler.launching_congr hlaunch
  case success => exact ⟨stderr, hexit⟩
  case renamed => exact FileSystem.renamed_of_rename hrename

/-- **What a complete generation has done**, as long as the numbers do not run out. -/
theorem Complete.delivered (h : Complete s c found left)
    (hsize : Pass.totalMarkerLines (c.inputs s.files) < UInt32.size - 4) :
    Delivered s c found left := by
  obtain ⟨hconfig, hfinished⟩ := complete_iff.1 h
  obtain ⟨log, hrun⟩ := hfinished.run_eq
  constructor
  case files => rw [files_run hconfig, hrun]
  case schema => exact hfinished.placed.schemaChange
  case outline => exact EnumLine.map_outline_number _ _
  case numbered => exact h.numberable.numbered hsize
  case skipped =>
    intro hcompile
    have hcalls : (c.run (Compiler.launching s.launch c.compiler) s.files).calls = [] := by
      rw [h.calls_eq, hcompile]
      rfl
    refine ⟨h.skipped hcompile, (calls_run hconfig).trans hcalls, fun launch => ?_⟩
    exact run_congr_launch hconfig ((Config.uncalled_of_calls hcalls).independent _)
  case compiled => exact h.launched

/-- What the exit code says. -/
structure ExitCodeLaws (s : Session) : Prop where
  range : s.run.exitCode = 0 ∨ s.run.exitCode = 1
  zero : s.run.exitCode = 0 ↔ ∃ c found left, Complete s c found left
  delivered : ∀ c found left, Complete s c found left → Delivered s c found left

/-- **The exit code is zero exactly for complete generations**, and these have done what they
should, for any variables and files, whatever answers the command. -/
theorem exitCode_laws (s : Session)
    (hsize : ∀ c : Config, c.NamedBy s.environment.get? →
      Pass.totalMarkerLines (c.inputs s.files) < UInt32.size - 4) : ExitCodeLaws s where
  range := exitCode_eq_zero_or_one s
  zero := exitCode_eq_zero_iff
  delivered c _ _ h := h.delivered (hsize c h.named)

/-- The child moves the directory that the program stands in, the schema with it, and leaves its source
there; the schema has the entries of both lists. -/
theorem exitCode_laws_moved_directory :
    let fs : FileSystem :=
      ⟨[(["w"], .directory), (["w", "gl2_api.in"], .file (Utf8.encode "API_ENTRY(glA)")),
        (["w", "ext.in"], .file (Utf8.encode "API_ENTRY(glB)")), (["w", "src"], .directory),
        (["w", "client"], .directory), (["w", "client", "src"], .directory)], ["w"]⟩
    let launch : Launcher := fun files command =>
      let moved : FileSystem := ⟨files.nodes.map fun n => ("x".toList :: n.1.drop 1, n.2), ["x"]⟩
      ⟨some ⟨.known command.program, ["w"], command.args⟩, .ok ⟨⟨0⟩, [0xFF]⟩,
        moved.put ["x", "src", "DebuggerMessage.pb.cc"] (.file [1])⟩
    let s : Session :=
      ⟨⟨[("PROTOGEN_EXT_API_INPUT", Utf8.encode "ext.in"),
          ("PROTOGEN_SKIP_COMPILE", Utf8.encode " Off")]⟩,
        fs, launch, ⟨fun _ => [], fun _ => []⟩⟩
    let c : Config :=
      { Config.default with
        passes := [⟨⟨"gl2_api.in"⟩, baseEndMarker⟩, ⟨⟨"ext.in"⟩, extensionEndMarker⟩] }
    c.NamedBy s.environment.get? ∧ (c.enum s.files).functions = 2 ∧ s.run.exitCode = 0
      ∧ s.run.files.current = ["x"]
      ∧ s.run.files.isFile ⟨"/x/DebuggerMessage.proto"⟩ = true
      ∧ s.run.files.read ⟨"src/DebuggerMessage.pb.cpp"⟩ = .ok [1]
      ∧ ExitCodeLaws s := by
  intro fs launch s c
  have hnamed : c.NamedBy s.environment.get? :=
    Config.ofLookup_eq_ok_iff.1 (by decide +kernel)
  have hsize : ∀ d : Config, d.NamedBy s.environment.get? →
      Pass.totalMarkerLines (d.inputs s.files) < UInt32.size - 4 := by
    intro d hd
    obtain rfl := hd.unique hnamed
    decide +kernel
  exact ⟨hnamed, by decide +kernel, by decide +kernel, by decide +kernel, by decide +kernel,
    by decide +kernel, exitCode_laws s hsize⟩

end WireSchema.Session
