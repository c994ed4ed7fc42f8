import WireSchema.Proofs.Generation.Effects

/-!
# Proofs/Generation/Agreement — a run and the reading alone

A run tests every list before it reads the first one; the reading alone finds a missing list only
when it gets there.  Both name the same list: the first that is no regular file.  Where the tests
are passed, a run reads what the reading reads, and fails as it fails.

* `result_run_eq_error_iff` — the early errors of a run are an unmet test, or the reading's error.
* `agreement` — the two sides of a generation, compared.
-/

namespace WireSchema.Config

variable {c : Config} {compiler : Compiler} {fs : FileSystem}

/-! ## Unmet tests -/

/-- The path of the first output directory that is none. -/
def FirstAbsent (c : Config) (fs : FileSystem) (path : FilePath) : Prop :=
  (¬ fs.Leads (c.resolve c.cppOut) .directory ∧ path = c.resolve c.cppOut)
    ∨ (fs.Leads (c.resolve c.cppOut) .directory
      ∧ ¬ fs.Leads (c.resolve c.javaOut) .directory ∧ path = c.resolve c.javaOut)

/-- Every list is a regular file. -/
def AllRegular (c : Config) (fs : FileSystem) : Prop :=
  ∀ p ∈ c.passes, fs.IsRegular (c.resolve p.path)

/-- Every output directory that is needed is there. -/
def OutputsReady (c : Config) (fs : FileSystem) : Prop :=
  c.compile = true → fs.Leads (c.resolve c.cppOut) .directory
    ∧ fs.Leads (c.resolve c.javaOut) .directory

/-- The first list that the test for files refuses. -/
def missingInput? (c : Config) (fs : FileSystem) : Option FilePath :=
  (c.passes.map fun p => c.resolve p.path).find? fun p => !fs.isFile p

/-- The first output directory that the test for directories refuses. -/
def missingOutput? (c : Config) (fs : FileSystem) : Option FilePath :=
  (c.targets.map fun t => c.resolve t.outDir).find? fun p => !fs.isDirectory p

/-- Lists are tested first, and directories only when bindings are wanted. -/
theorem unmet?_eq (c : Config) (fs : FileSystem) : c.unmet? fs =
    match c.missingInput? fs with
    | some p => some (.inputNotFound p)
    | none => if c.compile then (c.missingOutput? fs).map .outputDirMissing else none := rfl

theorem missingInput?_eq_some_iff {path : FilePath} :
    c.missingInput? fs = some path ↔ c.FirstIrregular fs c.passes path := by
  simp only [missingInput?, List.find?_map, Option.map_eq_some_iff, List.find?_eq_some_iff_append,
    Function.comp_apply, Bool.not_eq_true', Bool.not_not, FileSystem.isFile_iff, FirstIrregular,
    ← Bool.not_eq_true]
  constructor
  · rintro ⟨p, ⟨hp, earlier, later, hpasses, hearlier⟩, rfl⟩
    exact ⟨earlier, p, later, hpasses, hearlier, hp, rfl⟩
  · rintro ⟨earlier, p, later, hpasses, hearlier, hp, rfl⟩
    exact ⟨p, ⟨hp, earlier, later, hpasses, hearlier⟩, rfl⟩

theorem missingInput?_eq_none_iff : c.missingInput? fs = none ↔ c.AllRegular fs := by
  simp only [missingInput?, List.find?_eq_none, List.forall_mem_map, Bool.not_eq_true',
    Bool.not_eq_false, FileSystem.isFile_iff, AllRegular]

theorem missingOutput?_eq_some_iff {path : FilePath} :
    c.missingOutput? fs = some path ↔ c.FirstAbsent fs path := by
  simp only [FirstAbsent, ← FileSystem.isDirectory_iff, missingOutput?, targets, List.map_cons,
    List.map_nil, List.find?_cons, List.find?_nil]
  cases fs.isDirectory (c.resolve c.cppOut) with
  | false => simpa using eq_comm
  | true =>
    cases fs.isDirectory (c.resolve c.javaOut) with
    | false => simpa using eq_comm
    | true => simp

theorem missingOutput?_eq_none_iff : c.missingOutput? fs = none
    ↔ fs.Leads (c.resolve c.cppOut) .directory ∧ fs.Leads (c.resolve c.javaOut) .directory := by
  simp only [missingOutput?, targets, List.map_cons, List.map_nil, List.find?_eq_none,
    List.forall_mem_cons, List.not_mem_nil, false_imp_iff, implies_true, and_true,
    Bool.not_eq_true', Bool.not_eq_false, FileSystem.isDirectory_iff]

/-- **The first test that a run fails is that of the first irregular list.** -/
theorem unmet?_eq_inputNotFound_iff {path : FilePath} :
    c.unmet? fs = some (.inputNotFound path) ↔ c.FirstIrregular fs c.passes path := by
  rw [← missingInput?_eq_some_iff, unmet?_eq]
  cases c.missingInput? fs with
  | some p => simp
  | none => simp

/-- **Directories are tested when all lists are regular**, C++ before Java. -/
theorem unmet?_eq_outputDirMissing_iff {path : FilePath} :
    c.unmet? fs = some (.outputDirMissing path)
      ↔ c.AllRegular fs ∧ c.compile = true ∧ c.FirstAbsent fs path := by
  rw [← missingInput?_eq_none_iff, ← missingOutput?_eq_some_iff, unmet?_eq]
  cases c.missingInput? fs with
  | some p => simp
  | none => cases c.compile <;> simp

theorem unmet?_eq_none_iff : c.unmet? fs = none ↔ c.AllRegular fs ∧ c.OutputsReady fs := by
  rw [← missingInput?_eq_none_iff, OutputsReady, ← missingOutput?_eq_none_iff, unmet?_eq]
  cases c.missingInput? fs with
  | some p => simp
  | none => cases c.compile <;> simp

/-! ## The errors of a run -/

/-- What fails behind the reading belongs to a later stage. -/
theorem stage_of_result_run {e : GenerateError} {functions : FunctionEnum}
    (hmet : c.unmet? fs = none) (hbuilt : (c.buildEnum fs).1 = .ok functions)
    (h : (c.run compiler fs).result = .error e) :
    e.stage ≠ .preconditions ∧ e.stage ≠ .extract := by
  have hcourse := course_run c compiler fs
  obtain ⟨o, ho⟩ : ∃ o, c.run compiler fs = o := ⟨_, rfl⟩
  rw [ho] at h hcourse
  cases hcourse with
  | unmet hunmet => exact nomatch hmet.symm.trans hunmet
  | unread hunread => exact nomatch hbuilt.symm.trans hunread
  | unwritten =>
    obtain rfl := Except.error.inj h
    exact ⟨nofun, nofun⟩
  | skipped => contradiction
  | uncompiled =>
    obtain rfl := Except.error.inj h
    exact ⟨nofun, nofun⟩
  | unrenamed =>
    obtain rfl := Except.error.inj h
    exact ⟨nofun, nofun⟩
  | renamed => contradiction

/-- **The early errors of a run** are an unmet test, or the reading's error where the tests are
passed. -/
theorem result_run_eq_error_iff {e : GenerateError}
    (he : e.stage = .preconditions ∨ e.stage = .extract) :
    (c.run compiler fs).result = .error e
      ↔ c.unmet? fs = some e ∨ (c.unmet? fs = none ∧ (c.buildEnum fs).1 = .error e) := by
  cases hmet : c.unmet? fs with
  | some e' =>
    rw [run, hmet]
    simp
  | none =>
    cases hbuilt : (c.buildEnum fs).1 with
    | error e' =>
      rw [run, hmet]
      dsimp only
      rw [hbuilt]
      simp
    | ok functions =>
      refine iff_of_false (fun h => ?_) (by simp)
      obtain ⟨hpreconditions, hextract⟩ := stage_of_result_run hmet hbuilt h
      exact he.elim hpreconditions hextract

/-! ## The schema of a run -/

/-- Without bindings, a schema in place is all that a run leaves. -/
theorem Placed.files_run {e : FunctionEnum} {found : FileSystem} (h : c.Placed fs e found)
    (hcompile : c.compile = false) : (c.run compiler fs).files = found := by
  obtain ⟨log, hrun⟩ := h.run_eq compiler
  rw [hrun, if_neg (by simp [hcompile])]

theorem Placed.result_run {e : FunctionEnum} {found : FileSystem} (h : c.Placed fs e found)
    (hcompile : c.compile = false) : (c.run compiler fs).result
      = .ok ⟨e.functions, e.controlStart, c.resolve c.schemaPath, none⟩ := by
  obtain ⟨log, hrun⟩ := h.run_eq compiler
  rw [hrun, if_neg (by simp [hcompile])]

/-- A complete run reports the numbers of the schema in place. -/
theorem Placed.report_run {e : FunctionEnum} {found : FileSystem} {r : Report}
    (h : c.Placed fs e found) (hr : (c.run compiler fs).result = .ok r) :
    r.functions = e.functions ∧ r.controlStart = e.controlStart := by
  obtain ⟨log, hrun⟩ := h.run_eq compiler
  rw [hrun] at hr
  split at hr
  · dsimp only at hr
    cases hbindings : (c.compileBindings compiler found).1 with
    | error err =>
      rw [hbindings] at hr
      contradiction
    | ok p =>
      rw [hbindings] at hr
      obtain rfl := Except.ok.inj hr
      exact ⟨rfl, rfl⟩
  · obtain rfl := Except.ok.inj hr
    exact ⟨rfl, rfl⟩

/-- With bindings, the one call of the compiler finds the schema in place. -/
theorem Placed.calls_run {e : FunctionEnum} {found : FileSystem} (h : c.Placed fs e found)
    (hcompile : c.compile = true) : (c.run compiler fs).calls = [c.call compiler found] := by
  obtain ⟨log, hrun⟩ := h.run_eq compiler
  rw [hrun, if_pos hcompile]
  exact calls_compileBindings

/-- **A schema file that can be written gets the document of the reading**, whatever content it was
tried with. -/
theorem exists_placed {e : FunctionEnum} {content : Bytes} {after : FileSystem}
    (hmet : c.unmet? fs = none) (hbuilt : (c.buildEnum fs).1 = .ok e)
    (hwrite : fs.write (c.resolve c.schemaPath) content = .ok after) :
    ∃ found, c.Placed fs e found := by
  rcases hwritten : fs.write (c.resolve c.schemaPath) e.document with err | found
  · exact nomatch hwrite.symm.trans (FileSystem.write_eq_error hwritten content)
  · exact ⟨found, hmet, hbuilt, hwritten⟩

/-! ## Agreement -/

/-- How a run and the reading alone agree on a file system. -/
structure Agreement (c : Config) (compiler : Compiler) (fs : FileSystem) : Prop where
  /-- A run misses a list exactly when some list is no regular file. -/
  irregular : (∃ path, (c.run compiler fs).result = .error (.inputNotFound path))
    ↔ ∃ p ∈ c.passes, ¬ fs.IsRegular (c.resolve p.path)
  /-- It names the first such list, whatever the regular files before it hold. -/
  inputNotFound : ∀ path, (c.run compiler fs).result = .error (.inputNotFound path)
    ↔ c.FirstIrregular fs c.passes path
  /-- It misses an output directory exactly when bindings are wanted and all lists are regular, and
  it names the first. -/
  outputDirMissing : ∀ path, (c.run compiler fs).result = .error (.outputDirMissing path)
    ↔ c.AllRegular fs ∧ c.compile = true ∧ c.FirstAbsent fs path
  /-- Where nothing is missing, it fails in extraction exactly as the reading fails. -/
  extract : c.AllRegular fs → c.OutputsReady fs → ∀ e,
    ((c.run compiler fs).result = .error e ∧ e.stage = .extract)
      ↔ (c.buildEnum fs).1 = .error e
  /-- The reading of regular files fails in extraction only. -/
  stage : c.AllRegular fs → ∀ e, (c.buildEnum fs).1 = .error e → e.stage = .extract
  /-- Where nothing is missing and the schema file can be written, it gets the document of the enum
  that was read, and nothing else is changed before the compiler is called. -/
  document : c.AllRegular fs → c.OutputsReady fs → ∀ e, (c.buildEnum fs).1 = .ok e →
    ∀ content after, fs.write (c.resolve c.schemaPath) content = .ok after →
      ∃ found, c.SchemaChange fs found (Utf8.encode (Document.render e))
        ∧ (c.compile = false → (c.run compiler fs).files = found)
        ∧ (c.compile = true → (c.run compiler fs).calls = [c.call compiler found])
  /-- A list that the reading misses is the one that a run misses. -/
  missing : ∀ path, (c.buildEnum fs).1 = .error (.inputNotFound path) →
    (c.run compiler fs).result = .error (.inputNotFound path)

/-- **A run and the reading alone agree**, for all settings, all files and every compiler. -/
theorem agreement (c : Config) (compiler : Compiler) (fs : FileSystem) :
    c.Agreement compiler fs := by
  have hinput : ∀ path, (c.run compiler fs).result = .error (.inputNotFound path)
      ↔ c.FirstIrregular fs c.passes path := by
    intro path
    rw [result_run_eq_error_iff (.inl rfl), unmet?_eq_inputNotFound_iff]
    refine ⟨fun h => ?_, .inl⟩
    obtain hfirst | ⟨-, hbuilt⟩ := h
    · exact hfirst
    · obtain ⟨path', hfirst, he⟩ | hstage := of_buildEnum_eq_error hbuilt
      · obtain rfl := GenerateError.inputNotFound.inj he
        exact hfirst
      · exact nomatch hstage
  have hstage : c.AllRegular fs → ∀ e, (c.buildEnum fs).1 = .error e → e.stage = .extract := by
    intro hregular e hbuilt
    obtain ⟨path, ⟨earlier, p, later, hpasses, -, hp, -⟩, -⟩ | hstage := of_buildEnum_eq_error hbuilt
    · exact absurd (hregular p (by simp [hpasses])) hp
    · exact hstage
  constructor
  case irregular =>
    have hall : (∃ p ∈ c.passes, ¬ fs.IsRegular (c.resolve p.path)) ↔ ¬ c.AllRegular fs := by
      simp [AllRegular]
    simp only [hinput, hall, ← missingInput?_eq_some_iff, ← missingInput?_eq_none_iff]
    exact Option.ne_none_iff_exists'.symm
  case inputNotFound => exact hinput
  case outputDirMissing =>
    intro path
    rw [result_run_eq_error_iff (.inl rfl), ← unmet?_eq_outputDirMissing_iff]
    refine ⟨fun h => h.resolve_right fun ⟨_, hbuilt⟩ => ?_, .inl⟩
    obtain ⟨path', -, he⟩ | hstage := of_buildEnum_eq_error hbuilt
    · contradiction
    · exact nomatch hstage
  case extract =>
    intro hregular hready e
    have hmet : c.unmet? fs = none := unmet?_eq_none_iff.2 ⟨hregular, hready⟩
    constructor
    · rintro ⟨h, he⟩
      rw [result_run_eq_error_iff (.inr he), hmet] at h
      exact (h.resolve_left fun h => nomatch h).2
    · intro h
      have he := hstage hregular e h
      exact ⟨(result_run_eq_error_iff (.inr he)).2 (.inr ⟨hmet, h⟩), he⟩
  case stage => exact hstage
  case document =>
    intro hregular hready e hbuilt content after hwrite
    obtain ⟨found, hplaced⟩ :=
      exists_placed (unmet?_eq_none_iff.2 ⟨hregular, hready⟩) hbuilt hwrite
    have hchange := hplaced.schemaChange
    rw [← hplaced.enum_eq] at hchange
    exact ⟨found, hchange, hplaced.files_run, hplaced.calls_run⟩
  case missing =>
    intro path hbuilt
    obtain ⟨path', hfirst, he⟩ | hstage := of_buildEnum_eq_error hbuilt
    · obtain rfl := GenerateError.inputNotFound.inj he
      exact (hinput path).2 hfirst
    · exact nomatch hstage

end WireSchema.Config
