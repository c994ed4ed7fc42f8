import WireSchema.Proofs.FileSystem.Rename
import WireSchema.Proofs.Generation.Course
import WireSchema.Proofs.Generation.Inputs

/-!
# Proofs/Generation/Effects — what a run leaves

What a run does to the files is one **schema change**, then whatever its compiler does, then one
rename; how far it gets is decided by its course.

* `Uncalled`, `CalledOnce` — the two things that can be said about the compiler.
* `effects_of_error` — a failed run leaves what the stage of its error announces.
* `effects_of_ok` — a complete run leaves the document of its lists, and nothing else of its own.
-/

namespace WireSchema.Config

open FileSystem (IsTree Written Renamed)

variable {c : Config} {compiler : Compiler} {fs : FileSystem}

/-! ## The schema -/

/-- The enum that numbers the entries of all lists, as a file system holds them. -/
def enum (c : Config) (fs : FileSystem) : FunctionEnum := .ofPasses (c.inputs fs)

/-- The entries of lists that were read are the marker lines of the lists. -/
theorem functions_enum {e : FunctionEnum} (h : (c.buildEnum fs).1 = .ok e) :
    (c.enum fs).functions = Pass.totalMarkerLines (c.inputs fs) := (buildEnum_eq_ok_iff.1 h).1.length_names

theorem toNat_controlStart_enum (h : (c.enum fs).functions < UInt32.size) :
    (c.enum fs).controlStart.toNat = (c.enum fs).functions := UInt32.toNat_ofNat_of_lt' h

/-- The whole document is in the schema file, which was created or replaced, and nothing else
changed. -/
structure SchemaChange (c : Config) (before after : FileSystem) (document : Bytes) : Prop where
  changed : ∃ l, before.spot? (c.resolve c.schemaPath) = some l ∧ Written before after l document
  read : after.read (c.resolve c.schemaPath) = .ok document
  tree : before.IsTree → after.IsTree

/-- The enum of a schema in place is the one that numbers the lists. -/
theorem Placed.enum_eq {e : FunctionEnum} {found : FileSystem} (h : c.Placed fs e found) :
    e = c.enum fs := (buildEnum_eq_ok_iff.1 h.built).2

theorem Placed.schemaChange {e : FunctionEnum} {found : FileSystem} (h : c.Placed fs e found) :
    c.SchemaChange fs found (c.enum fs).document where
  changed := h.enum_eq ▸ FileSystem.written_of_write h.written
  read := h.enum_eq ▸ FileSystem.read_of_write h.written
  tree ht := ht.write h.written

/-! ## The compiler -/

/-- The compiler was never called: no other would have made a difference. -/
structure Uncalled (c : Config) (compiler : Compiler) (fs : FileSystem) : Prop where
  calls : (c.run compiler fs).calls = []
  independent : ∀ other : Compiler, c.run other fs = c.run compiler fs

theorem uncalled_of_calls (h : (c.run compiler fs).calls = []) : c.Uncalled compiler fs where
  calls := h
  independent _ := run_congr fun _ hk => absurd (h ▸ hk) List.not_mem_nil

/-- The compiler was called once, for both bindings in their order, when the schema was in place:
its answer there is all that the run took from it. -/
structure CalledOnce (c : Config) (compiler : Compiler) (fs found : FileSystem) : Prop where
  wanted : c.compile = true
  built : (c.buildEnum fs).1 = .ok (c.enum fs)
  schema : c.SchemaChange fs found (c.enum fs).document
  calls : (c.run compiler fs).calls = [c.call compiler found]
  request : c.request = ⟨c.workDir, c.schemaPath, [⟨.cpp, c.cppOut⟩, ⟨.java, c.javaOut⟩]⟩
  sole : ∀ other : Compiler, other c.request found = compiler c.request found →
    c.run other fs = c.run compiler fs

theorem Placed.calledOnce {e : FunctionEnum} {found : FileSystem} (h : c.Placed fs e found)
    (hcompile : c.compile = true) (hcalls : (c.run compiler fs).calls = [c.call compiler found]) :
    c.CalledOnce compiler fs found where
  wanted := hcompile
  built := h.enum_eq ▸ h.built
  schema := h.schemaChange
  calls := hcalls
  request := rfl
  sole other hother := run_congr fun k hk => by
    obtain rfl := List.mem_singleton.1 (hcalls ▸ hk)
    exact hother

/-! ## Failed runs -/

/-- What a failed run leaves, by the stage of its error. -/
def LeftByFailure (c : Config) (compiler : Compiler) (fs : FileSystem) (e : GenerateError) : Prop :=
  match e.stage with
  | .preconditions | .extract => (c.run compiler fs).files = fs ∧ c.Uncalled compiler fs
  | .writeSchema =>
    (c.run compiler fs).files = fs ∧ c.Uncalled compiler fs
      ∧ ∃ err, e = .writeSchema (c.resolve c.schemaPath) err
        ∧ ∀ content, fs.write (c.resolve c.schemaPath) content = .error err
  | .compile => ∃ found, c.CalledOnce compiler fs found
      ∧ (c.run compiler fs).files = (compiler c.request found).files
      ∧ ∃ err, e = .compile err ∧ (compiler c.request found).result = .error err
  | .rename => ∃ found, c.CalledOnce compiler fs found
      ∧ (c.run compiler fs).files = (compiler c.request found).files
      ∧ (compiler c.request found).result = .ok ()
      ∧ ∃ err, e = .rename c.renamePair.1 c.renamePair.2 err
        ∧ (c.run compiler fs).files.rename c.renamePair.1 c.renamePair.2 = .error err

/-- **A failed run leaves what its stage announces.**  Up to the schema nothing is touched and no
compiler called; from then on the compiler was called once, with the whole document in place, and
what it left is left as it is. -/
theorem effects_of_error (c : Config) (compiler : Compiler) (fs : FileSystem) (e : GenerateError)
    (h : (c.run compiler fs).result = .error e) : c.LeftByFailure compiler fs e := by
  have hcourse := course_run c compiler fs
  obtain ⟨o, ho⟩ : ∃ o, c.run compiler fs = o := ⟨_, rfl⟩
  have huncalled : o.calls = [] → c.Uncalled compiler fs := fun hcalls =>
    uncalled_of_calls (ho ▸ hcalls)
  rw [ho] at h hcourse
  rw [LeftByFailure, ho]
  rcases hcourse with ⟨hunmet⟩ | ⟨hbuilt⟩ | ⟨hwrite⟩ | ⟨hplaced, hcompile⟩ |
    ⟨hplaced, hcompile, hresult⟩ | ⟨hplaced, hcompile, hresult, hrename⟩ |
    ⟨hplaced, hcompile, hresult, hrename⟩
  · obtain rfl := Except.error.inj h
    rw [stage_of_unmet? hunmet]
    exact ⟨rfl, huncalled rfl⟩
  · obtain rfl := Except.error.inj h
    rcases stage_of_buildEnum hbuilt with hstage | hstage
    · rw [hstage]
      exact ⟨rfl, huncalled rfl⟩
    · rw [hstage]
      exact ⟨rfl, huncalled rfl⟩
  · obtain rfl := Except.error.inj h
    exact ⟨rfl, huncalled rfl, _, rfl, FileSystem.write_eq_error hwrite⟩
  · contradiction
  · obtain rfl := Except.error.inj h
    exact ⟨_, hplaced.calledOnce hcompile (by rw [ho]), rfl, _, rfl, hresult⟩
  · obtain rfl := Except.error.inj h
    exact ⟨_, hplaced.calledOnce hcompile (by rw [ho]), rfl, hresult, _, rfl, hrename⟩
  · contradiction

/-- A compiler that succeeds but leaves no source: the rename fails, and the schema stays. -/
theorem effects_of_error_no_source :
    let fs : FileSystem :=
      ⟨[(["w"], .directory), (["w", "gl2_api.in"], .file (Utf8.encode "API_ENTRY(glA)")),
        (["w", "src"], .directory), (["w", "client"], .directory),
        (["w", "client", "src"], .directory)], ["w"]⟩
    let compiler : Compiler := fun _ found => ⟨.ok (), found, [], none⟩
    let e : GenerateError :=
      .rename ⟨"./src/DebuggerMessage.pb.cc"⟩ ⟨"./src/DebuggerMessage.pb.cpp"⟩ .notFound
    (default.run compiler fs).result = .error e ∧ default.LeftByFailure compiler fs e := by
  intro fs compiler e
  have h : (default.run compiler fs).result = .error e := by decide +kernel
  exact ⟨h, effects_of_error _ _ _ _ h⟩

/-! ## Complete runs -/

/-- What a report says of the enum that numbers the lists. -/
structure Reported (c : Config) (fs : FileSystem) (report : Report) : Prop where
  /-- Every list was read. -/
  readable : ∀ p ∈ c.passes, (c.input? fs p).isSome
  /-- The enum holds the entries of the lists, in configured order, and then the controls. -/
  names : (c.enum fs).members.map Prod.fst
    = (c.inputs fs).flatMap Pass.names ++ Control.all.map Control.name
  /-- They are numbered without a gap. -/
  values : ∀ k (hk : k < (c.enum fs).members.length), (c.enum fs).members[k].2.toNat = k
  functions : report.functions = Pass.totalMarkerLines (c.inputs fs)
  controlStart : report.controlStart.toNat = Pass.totalMarkerLines (c.inputs fs)
  schemaPath : report.schemaPath = c.resolve c.schemaPath

/-- **A schema in place is reported rightly**, as long as the numbers do not run out. -/
theorem Placed.reported {e : FunctionEnum} {found : FileSystem} (h : c.Placed fs e found)
    (hsize : Pass.totalMarkerLines (c.inputs fs) < UInt32.size - 4) (renamed? : Option FilePath) :
    c.Reported fs ⟨e.functions, e.controlStart, c.resolve c.schemaPath, renamed?⟩ := by
  obtain rfl := h.enum_eq
  have hnumberable := (buildEnum_eq_ok_iff.1 h.built).1
  have hfunctions := functions_enum h.built
  exact
    { readable := hnumberable.readable
      names := FunctionEnum.names_ofPasses _
      values := hnumberable.numbered hsize
      functions := hfunctions
      controlStart := (toNat_controlStart_enum (by omega)).trans hfunctions
      schemaPath := rfl }

/-- What a complete run leaves and reports. -/
structure LeftBySuccess (c : Config) (compiler : Compiler) (fs : FileSystem) (report : Report) :
    Prop extends c.Reported fs report where
  /-- Without bindings, the schema is all that changed. -/
  skipped : c.compile = false → c.Uncalled compiler fs ∧ report.renamed? = none
    ∧ c.SchemaChange fs (c.run compiler fs).files (c.enum fs).document
  /-- With bindings, what the compiler left is changed by one rename. -/
  compiled : c.compile = true → ∃ found, c.CalledOnce compiler fs found
    ∧ (compiler c.request found).result = .ok () ∧ report.renamed? = some c.renamePair.2
    ∧ (compiler c.request found).files.rename c.renamePair.1 c.renamePair.2
      = .ok (c.run compiler fs).files
    ∧ (∃ a b, (compiler c.request found).files.spot? c.renamePair.1 = some a
      ∧ (compiler c.request found).files.spot? c.renamePair.2 = some b
      ∧ Renamed (compiler c.request found).files (c.run compiler fs).files a b)
    ∧ ((compiler c.request found).files.IsTree → (c.run compiler fs).files.IsTree)

/-- **A complete run leaves the document of its lists**, as they were before, and reports their
entries.  Of its own it changes the schema file, and with bindings the place of one source that the
compiler left. -/
theorem effects_of_ok (c : Config) (compiler : Compiler) (fs : FileSystem) (report : Report)
    (hsize : Pass.totalMarkerLines (c.inputs fs) < UInt32.size - 4)
    (h : (c.run compiler fs).result = .ok report) : c.LeftBySuccess compiler fs report := by
  have hcourse := course_run c compiler fs
  obtain ⟨o, ho⟩ : ∃ o, c.run compiler fs = o := ⟨_, rfl⟩
  rw [ho] at h hcourse
  rcases hcourse with ⟨hunmet⟩ | ⟨hbuilt⟩ | ⟨hwrite⟩ | ⟨hplaced, hcompile⟩ |
    ⟨hplaced, hcompile, hresult⟩ | ⟨hplaced, hcompile, hresult, hrename⟩ |
    ⟨hplaced, hcompile, hresult, hrename⟩
  · contradiction
  · contradiction
  · contradiction
  · obtain rfl := Except.ok.inj h
    exact
      { toReported := hplaced.reported hsize none
        skipped := fun _ => ⟨uncalled_of_calls (by rw [ho]), rfl, ho ▸ hplaced.schemaChange⟩
        compiled := fun hwanted => Bool.noConfusion (hcompile.symm.trans hwanted) }
  · contradiction
  · contradiction
  · obtain rfl := Except.ok.inj h
    exact
      { toReported := hplaced.reported hsize _
        skipped := fun hskipped => Bool.noConfusion (hcompile.symm.trans hskipped)
        compiled := fun _ => ⟨_, hplaced.calledOnce hcompile (by rw [ho]), hresult, rfl,
          ho ▸ hrename, ho ▸ FileSystem.renamed_of_rename hrename,
          fun ht => ho ▸ ht.rename hrename⟩ }

/-- The second list is the schema file itself, read before it is written; and the compiler's source
replaces an older one. -/
theorem effects_of_ok_aliased :
    let c : Config :=
      { default with
        passes := [⟨⟨"gl2_api.in"⟩, baseEndMarker⟩,
          ⟨⟨"DebuggerMessage.proto"⟩, extensionEndMarker⟩] }
    let fs : FileSystem :=
      ⟨[(["w"], .directory), (["w", "gl2_api.in"], .file (Utf8.encode "API_ENTRY(glA)")),
        (["w", "DebuggerMessage.proto"], .file (Utf8.encode "API_ENTRY(glB)")),
        (["w", "src"], .directory), (["w", "src", "DebuggerMessage.pb.cpp"], .file [1]),
        (["w", "client"], .directory), (["w", "client", "src"], .directory)], ["w"]⟩
    let compiler : Compiler := fun _ found =>
      ⟨.ok (), found.put ["w", "src", "DebuggerMessage.pb.cc"] (.file [2]), [], none⟩
    let report : Report :=
      ⟨2, 2, ⟨"./DebuggerMessage.proto"⟩, some ⟨"./src/DebuggerMessage.pb.cpp"⟩⟩
    fs.IsTree ∧ Pass.totalMarkerLines (c.inputs fs) < UInt32.size - 4
      ∧ (c.run compiler fs).result = .ok report
      ∧ (c.run compiler fs).files.read ⟨"src/DebuggerMessage.pb.cpp"⟩ = .ok [2]
      ∧ c.LeftBySuccess compiler fs report := by
  intro c fs compiler report
  have htree : fs.IsTree := FileSystem.isTree_of_nodes (by decide)
  have hsize : Pass.totalMarkerLines (c.inputs fs) < UInt32.size - 4 := by decide +kernel
  have h : (c.run compiler fs).result = .ok report := by decide +kernel
  have hmoved : (c.run compiler fs).files.read ⟨"src/DebuggerMessage.pb.cpp"⟩ = .ok [2] := by
    decide +kernel
  exact ⟨htree, hsize, h, hmoved, effects_of_ok _ _ _ _ hsize h⟩

end WireSchema.Config
