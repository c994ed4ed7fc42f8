import WireSchema.Proofs.Compiler.Answer
import WireSchema.Proofs.Generation.Agreement

/-!
# Proofs/Compiler/Missing — when a compiler is reported missing

A program is **installed** when it is found, and can be executed, from every directory.  A run that
has one for its compiler can still report it missing: the launch enters the work directory first, and
a directory that is not there is missed with the same error.  The run itself never looks at the work
directory, it only puts it in front of other paths.

* `Host.Installed.find` — an installed program is found from every directory, also when a schema has
  been written.
* `result_run_eq_notFound_iff` — an installed compiler is reported missing exactly when the work
  directory is.
-/

namespace WireSchema

/-! ## Installed programs -/

/-- A program is there and can be executed, whatever the current directory: it has an absolute path,
or a bare name, which holds neither a separator nor a NUL character. -/
structure Host.Installed (h : Host) (fs : FileSystem) (program : Text) : Prop where
  named : FilePath.isAbsolute ⟨program⟩ = true ∨ ('/' ∉ program ∧ '\x00' ∉ program)
  found : ∃ image behaviour, h.find fs program = .ok (image, .runs behaviour)

namespace Host

variable {h : Host} {fs gs : FileSystem} {program : Text}

theorem mem_of_isAbsolute (hp : FilePath.isAbsolute ⟨program⟩ = true) : '/' ∈ program :=
  List.mem_of_mem_head? (beq_iff_eq.1 hp)

/-- A program that is found under a path is a file at the path's location. -/
theorem of_find_eq_ok {image : Image} {x : Executable} (hpath : '/' ∈ program)
    (hfind : h.find fs program = .ok (image, x)) : ∃ l content, fs.locate ⟨program⟩ = .ok l
      ∧ h.files.lookup l = some x ∧ fs.node? l = some (.file content) ∧ image = .file l := by
  rw [find, if_pos hpath] at hfind
  split at hfind
  · contradiction
  rename_i l hl
  split at hfind
  · rename_i content hx hn
    obtain ⟨rfl, rfl⟩ := Prod.mk.inj (Except.ok.inj hfind)
    exact ⟨l, content, hl, hx, hn, rfl⟩
  · contradiction

/-- **An installed program is found from every directory**, as long as no directory and no file is
lost. -/
theorem Installed.find (hp : h.Installed fs program) (hkeeps : FileSystem.Keeps fs gs) :
    ∃ image behaviour, h.find gs program = .ok (image, .runs behaviour) := by
  obtain ⟨image, behaviour, hfound⟩ := hp.found
  rcases hp.named with habsolute | ⟨hbare, -⟩
  · have hpath := mem_of_isAbsolute habsolute
    obtain ⟨l, content, hl, hx, hn, rfl⟩ := of_find_eq_ok hpath hfound
    obtain ⟨content', hn'⟩ := hkeeps.file l content hn
    refine ⟨.file l, behaviour, ?_⟩
    rw [Host.find, if_pos hpath, hkeeps.locate habsolute hl]
    dsimp only
    rw [hx, hn']
  · -- A bare name is looked up among the programs of the search path only.
    refine ⟨image, behaviour, ?_⟩
    rw [Host.find, if_neg hbare] at hfound ⊢
    exact hfound

/-- No program that is installed has a NUL character in its name. -/
theorem Installed.not_nul (hp : h.Installed fs program) : '\x00' ∉ program := by
  rcases hp.named with habsolute | ⟨-, hnul⟩
  · obtain ⟨image, behaviour, hfound⟩ := hp.found
    obtain ⟨l, content, hl, -⟩ := of_find_eq_ok (mem_of_isAbsolute habsolute) hfound
    obtain ⟨start, hstart, -⟩ := FileSystem.exists_startOf_of_locate hl
    exact FileSystem.not_nul_of_startOf hstart
  · exact hnul

/-- A directory that is not there is named without a NUL character: such a name is refused. -/
theorem not_nul_of_enter_eq_notFound {dir : FilePath} (h : enter fs dir = .error .notFound) :
    '\x00' ∉ dir.text := by
  intro hnul
  rw [enter, FileSystem.locate, FileSystem.startOf, if_pos hnul] at h
  have hne := Except.error.inj h
  contradiction

/-- **A launch of an installed program misses nothing but its directory.** -/
theorem Installed.enter_of_prepare {c : Command} (hp : h.Installed fs c.program)
    (hkeeps : FileSystem.Keeps fs gs) (hprepare : h.prepare gs c = .error .notFound) :
    enter gs c.directory = .error .notFound := by
  have hfind : ∀ dir, ∃ image behaviour,
      h.find { gs with current := dir } c.program = .ok (image, .runs behaviour) :=
    fun dir => hp.find ⟨hkeeps.directory, hkeeps.file⟩
  have hprepared := preparation h gs c
  rw [hprepare] at hprepared
  generalize hr : (.error .notFound : Except SystemError (Child × Behaviour)) = r at hprepared
  cases hprepared with
  | unclean => exact nomatch Except.error.inj hr
  | unentered _ hdir =>
    obtain rfl := Except.error.inj hr
    exact hdir
  | unfound _ _ hmissing =>
    obtain ⟨image, behaviour, hfound⟩ := hfind _
    exact nomatch hmissing.symm.trans hfound
  | long => exact nomatch Except.error.inj hr
  | orphaned _ _ _ horphan =>
    obtain ⟨image, behaviour, hfound⟩ := hfind _
    exact nomatch horphan.symm.trans hfound
  | ready => contradiction

end Host

/-! ## Runs with an installed compiler -/

namespace Config

variable {c : Config} {h : Host} {fs : FileSystem} {program : Text}

/-- A path that can be walked behind another holds no NUL character itself. -/
theorem not_nul_of_startOf_resolve {p : FilePath} {start : Location}
    (h : fs.startOf (c.resolve p) = .ok start) : '\x00' ∉ p.text := fun hnul =>
  FileSystem.not_nul_of_startOf h (FilePath.mem_join hnul)

/-- **Where the schema is in place and bindings are wanted, no argument holds a NUL character**: the
paths in them were walked. -/
theorem Placed.not_nul_arguments {e : FunctionEnum} {found : FileSystem} (hp : c.Placed fs e found)
    (hcompile : c.compile = true) : ∀ a ∈ c.request.arguments, '\x00' ∉ a := by
  obtain ⟨directory, name, hslot, -⟩ := FileSystem.of_write_eq_ok hp.written
  obtain ⟨start, -, hschema, -⟩ := FileSystem.of_slot_eq_ok hslot
  obtain ⟨⟨l, hl, -⟩, m, hm, -⟩ := (unmet?_eq_none_iff.1 hp.met).2 hcompile
  obtain ⟨_, hcpp, -⟩ := FileSystem.exists_startOf_of_locate hl
  obtain ⟨_, hjava, -⟩ := FileSystem.exists_startOf_of_locate hm
  have hargument : ∀ t ∈ c.targets, '\x00' ∉ t.argument :=
    List.forall_mem_cons.2 ⟨BindingTarget.not_nul_argument (not_nul_of_startOf_resolve hcpp),
      List.forall_mem_singleton.2
        (BindingTarget.not_nul_argument (not_nul_of_startOf_resolve hjava))⟩
  exact List.forall_mem_append.2 ⟨List.forall_mem_map.2 hargument,
    List.forall_mem_singleton.2 (not_nul_of_startOf_resolve hschema)⟩

/-- **An installed compiler is reported missing exactly when the work directory is**: the schema is in
place, bindings are wanted, and the directory to run in is not there.  The error names the compiler
all the same. -/
theorem result_run_eq_notFound_iff (hinstalled : h.Installed fs program) (p : Text) :
    (c.run (Compiler.external h program) fs).result = .error (.compile (.notFound p))
      ↔ p = program ∧ c.compile = true
        ∧ ∃ e found, c.Placed fs e found ∧ Host.enter found c.workDir = .error .notFound := by
  rw [result_run_eq_compile_iff]
  constructor
  · rintro ⟨hcompile, e, found, hplaced, hresult⟩
    obtain ⟨hprepare, hp⟩ := Compiler.external_eq_notFound_iff.1 hresult
    obtain ⟨l, -, hwritten⟩ := FileSystem.written_of_write hplaced.written
    exact ⟨hp, hcompile, e, found, hplaced,
      Host.Installed.enter_of_prepare hinstalled hwritten.keeps hprepare⟩
  · rintro ⟨hp, hcompile, e, found, hplaced, henter⟩
    refine ⟨hcompile, e, found, hplaced, Compiler.external_eq_notFound_iff.2 ⟨?_, hp⟩⟩
    have hclean : (c.request.command program).Clean :=
      { program := hinstalled.not_nul
        args := hplaced.not_nul_arguments hcompile
        directory := Host.not_nul_of_enter_eq_notFound henter }
    exact Host.prepare_of_missing_directory hclean henter

/-- A bare name that the search path finds is missed because the work directory, which stands in front
of absolute paths only, is not there. -/
theorem result_run_eq_notFound_iff_absent :
    let c : Config :=
      { workDir := ⟨"/gone"⟩
        passes := [⟨⟨"/w/gl2_api.in"⟩, baseEndMarker⟩]
        schemaPath := ⟨"/w/DebuggerMessage.proto"⟩
        compiler := "aprotoc"
        cppOut := ⟨"/w"⟩
        javaOut := ⟨"/w"⟩
        compile := true }
    let fs : FileSystem :=
      ⟨[(["w"], .directory), (["w", "gl2_api.in"], .file (Utf8.encode "API_ENTRY(glA)"))], []⟩
    let h : Host := ⟨[("aprotoc", .runs fun _ files => (⟨⟨0⟩, []⟩, files))], []⟩
    h.Installed fs c.compiler
      ∧ (c.run (Compiler.external h c.compiler) fs).result
        = .error (.compile (.notFound c.compiler))
      ∧ ∃ e found, c.Placed fs e found ∧ Host.enter found c.workDir = .error .notFound := by
  intro c fs h
  have hinstalled : h.Installed fs c.compiler := ⟨.inr ⟨by decide, by decide⟩, _, _, rfl⟩
  have hmissing : (c.run (Compiler.external h c.compiler) fs).result
      = .error (.compile (.notFound c.compiler)) := by decide +kernel
  obtain ⟨-, -, hentered⟩ := (result_run_eq_notFound_iff hinstalled _).1 hmissing
  exact ⟨hinstalled, hmissing, hentered⟩

/-- An installed compiler is reported missing: the empty text stands in front of paths like the
current directory, but it cannot be entered. -/
theorem result_run_eq_notFound_of_empty_directory :
    let c : Config := { default with workDir := ⟨""⟩, compiler := "/bin/aprotoc" }
    let fs : FileSystem :=
      ⟨[(["w"], .directory), (["w", "gl2_api.in"], .file (Utf8.encode "API_ENTRY(glA)\n")),
        (["w", "src"], .directory), (["w", "client"], .directory),
        (["w", "client", "src"], .directory), (["bin"], .directory),
        (["bin", "aprotoc"], .file [])], ["w"]⟩
    let h : Host := ⟨[], [(["bin", "aprotoc"], .runs fun _ files => (⟨⟨0⟩, []⟩, files))]⟩
    h.Installed fs c.compiler
      ∧ (c.run (Compiler.external h c.compiler) fs).result
        = .error (.compile (.notFound c.compiler)) := by
  intro c fs h
  exact ⟨⟨.inl rfl, _, _, rfl⟩, by decide +kernel⟩

end Config

end WireSchema
