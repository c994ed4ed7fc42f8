import WireSchema.Proofs.Generation.Agreement

/-!
# Proofs/Generation/Dependence — the schema depends on the lists only

Two runs are compared whose settings name the same lists, and whose file systems hold the same bytes
under them; the work directories, the schema files and whatever else they hold may differ.  Each list
is then read alike in both, into the same table, so the two readings end alike: in the same enum, or
at the same fault, which is named by the path of the same list.

* `readPass_alike`, `readPasses_alike` — one list, and lists one after the other.
* `exists_placed_of_pastWriting` — a run past the writing has put the schema of its lists in place.
* `schema_of_lists` — what two such runs share.
-/

namespace WireSchema

/-- The same fault, of a list at one path and of a list at another. -/
inductive SameFault (path path' : FilePath) : GenerateError → GenerateError → Prop
  | read (source : SystemError) : SameFault path path' (.read path source) (.read path' source)
  | parse (source : ParseError) : SameFault path path' (.parse path source) (.parse path' source)
  | duplicateEntry (name : Text) (place first : Place) :
    SameFault path path' (.duplicateEntry name place first) (.duplicateEntry name place first)
  | reservedName (name : Text) (place : Place) :
    SameFault path path' (.reservedName name place) (.reservedName name place)

theorem sameFault_ofTable (path path' : FilePath) (e : TableError) :
    SameFault path path' (.ofTable path e) (.ofTable path' e) := by
  cases e with
  | parse source => exact .parse source
  | duplicate name place first => exact .duplicateEntry name place first
  | reserved name place => exact .reservedName name place

/-- A run got past the writing of its schema: it is complete, or it failed at a later stage. -/
def Outcome.PastWriting (o : Outcome) : Prop :=
  ∀ e, o.result = .error e → e.stage = .compile ∨ e.stage = .rename

namespace Config

variable {c d : Config} {fs gs : FileSystem}

/-! ## Reading the same lists -/

/-- Two settings name the same lists, and two file systems hold the same bytes under them. -/
structure SameLists (c : Config) (fs : FileSystem) (d : Config) (gs : FileSystem) : Prop where
  passes : c.passes = d.passes
  contents : ∀ p ∈ c.passes, ∃ content,
    fs.Leads (c.resolve p.path) (.file content) ∧ gs.Leads (d.resolve p.path) (.file content)

/-- Two readings end alike: with the same result, or at the same fault of the same list. -/
inductive Alike {α : Type} (c d : Config) : Except GenerateError α → Except GenerateError α → Prop
  | ok (a : α) : Alike c d (.ok a) (.ok a)
  | error {p : InputPass} {e e' : GenerateError} (hp : p ∈ c.passes)
    (h : SameFault (c.resolve p.path) (d.resolve p.path) e e') : Alike c d (.error e) (.error e')

theorem Alike.map {α β : Type} {a b : Except GenerateError α} (h : Alike c d a b) (f : α → β) :
    Alike c d (a.map f) (b.map f) := by
  cases h with
  | ok a => exact .ok (f a)
  | error hp h => exact .error hp h

/-- **A list is read alike** where its bytes are the same: the table sees its configured path only. -/
theorem readPass_alike {p : InputPass} {content : Bytes} (hp : p ∈ c.passes)
    (hc : fs.Leads (c.resolve p.path) (.file content))
    (hd : gs.Leads (d.resolve p.path) (.file content)) (t : FunctionTable) :
    Alike c d (c.readPass fs t p) (d.readPass gs t p) := by
  have hregular : gs.readText (d.resolve p.path) ≠ .error .notFound :=
    FileSystem.readText_ne_notFound ⟨content, hd⟩
  dsimp only [readPass]
  rw [FileSystem.readText_eq_of_leads hc hd]
  split
  · contradiction
  · exact .error hp (.read _)
  · cases t.extend _ with
    | error e => exact .error hp (sameFault_ofTable _ _ e)
    | ok r => exact .ok r

/-- Lists are read alike one after the other, as each leaves the same table for the next. -/
theorem readPasses_alike : ∀ {ps : List InputPass} (t : FunctionTable), (∀ p ∈ ps, p ∈ c.passes) →
    (∀ p ∈ ps, ∃ content, fs.Leads (c.resolve p.path) (.file content)
      ∧ gs.Leads (d.resolve p.path) (.file content)) →
    Alike c d (c.readPasses fs t ps).1 (d.readPasses gs t ps).1
  | [], t, _, _ => .ok t
  | p :: ps, t, hmem, hcontents => by
      obtain ⟨hp, hps⟩ := List.forall_mem_cons.1 hmem
      obtain ⟨⟨content, hc, hd⟩, hrest⟩ := List.forall_mem_cons.1 hcontents
      have hread := readPass_alike hp hc hd t
      rw [readPasses, readPasses]
      generalize c.readPass fs t p = a at hread ⊢
      generalize d.readPass gs t p = b at hread ⊢
      cases hread with
      | ok r => exact readPasses_alike r.2 hps hrest
      | error hp h => exact .error hp h

/-- **The same lists give the same enum, or the same fault.** -/
theorem SameLists.buildEnum_alike (h : c.SameLists fs d gs) :
    Alike c d (c.buildEnum fs).1 (d.buildEnum gs).1 := by
  rw [buildEnum, buildEnum, ← h.passes]
  exact (readPasses_alike .empty (fun _ hp => hp) h.contents).map FunctionTable.finish

theorem SameLists.buildEnum_eq_ok {e : FunctionEnum} (h : c.SameLists fs d gs)
    (he : (c.buildEnum fs).1 = .ok e) : (d.buildEnum gs).1 = .ok e := by
  have halike := h.buildEnum_alike
  rw [he] at halike
  generalize (d.buildEnum gs).1 = b at halike
  cases halike
  rfl

theorem SameLists.allRegular (h : c.SameLists fs d gs) : d.AllRegular gs := by
  intro p hp
  obtain ⟨content, -, hcontent⟩ := h.contents p (h.passes ▸ hp)
  exact ⟨content, hcontent⟩

/-! ## Past the writing -/

/-- A run wrote a document: it was in the schema file, and nothing else was changed, when the run
went on to the compiler or, without bindings, to its end. -/
def Wrote (c : Config) (compiler : Compiler) (fs : FileSystem) (document : Bytes) : Prop :=
  ∃ found, c.SchemaChange fs found document
    ∧ (c.compile = false → (c.run compiler fs).files = found)
    ∧ (c.compile = true → (c.run compiler fs).calls = [c.call compiler found])

theorem Placed.wrote {e : FunctionEnum} {found : FileSystem} (h : c.Placed fs e found)
    (compiler : Compiler) : c.Wrote compiler fs e.document :=
  ⟨found, h.enum_eq ▸ h.schemaChange, h.files_run, h.calls_run⟩

/-- **A run past the writing has put the schema of its lists in place.** -/
theorem exists_placed_of_pastWriting {compiler : Compiler} (h : (c.run compiler fs).PastWriting) :
    ∃ e found, c.Placed fs e found := by
  have hcourse := course_run c compiler fs
  generalize c.run compiler fs = o at h hcourse
  cases hcourse with
  | unmet hunmet => exact absurd (h _ rfl) (by rw [stage_of_unmet? hunmet]; decide)
  | unread hbuilt =>
    rcases stage_of_buildEnum hbuilt with hstage | hstage
    · exact absurd (h _ rfl) (by rw [hstage]; decide)
    · exact absurd (h _ rfl) (by rw [hstage]; decide)
  | unwritten => exact (h _ rfl).elim nofun nofun
  | skipped hplaced => exact ⟨_, _, hplaced⟩
  | uncompiled hplaced => exact ⟨_, _, hplaced⟩
  | unrenamed hplaced => exact ⟨_, _, hplaced⟩
  | renamed hplaced => exact ⟨_, _, hplaced⟩

theorem pastWriting_of_ok {o : Outcome} {r : Report} (h : o.result = .ok r) : o.PastWriting :=
  fun _ he => nomatch h.symm.trans he

/-- Two runs past the writing, of the same lists, put the same schema in place. -/
theorem SameLists.exists_placed {compiler compiler' : Compiler} (h : c.SameLists fs d gs)
    (hc : (c.run compiler fs).PastWriting) (hd : (d.run compiler' gs).PastWriting) :
    ∃ e found found', c.Placed fs e found ∧ d.Placed gs e found' := by
  obtain ⟨e, found, hplaced⟩ := exists_placed_of_pastWriting hc
  obtain ⟨e', found', hplaced'⟩ := exists_placed_of_pastWriting hd
  obtain rfl := Except.ok.inj ((h.buildEnum_eq_ok hplaced.built).symm.trans hplaced'.built)
  exact ⟨e, found, found', hplaced, hplaced'⟩

/-- A schema in place is put there again, where the lists are still the same and no bindings are
wanted. -/
theorem Placed.again {e : FunctionEnum} {found : FileSystem} (h : c.Placed fs e found)
    (hsame : c.SameLists fs c found) (hcompile : c.compile = false) : c.Placed found e found where
  met := unmet?_eq_none_iff.2
    ⟨hsame.allRegular, fun hwanted => Bool.noConfusion (hcompile.symm.trans hwanted)⟩
  built := hsame.buildEnum_eq_ok h.built
  written := FileSystem.write_write h.written

/-! ## The laws of the schema -/

/-- What two generations share that read the same lists. -/
structure ReadAlike (c : Config) (fs : FileSystem) (d : Config) (gs : FileSystem) : Prop where
  /-- Their readings give the same enum, or the same fault of the same list. -/
  reading : Alike c d (c.buildEnum fs).1 (d.buildEnum gs).1
  /-- If both get past the writing, they wrote the same document. -/
  document : ∀ compiler compiler', (c.run compiler fs).PastWriting →
    (d.run compiler' gs).PastWriting →
      ∃ document, c.Wrote compiler fs document ∧ d.Wrote compiler' gs document
  /-- If both are complete, they report the same numbers. -/
  report : ∀ compiler compiler' r r', (c.run compiler fs).result = .ok r →
    (d.run compiler' gs).result = .ok r' →
      r.functions = r'.functions ∧ r.controlStart = r'.controlStart

theorem SameLists.readAlike (h : c.SameLists fs d gs) : c.ReadAlike fs d gs where
  reading := h.buildEnum_alike
  document compiler compiler' hc hd := by
    obtain ⟨e, found, found', hplaced, hplaced'⟩ := h.exists_placed hc hd
    exact ⟨e.document, hplaced.wrote compiler, hplaced'.wrote compiler'⟩
  report compiler compiler' r r' hr hr' := by
    obtain ⟨e, found, found', hplaced, hplaced'⟩ :=
      h.exists_placed (pastWriting_of_ok hr) (pastWriting_of_ok hr')
    obtain ⟨hfunctions, hstart⟩ := hplaced.report_run hr
    obtain ⟨hfunctions', hstart'⟩ := hplaced'.report_run hr'
    exact ⟨hfunctions.trans hfunctions'.symm, hstart.trans hstart'.symm⟩

/-- What the lists decide: between two generations that read the same ones, and between a run and a
second one behind it. -/
structure SchemaByLists (c : Config) (fs : FileSystem) (d : Config) (gs : FileSystem) : Prop
    extends c.ReadAlike fs d gs where
  /-- A second run, behind a first one that left the lists as they were, reads alike: it writes the
  document again if it gets as far. -/
  again : ∀ compiler, c.SameLists fs c (c.run compiler fs).files →
    c.ReadAlike fs c (c.run compiler fs).files
  /-- Without bindings it gets as far, and reports and leaves what the first one did. -/
  rerun : c.compile = false → ∀ compiler compiler' r, (c.run compiler fs).result = .ok r →
    c.SameLists fs c (c.run compiler fs).files →
      (c.run compiler' (c.run compiler fs).files).result = .ok r
        ∧ (c.run compiler' (c.run compiler fs).files).files = (c.run compiler fs).files

/-- **The schema depends on the lists only**: not on where they are, on where it goes, or on what else
is there. -/
theorem schema_of_lists (h : c.SameLists fs d gs) : c.SchemaByLists fs d gs where
  toReadAlike := h.readAlike
  again _ hsame := hsame.readAlike
  rerun hcompile compiler compiler' r hr hsame := by
    obtain ⟨e, found, hplaced⟩ := exists_placed_of_pastWriting (pastWriting_of_ok hr)
    rw [hplaced.files_run hcompile] at hsame ⊢
    have hagain := hplaced.again hsame hcompile
    rw [hplaced.result_run hcompile] at hr
    exact ⟨(hagain.result_run hcompile).trans hr, hagain.files_run hcompile⟩

/-- The same list in two directories: the one run makes bindings beside it, the other replaces a
longer schema. -/
theorem schema_of_lists_elsewhere :
    let c : Config := default
    let d : Config :=
      { default with
        workDir := ⟨"/v"⟩
        schemaPath := ⟨"out.proto"⟩
        cppOut := ⟨"none"⟩
        compile := false }
    let list : Node := .file (Utf8.encode "API_ENTRY(glA)\nAPI_ENTRY(glB)")
    let fs : FileSystem :=
      ⟨[(["w"], .directory), (["w", "gl2_api.in"], list), (["w", "src"], .directory),
        (["w", "client"], .directory), (["w", "client", "src"], .directory)], ["w"]⟩
    let gs : FileSystem :=
      ⟨[(["v"], .directory), (["v", "gl2_api.in"], list),
        (["v", "out.proto"], .file (List.replicate 4096 0))], []⟩
    let compiler : Compiler := fun _ found =>
      ⟨.ok (), found.put ["w", "src", "DebuggerMessage.pb.cc"] (.file []), [], none⟩
    c.SameLists fs d gs
      ∧ (c.run compiler fs).result
        = .ok ⟨2, 2, ⟨"./DebuggerMessage.proto"⟩, some ⟨"./src/DebuggerMessage.pb.cpp"⟩⟩
      ∧ (d.run compiler gs).result = .ok ⟨2, 2, ⟨"/v/out.proto"⟩, none⟩
      ∧ c.SchemaByLists fs d gs := by
  intro c d list fs gs compiler
  have hsame : c.SameLists fs d gs :=
    { passes := rfl
      contents := by
        intro p hp
        obtain rfl := List.mem_singleton.1 hp
        exact ⟨_, FileSystem.lookup_eq_ok_iff.1 (by rfl), FileSystem.lookup_eq_ok_iff.1 (by rfl)⟩ }
  exact ⟨hsame, by decide +kernel, by decide +kernel, schema_of_lists hsame⟩

end Config

end WireSchema
