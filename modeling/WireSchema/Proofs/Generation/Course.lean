import WireSchema.Proofs.Generation.Inputs

/-!
# Proofs/Generation/Course — the ways that a run can go

A run has seven **courses**: it stops at an unmet precondition, at a list that cannot be taken, at a
schema that cannot be written, behind the schema when no bindings are wanted, at the compiler, at
the rename, or it goes through.  `course_run` says that there is no other; what a run leaves is then
read off its course.

* `stage_of_unmet?`, `stage_of_buildEnum` — the stages of the errors before the schema is written.
* `run_congr` — the compiler matters only through the calls that are made.
-/

namespace WireSchema

/-- The schema of an enum, in bytes. -/
def FunctionEnum.document (e : FunctionEnum) : Bytes := Utf8.encode (Document.render e)

namespace Config

variable {c : Config} {compiler : Compiler} {fs : FileSystem}

/-- The one call of the compiler, for the files that it finds. -/
def call (c : Config) (compiler : Compiler) (found : FileSystem) : CompilerCall :=
  ⟨c.request, found, (compiler c.request found).child?⟩

/-- The schema of the lists is in place: the checks were passed, the enum stands, and its document
was written. -/
structure Placed (c : Config) (fs : FileSystem) (e : FunctionEnum) (found : FileSystem) : Prop where
  met : c.unmet? fs = none
  built : (c.buildEnum fs).1 = .ok e
  written : fs.write (c.resolve c.schemaPath) e.document = .ok found

/-- The courses of a run, each with what it leaves. -/
inductive Course (c : Config) (compiler : Compiler) (fs : FileSystem) : Outcome → Prop
  | unmet {e : GenerateError} {log : List Record} (h : c.unmet? fs = some e) :
    Course c compiler fs ⟨.error e, fs, log, []⟩
  | unread {e : GenerateError} {log : List Record} (h : (c.buildEnum fs).1 = .error e) :
    Course c compiler fs ⟨.error e, fs, log, []⟩
  | unwritten {e : FunctionEnum} {err : SystemError} {log : List Record}
    (h : fs.write (c.resolve c.schemaPath) e.document = .error err) :
    Course c compiler fs ⟨.error (.writeSchema (c.resolve c.schemaPath) err), fs, log, []⟩
  | skipped {e : FunctionEnum} {found : FileSystem} {log : List Record}
    (hplaced : c.Placed fs e found) (hcompile : c.compile = false) :
    Course c compiler fs
      ⟨.ok ⟨e.functions, e.controlStart, c.resolve c.schemaPath, none⟩, found, log, []⟩
  | uncompiled {e : FunctionEnum} {found : FileSystem} {err : CompileError} {log : List Record}
    (hplaced : c.Placed fs e found) (hcompile : c.compile = true)
    (h : (compiler c.request found).result = .error err) :
    Course c compiler fs
      ⟨.error (.compile err), (compiler c.request found).files, log, [c.call compiler found]⟩
  | unrenamed {e : FunctionEnum} {found : FileSystem} {err : SystemError} {log : List Record}
    (hplaced : c.Placed fs e found) (hcompile : c.compile = true)
    (hresult : (compiler c.request found).result = .ok ())
    (h : (compiler c.request found).files.rename c.renamePair.1 c.renamePair.2 = .error err) :
    Course c compiler fs
      ⟨.error (.rename c.renamePair.1 c.renamePair.2 err), (compiler c.request found).files, log,
        [c.call compiler found]⟩
  | renamed {e : FunctionEnum} {found left : FileSystem} {log : List Record}
    (hplaced : c.Placed fs e found) (hcompile : c.compile = true)
    (hresult : (compiler c.request found).result = .ok ())
    (h : (compiler c.request found).files.rename c.renamePair.1 c.renamePair.2 = .ok left) :
    Course c compiler fs
      ⟨.ok ⟨e.functions, e.controlStart, c.resolve c.schemaPath, some c.renamePair.2⟩, left, log,
        [c.call compiler found]⟩

/-- **Every run takes one of the courses.** -/
theorem course_run (c : Config) (compiler : Compiler) (fs : FileSystem) :
    Course c compiler fs (c.run compiler fs) := by
  rw [run]
  split
  · rename_i e hunmet
    exact .unmet hunmet
  rename_i hmet
  dsimp only
  split
  · rename_i e hbuilt
    exact .unread hbuilt
  rename_i e hbuilt
  split
  · rename_i err hwritten
    exact .unwritten hwritten
  rename_i found hwritten
  have hplaced : c.Placed fs e found := ⟨hmet, hbuilt, hwritten⟩
  split
  · rename_i hcompile
    rw [compileBindings]
    dsimp only
    split
    · rename_i err hresult
      exact .uncompiled hplaced hcompile hresult
    · rename_i hresult
      split
      · rename_i err hrename
        exact .unrenamed hplaced hcompile hresult hrename
      · rename_i left hrename
        exact .renamed hplaced hcompile hresult hrename
  · rename_i hcompile
    exact .skipped hplaced (Bool.eq_false_iff.2 hcompile)

/-- **What a run does when the schema is in place.** -/
theorem Placed.run_eq {e : FunctionEnum} {found : FileSystem} (h : c.Placed fs e found)
    (compiler : Compiler) : ∃ log, c.run compiler fs =
      if c.compile then
        let bindings := c.compileBindings compiler found
        ⟨bindings.1.map fun p => ⟨e.functions, e.controlStart, c.resolve c.schemaPath, some p⟩,
          bindings.2.1, log ++ bindings.2.2.1, bindings.2.2.2⟩
      else ⟨.ok ⟨e.functions, e.controlStart, c.resolve c.schemaPath, none⟩, found,
        log ++ [⟨.info, .generator, "compilation disabled; skipping bindings", []⟩], []⟩ := by
  have hwritten : fs.write (c.resolve c.schemaPath) (Utf8.encode (Document.render e)) = .ok found :=
    h.written
  refine ⟨(c.buildEnum fs).2 ++ [c.writtenRecord e], ?_⟩
  rw [run, h.met]
  dsimp only
  rw [h.built]
  dsimp only
  rw [hwritten]

/-! ## The stages of early errors -/

theorem stage_of_unmet? {e : GenerateError} (h : c.unmet? fs = some e) :
    e.stage = .preconditions := by
  dsimp only [unmet?] at h
  split at h
  · obtain rfl := Option.some.inj h
    rfl
  split at h
  · obtain ⟨p, -, rfl⟩ := Option.map_eq_some_iff.1 h
    rfl
  · contradiction

theorem stage_of_buildEnum {e : GenerateError} (h : (c.buildEnum fs).1 = .error e) :
    e.stage = .preconditions ∨ e.stage = .extract := by
  obtain ⟨path, -, rfl⟩ | hstage := of_buildEnum_eq_error h
  · exact .inl rfl
  · exact .inr hstage

/-! ## The compiler -/

theorem calls_compileBindings : (c.compileBindings compiler fs).2.2.2 = [c.call compiler fs] := by
  rw [compileBindings]
  dsimp only
  split
  · rfl
  · split
    · rfl
    · rfl

/-- **The compiler matters only through the calls that are made.** -/
theorem run_congr {other : Compiler}
    (h : ∀ k ∈ (c.run compiler fs).calls, other k.request k.found = compiler k.request k.found) :
    c.run other fs = c.run compiler fs := by
  rw [run] at h
  rw [run, run]
  split at h
  · rfl
  dsimp only at h ⊢
  split at h
  · rfl
  split at h
  · rfl
  split at h
  · rename_i found _ hcompile
    dsimp only at h
    rw [calls_compileBindings] at h
    have hreply : other c.request found = compiler c.request found := h _ List.mem_cons_self
    have hbindings : c.compileBindings other found = c.compileBindings compiler found := by
      rw [compileBindings, compileBindings, hreply]
    rw [if_pos hcompile, if_pos hcompile, hbindings]
  · rename_i hcompile
    rw [if_neg hcompile, if_neg hcompile]

/-- **A run fails at its compiler** when the schema is in place, bindings are wanted, and the
compiler fails. -/
theorem result_run_eq_compile_iff {err : CompileError} :
    (c.run compiler fs).result = .error (.compile err)
      ↔ c.compile = true ∧ ∃ e found, c.Placed fs e found
        ∧ (compiler c.request found).result = .error err := by
  constructor
  · intro h
    have hcourse := course_run c compiler fs
    generalize c.run compiler fs = o at h hcourse
    cases hcourse with
    | unmet hunmet =>
      obtain rfl := Except.error.inj h
      exact nomatch stage_of_unmet? hunmet
    | unread hbuilt =>
      obtain rfl := Except.error.inj h
      exact (stage_of_buildEnum hbuilt).elim nofun nofun
    | unwritten => exact nomatch Except.error.inj h
    | skipped => contradiction
    | uncompiled hplaced hcompile hresult =>
      obtain rfl := GenerateError.compile.inj (Except.error.inj h)
      exact ⟨hcompile, _, _, hplaced, hresult⟩
    | unrenamed => exact nomatch Except.error.inj h
    | renamed => contradiction
  · rintro ⟨hcompile, e, found, hplaced, hresult⟩
    obtain ⟨log, hrun⟩ := hplaced.run_eq compiler
    rw [hrun, if_pos hcompile, compileBindings]
    dsimp only
    rw [hresult]
    rfl

end Config

end WireSchema
