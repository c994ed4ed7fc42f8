import WireSchema.Proofs.Generation.Agreement

/-!
# Proofs/Generation/Completeness — what a complete generation needs

A run needs lists that can be numbered, output directories if bindings are wanted, and a place for the
schema; then it needs a compiler that succeeds, and a source of it that can be renamed.  Nothing else
decides whether it goes through, so that every failed run lacks one of these.

* `placed_iff` — when the schema of the lists is put in place.
* `isOk_result_run_iff` — when a run goes through.
-/

namespace WireSchema.Config

variable {c : Config} {compiler : Compiler} {fs found left : FileSystem}

/-- Lists that can be numbered are regular files. -/
theorem Numberable.allRegular (h : c.Numberable fs) : c.AllRegular fs := by
  intro p hp
  obtain ⟨q, hq⟩ := Option.isSome_iff_exists.1 (h.readable p hp)
  rw [input?] at hq
  split at hq
  · contradiction
  · rename_i hread
    exact FileSystem.isRegular_of_readText hread

/-- **The schema is put in place** when the lists can be numbered, the output directories are there,
and its file can be written. -/
theorem placed_iff {e : FunctionEnum} : c.Placed fs e found
    ↔ c.Numberable fs ∧ c.OutputsReady fs ∧ e = c.enum fs
      ∧ fs.write (c.resolve c.schemaPath) (c.enum fs).document = .ok found := by
  constructor
  · intro h
    obtain rfl := h.enum_eq
    obtain ⟨-, hready⟩ := unmet?_eq_none_iff.1 h.met
    exact ⟨(buildEnum_eq_ok_iff.1 h.built).1, hready, rfl, h.written⟩
  · rintro ⟨hnumberable, hready, rfl, hwritten⟩
    exact
      { met := unmet?_eq_none_iff.2 ⟨hnumberable.allRegular, hready⟩
        built := buildEnum_eq_ok_iff.2 ⟨hnumberable, rfl⟩
        written := hwritten }

/-- A run goes through: the files that its compiler finds, and those that it leaves. -/
structure Finished (c : Config) (compiler : Compiler) (fs found left : FileSystem) : Prop where
  placed : c.Placed fs (c.enum fs) found
  /-- Without bindings, the schema is the end. -/
  skipped : c.compile = false → left = found
  compiled : c.compile = true → (compiler c.request found).result = .ok ()
    ∧ (compiler c.request found).files.rename c.renamePair.1 c.renamePair.2 = .ok left

/-- What a run that goes through reports, leaves and calls. -/
theorem Finished.run_eq (h : c.Finished compiler fs found left) : ∃ log, c.run compiler fs =
    ⟨.ok ⟨(c.enum fs).functions, (c.enum fs).controlStart, c.resolve c.schemaPath,
        if c.compile then some c.renamePair.2 else none⟩,
      left, log, if c.compile then [c.call compiler found] else []⟩ := by
  obtain ⟨log, hrun⟩ := h.placed.run_eq compiler
  cases hcompile : c.compile with
  | false =>
    rw [hcompile, ← h.skipped hcompile] at hrun
    exact ⟨_, hrun⟩
  | true =>
    obtain ⟨hresult, hrename⟩ := h.compiled hcompile
    rw [hcompile, compileBindings] at hrun
    dsimp only at hrun
    rw [hresult] at hrun
    dsimp only at hrun
    rw [hrename] at hrun
    exact ⟨_, hrun⟩

/-- **A run is complete exactly when it goes through.** -/
theorem isOk_result_run_iff : (∃ r, (c.run compiler fs).result = .ok r)
    ↔ ∃ found left, c.Finished compiler fs found left := by
  constructor
  · rintro ⟨r, h⟩
    have hcourse := course_run c compiler fs
    generalize c.run compiler fs = o at h hcourse
    cases hcourse with
    | unmet => contradiction
    | unread => contradiction
    | unwritten => contradiction
    | skipped hplaced hcompile =>
      obtain rfl := hplaced.enum_eq
      exact ⟨_, _, hplaced, fun _ => rfl, fun h => Bool.noConfusion (hcompile.symm.trans h)⟩
    | uncompiled => contradiction
    | unrenamed => contradiction
    | renamed hplaced hcompile hresult hrename =>
      obtain rfl := hplaced.enum_eq
      exact ⟨_, _, hplaced, fun h => Bool.noConfusion (hcompile.symm.trans h),
        fun _ => ⟨hresult, hrename⟩⟩
  · rintro ⟨found, left, h⟩
    obtain ⟨log, hrun⟩ := h.run_eq
    exact ⟨_, by rw [hrun]⟩

end WireSchema.Config
