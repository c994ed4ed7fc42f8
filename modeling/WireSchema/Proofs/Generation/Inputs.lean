import WireSchema.Generation.Run
import WireSchema.Proofs.FileSystem.Lookup
import WireSchema.Proofs.FunctionTable.Regrouping

/-!
# Proofs/Generation/Inputs — the lists of a run, as passes

`Config.inputs` are the passes that a file system holds for a configuration, in configured order.
The lists are read into an enum exactly when each of them is one of these passes and the table takes
them one after the other, and the enum is then the one that numbers them.  If they are not, the
reading missed the first list that is no regular file, or it failed in extraction.

* `readPasses_eq_ok_iff` — reading lists is feeding their passes.
* `buildEnum_eq_ok_iff` — what lists need to be numbered.
* `of_buildEnum_eq_error` — how the reading fails.
-/

namespace WireSchema

namespace Config

variable {c : Config} {fs : FileSystem}

/-- The pass that a file system holds for a list, if the list can be read as text. -/
def input? (c : Config) (fs : FileSystem) (p : InputPass) : Option Pass :=
  match fs.readText (c.resolve p.path) with
  | .error _ => none
  | .ok content => some ⟨p.path.text, Text.lines content, p.endMarker⟩

/-- The passes that a file system holds for a configuration. -/
def inputs (c : Config) (fs : FileSystem) : List Pass := c.passes.filterMap (c.input? fs)

/-- **Reading a list** gives the table the pass that the file system holds for it. -/
theorem readPass_eq_ok_iff {t : FunctionTable} {p : InputPass} {r : Nat × FunctionTable} :
    c.readPass fs t p = .ok r ↔ ∃ q, c.input? fs p = some q ∧ t.extend q = .ok r := by
  dsimp only [readPass, input?]
  split
  · rename_i hread
    simp [hread]
  · rename_i hread
    simp [hread]
  · rename_i content hread
    rw [hread]
    dsimp only
    cases hextend : t.extend ⟨p.path.text, Text.lines content, p.endMarker⟩ with
    | error e => simp [hextend]
    | ok r => simp [hextend]

/-- **Reading lists** feeds the table with their passes; each list must have one. -/
theorem readPasses_eq_ok_iff : ∀ {t t' : FunctionTable} {ps : List InputPass},
    (c.readPasses fs t ps).1 = .ok t' ↔ (∀ p ∈ ps, (c.input? fs p).isSome)
      ∧ t.feed (ps.filterMap (c.input? fs)) = .ok t'
  | t, t', [] => by simp [readPasses, FunctionTable.feed]
  | t, t', p :: ps => by
      rw [readPasses, List.forall_mem_cons]
      cases hread : c.readPass fs t p with
      | ok r =>
        obtain ⟨q, hq, hextend⟩ := readPass_eq_ok_iff.1 hread
        rw [List.filterMap_cons_some hq, FunctionTable.feed_cons_of_ok hextend, hq]
        simp only [readPasses_eq_ok_iff, Option.isSome_some, true_and]
      | error e =>
        refine iff_of_false (by simp) ?_
        rintro ⟨⟨hp, -⟩, hfeed⟩
        obtain ⟨q, hq⟩ := Option.isSome_iff_exists.1 hp
        rw [List.filterMap_cons_some hq] at hfeed
        rcases hextend : t.extend q with e' | r
        · rw [FunctionTable.feed_cons_of_error hextend] at hfeed
          contradiction
        · have hok := hread.symm.trans (readPass_eq_ok_iff.2 ⟨q, hq, hextend⟩)
          contradiction

/-- Lists that can be numbered: each of them can be read as text, and their lines, put one behind the
other, are good and declare fresh names. -/
structure Numberable (c : Config) (fs : FileSystem) : Prop where
  readable : ∀ p ∈ c.passes, (c.input? fs p).isSome
  wellFormed : Entry.Readable ((c.inputs fs).flatMap Pass.lines)
  fresh : Fresh [] ((c.inputs fs).flatMap Pass.names)

/-- **Lists are read exactly when they can be numbered**, and into the enum that numbers them. -/
theorem buildEnum_eq_ok_iff {e : FunctionEnum} :
    (c.buildEnum fs).1 = .ok e ↔ c.Numberable fs ∧ e = .ofPasses (c.inputs fs) := by
  have hread : ∀ t, (c.readPasses fs .empty c.passes).1 = .ok t ↔ c.Numberable fs
      ∧ t = (c.inputs fs).foldl FunctionTable.grown .empty := by
    intro t
    rw [readPasses_eq_ok_iff, ← inputs, FunctionTable.feed_eq_ok_iff]
    constructor
    · rintro ⟨hsome, hlines, hnames, ht⟩
      exact ⟨⟨hsome, hlines, hnames⟩, ht⟩
    · rintro ⟨⟨hsome, hlines, hnames⟩, ht⟩
      exact ⟨hsome, hlines, hnames, ht⟩
  dsimp only [buildEnum]
  rw [← FunctionTable.finish_foldl_grown]
  rcases ht : (c.readPasses fs .empty c.passes).1 with err | t
  · refine iff_of_false (fun h => nomatch h) fun h => ?_
    exact nomatch ht.symm.trans ((hread _).2 ⟨h.1, rfl⟩)
  · obtain ⟨hnumberable, rfl⟩ := (hread t).1 ht
    constructor
    · intro h
      exact ⟨hnumberable, (Except.ok.inj h).symm⟩
    · rintro ⟨-, rfl⟩
      rfl

/-- Lists that can be numbered have as many entries as marker lines. -/
theorem Numberable.length_names (h : c.Numberable fs) :
    ((c.inputs fs).flatMap Pass.names).length = Pass.totalMarkerLines (c.inputs fs) := by
  rw [← Pass.names_flatMap_lines]
  exact Entry.length_names h.wellFormed

/-- Lists that can be numbered are, from zero and without a gap, as long as the numbers do not run
out. -/
theorem Numberable.numbered (h : c.Numberable fs)
    (hsize : Pass.totalMarkerLines (c.inputs fs) < UInt32.size - 4) :
    (FunctionEnum.ofPasses (c.inputs fs)).Numbered := by
  have hnames : ((c.inputs fs).flatMap Pass.names).length + 4 ≤ UInt32.size := by
    rw [h.length_names]
    omega
  exact fun _ hk => FunctionEnum.value_getElem_ofPasses hnames hk

/-! ## Lists that cannot be read -/

/-- The path of the first list that is no regular file. -/
def FirstIrregular (c : Config) (fs : FileSystem) (ps : List InputPass) (path : FilePath) : Prop :=
  ∃ earlier p later, ps = earlier ++ p :: later
    ∧ (∀ q ∈ earlier, fs.IsRegular (c.resolve q.path))
    ∧ ¬ fs.IsRegular (c.resolve p.path) ∧ path = c.resolve p.path

/-- A list that cannot be read into the table is no regular file, or it fails in extraction. -/
theorem of_readPass_eq_error {t : FunctionTable} {p : InputPass} {e : GenerateError}
    (h : c.readPass fs t p = .error e) :
    (¬ fs.IsRegular (c.resolve p.path) ∧ e = .inputNotFound (c.resolve p.path))
      ∨ e.stage = .extract := by
  dsimp only [readPass] at h
  split at h
  · rename_i hread
    exact .inl ⟨fun hregular => FileSystem.readText_ne_notFound hregular hread,
      (Except.error.inj h).symm⟩
  · obtain rfl := Except.error.inj h
    exact .inr rfl
  · split at h
    · rename_i err _
      obtain rfl := Except.error.inj h
      exact .inr (by cases err <;> rfl)
    · contradiction

theorem isRegular_of_readPass {t : FunctionTable} {p : InputPass} {r : Nat × FunctionTable}
    (h : c.readPass fs t p = .ok r) : fs.IsRegular (c.resolve p.path) := by
  dsimp only [readPass] at h
  split at h
  · contradiction
  · contradiction
  · rename_i hread
    exact FileSystem.isRegular_of_readText hread

/-- Lists that cannot be read miss the first irregular one, or fail in extraction. -/
theorem of_readPasses_eq_error : ∀ {t : FunctionTable} {ps : List InputPass} {e : GenerateError},
    (c.readPasses fs t ps).1 = .error e →
      (∃ path, c.FirstIrregular fs ps path ∧ e = .inputNotFound path) ∨ e.stage = .extract
  | _, [], _, h => by contradiction
  | t, p :: ps, e, h => by
      rw [readPasses] at h
      split at h
      · rename_i err hread
        obtain rfl := Except.error.inj h
        refine (of_readPass_eq_error hread).imp_left fun ⟨hp, he⟩ => ?_
        exact ⟨_, ⟨[], p, ps, rfl, fun _ hq => absurd hq List.not_mem_nil, hp, rfl⟩, he⟩
      · rename_i added s hread
        refine (of_readPasses_eq_error h).imp_left ?_
        rintro ⟨path, ⟨earlier, q, later, rfl, hearlier, hq, hpath⟩, he⟩
        refine ⟨path, ⟨p :: earlier, q, later, rfl, fun r hr => ?_, hq, hpath⟩, he⟩
        rcases List.mem_cons.1 hr with rfl | hr
        · exact isRegular_of_readPass hread
        · exact hearlier r hr

/-- **The reading misses the first irregular list, or fails in extraction.** -/
theorem of_buildEnum_eq_error {e : GenerateError} (h : (c.buildEnum fs).1 = .error e) :
    (∃ path, c.FirstIrregular fs c.passes path ∧ e = .inputNotFound path)
      ∨ e.stage = .extract := by
  dsimp only [buildEnum] at h
  rcases hread : (c.readPasses fs .empty c.passes).1 with err | t
  · rw [hread] at h
    obtain rfl := Except.error.inj h
    exact of_readPasses_eq_error hread
  · rw [hread] at h
    contradiction

end Config

end WireSchema
