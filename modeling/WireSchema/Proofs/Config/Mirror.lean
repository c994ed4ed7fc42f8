import WireSchema.Config
import WireSchema.Proofs.FilePath.Extension
import WireSchema.Proofs.FilePath.Stripping

/-!
# Proofs/Config/Mirror — the generated source and the name the build expects

The schema compiler mirrors the schema's path, relative to the work directory, inside the C++ output
directory.  The two names of its source follow that path when they stand in the mirrored directory,
each the schema's stem with its own ending.

* `mirrorPath_mirroredSchema` — the path as which the schema is mirrored.
* `mirrored_iff` — the names follow that path but in two cases: a schema `..x` names a directory twice, and a
  work directory that is the empty text leaves an absolute schema where it is.
-/

namespace WireSchema

namespace FilePath

/-- Two different names in one directory. -/
structure Siblings (p q : FilePath) : Prop where
  directory : ∃ d, p.parent? = some d ∧ q.parent? = some d
  names : ∃ m n, p.fileName? = some m ∧ q.fileName? = some n ∧ m ≠ n

theorem Siblings.ne {p q : FilePath} (h : p.Siblings q) : p ≠ q := by
  rintro rfl
  obtain ⟨m, n, hm, hn, hne⟩ := h.names
  exact hne (Option.some.inj (hm.symm.trans hn))

/-- Two names behind one boundary are siblings. -/
theorem siblings_append {lead m n : Text} (hlead : AtBoundary lead) (hm : IsFileName m)
    (hn : IsFileName n) (hne : m ≠ n) : Siblings ⟨lead ++ m⟩ ⟨lead ++ n⟩ := by
  have hsplit := splitFileName?_append hlead hm
  have hsplit' := splitFileName?_append hlead hn
  refine ⟨⟨_, parent?_of_splitFileName? hsplit, parent?_of_splitFileName? hsplit'⟩,
    ⟨m, n, ?_, ?_, hne⟩⟩
  · rw [fileName?, hsplit]; rfl
  · rw [fileName?, hsplit']; rfl

end FilePath

namespace Config

open FilePath

variable {c : Config} {d : FilePath} {s : Text}

/-! ## The schema's path inside an output directory -/

/-- The path as which a schema is mirrored: a relative one as it is, one below the work directory as it
is walked from there, and any other by its file name alone. -/
inductive MirrorPath (c : Config) : FilePath → Prop
  | relative (h : c.schemaPath.isAbsolute = false) : MirrorPath c c.schemaPath
  | below {rest : FilePath} (h : c.schemaPath.isAbsolute = true)
      (hbelow : c.workDir.components <+: c.schemaPath.components)
      (hsteps : c.schemaPath.steps = c.workDir.steps ++ rest.steps) : MirrorPath c rest
  | elsewhere (h : c.schemaPath.isAbsolute = true)
      (hnot : ¬ c.workDir.components <+: c.schemaPath.components) :
      MirrorPath c ⟨c.schemaPath.fileName?.getD []⟩

/-- **A schema is mirrored by where it lies.** -/
theorem mirrorPath_mirroredSchema (c : Config) : c.MirrorPath c.mirroredSchema := by
  rw [mirroredSchema]
  cases habs : c.schemaPath.isAbsolute with
  | false => exact .relative habs
  | true =>
    rw [if_pos rfl]
    cases hrest : c.schemaPath.stripPrefix? c.workDir with
    | some rest =>
      exact .below habs (exists_stripPrefix?_iff.1 ⟨rest, hrest⟩) (steps_of_stripPrefix? hrest)
    | none =>
      refine .elsewhere habs fun hbelow => ?_
      obtain ⟨rest, hsome⟩ := exists_stripPrefix?_iff.2 hbelow
      rw [hrest] at hsome
      contradiction

/-- **The schema is mirrored as a relative path**, but where an absolute one is stripped of nothing. -/
theorem isAbsolute_mirroredSchema_iff : c.mirroredSchema.isAbsolute = true ↔
    c.workDir.text = [] ∧ c.schemaPath.isAbsolute = true := by
  rw [mirroredSchema]
  by_cases habs : c.schemaPath.isAbsolute = true
  · rw [if_pos habs]
    cases hrest : c.schemaPath.stripPrefix? c.workDir with
    | some rest => exact isAbsolute_of_stripPrefix? hrest
    | none =>
      have hname : (⟨c.schemaPath.fileName?.getD []⟩ : FilePath).isAbsolute = false := by
        cases hn : c.schemaPath.fileName? with
        | none => rfl
        | some n => exact @isAbsolute_append_part [] n (isFileName_of_fileName? hn).noSeparator
      dsimp only
      rw [hname]
      refine iff_of_false Bool.false_ne_true fun ⟨hempty, _⟩ => ?_
      have hnil : c.workDir.components = [] := components_eq_nil_iff.2 hempty
      obtain ⟨rest, hsome⟩ := exists_stripPrefix?_iff.2 (hnil ▸ List.nil_prefix)
      exact nomatch hsome.symm.trans hrest
  · rw [if_neg habs]
    exact iff_of_false habs fun h => habs h.2

/-! ## The rename -/

/-- The two names of the generated source follow the schema: in the directory `d` inside the C++
output directory stands the stem `s`, once with each ending. -/
structure Mirrored (c : Config) (d : FilePath) (s : Text) : Prop
    extends Siblings c.renamePair.1 c.renamePair.2 where
  source : c.renamePair.1.steps =
    (c.resolve c.cppOut).steps ++ d.steps ++ [.name (s ++ ".pb.cc".toList)]
  target : c.renamePair.2.steps =
    (c.resolve c.cppOut).steps ++ d.steps ++ [.name (s ++ ".pb.cpp".toList)]

/-- A schema `..x`, with nothing behind its name, names one directory twice. -/
theorem renamePair_of_dots (hs : c.mirroredSchema.stem? = some ['.'])
    (htrim : c.mirroredSchema.IsTrimmed) : c.renamePair.1 = c.renamePair.2 := by
  obtain ⟨before, n, hsplit, hstem⟩ := exists_of_stem? hs
  rw [renamePair, withExtension_eq_dots hsplit hstem htrim, withExtension_eq_dots hsplit hstem htrim]

/-- Every other schema names two entries behind one boundary, which leads to the mirrored directory
unless the schema is absolute there. -/
theorem exists_renamePair (hd : c.mirroredSchema.parent? = some d)
    (hs : c.mirroredSchema.stem? = some s) (hdots : ¬ (s = ['.'] ∧ c.mirroredSchema.IsTrimmed)) :
    ∃ lead, AtBoundary lead ∧
      ((⟨lead⟩ : FilePath).steps = (c.resolve c.cppOut).steps ++ d.steps ↔
        (c.mirroredSchema.isAbsolute = true → (c.resolve c.cppOut).steps = [])) ∧
      c.renamePair = (⟨lead ++ (s ++ ".pb.cc".toList)⟩, ⟨lead ++ (s ++ ".pb.cpp".toList)⟩) := by
  obtain ⟨before, n, hsplit, hstem⟩ := exists_of_stem? hs
  obtain rfl := Option.some.inj (hd.symm.trans (parent?_of_splitFileName? hsplit))
  obtain ⟨lead, hlead, hsteps, hjoin⟩ :=
    exists_join_append (c.resolve c.cppOut) (of_splitFileName? hsplit).2.1
  have hname (ext : Text) (hne : ext ≠ []) (hslash : '/' ∉ ext) :
      (c.resolve c.cppOut).join (c.mirroredSchema.withExtension ext) = ⟨lead ++ (s ++ '.' :: ext)⟩ := by
    rw [withExtension_eq hsplit hstem fun h htrim => hdots ⟨h, htrim⟩, List.append_assoc,
      hjoin _ (isFileName_stem_append hs hne hslash)]
  refine ⟨lead, hlead, ?_, ?_⟩
  · rw [hsteps, steps_trimTail, isAbsolute_of_splitFileName? hsplit]
    exact steps_join_iff
  · rw [renamePair, hname _ (by decide) (by decide), hname _ (by decide) (by decide)]
    rfl

theorem resolve_of_empty (h : c.workDir.text = []) (p : FilePath) : c.resolve p = p := by
  rw [resolve, join, h]
  by_cases habs : p.isAbsolute = true
  · rw [if_pos habs]
  · rw [if_neg habs]
    rfl

/-- **The two names follow the path as which the schema is mirrored**, each the schema's stem in the
mirrored directory, but in two cases: a schema `..x` with nothing behind its name gives no two names,
and an absolute schema stays where it is when the work directory is the empty text. -/
theorem mirrored_iff (hd : c.mirroredSchema.parent? = some d)
    (hs : c.mirroredSchema.stem? = some s) :
    c.MirrorPath c.mirroredSchema ∧
    (c.Mirrored d s ↔ ¬ (s = ['.'] ∧ c.mirroredSchema.IsTrimmed) ∧
      (c.workDir.text = [] → c.schemaPath.isAbsolute = true → c.cppOut.steps = [])) ∧
    (c.renamePair.1.Siblings c.renamePair.2 ↔ ¬ (s = ['.'] ∧ c.mirroredSchema.IsTrimmed)) := by
  refine ⟨c.mirrorPath_mirroredSchema, ?_⟩
  have hplace : (c.mirroredSchema.isAbsolute = true → (c.resolve c.cppOut).steps = []) ↔
      (c.workDir.text = [] → c.schemaPath.isAbsolute = true → c.cppOut.steps = []) := by
    rw [isAbsolute_mirroredSchema_iff, and_imp]
    exact forall_congr' fun hempty => by rw [resolve_of_empty hempty]
  by_cases hdots : s = ['.'] ∧ c.mirroredSchema.IsTrimmed
  · have hsame : ¬ c.renamePair.1.Siblings c.renamePair.2 := fun h =>
      h.ne (renamePair_of_dots (hdots.1 ▸ hs) hdots.2)
    exact ⟨iff_of_false (fun h => hsame h.toSiblings) fun h => h.1 hdots,
      iff_of_false hsame (not_not_intro hdots)⟩
  obtain ⟨lead, hlead, hsteps, hpair⟩ := exists_renamePair hd hs hdots
  have hsource : IsFileName (s ++ ".pb.cc".toList) :=
    isFileName_stem_append hs (by decide) (by decide)
  have htarget : IsFileName (s ++ ".pb.cpp".toList) :=
    isFileName_stem_append hs (by decide) (by decide)
  have hsiblings : c.renamePair.1.Siblings c.renamePair.2 := by
    rw [hpair]
    exact siblings_append hlead hsource htarget fun h => absurd (List.append_cancel_left h) (by decide)
  have hwalk {m : Text} (hm : IsFileName m) :
      (⟨lead ++ m⟩ : FilePath).steps = (⟨lead⟩ : FilePath).steps ++ [.name m] :=
    steps_of_splitFileName? (splitFileName?_append hlead hm)
  refine ⟨?_, iff_of_true hsiblings hdots⟩
  rw [and_iff_right hdots, ← hplace, ← hsteps]
  constructor
  · intro h
    have heq := h.source
    rw [hpair] at heq
    exact List.append_cancel_right ((hwalk hsource).symm.trans heq)
  · intro h
    refine ⟨hsiblings, ?_, ?_⟩
    · rw [hpair, ← h]
      exact hwalk hsource
    · rw [hpair, ← h]
      exact hwalk htarget

/-- Separators and `.` parts in the schema's path, in the middle and at the end, change nothing. -/
theorem mirrored_iff_below :
    ({ default with workDir := ⟨"/tmp/gles"⟩, schemaPath := ⟨"/tmp/gles//proto/./X.y.proto/."⟩ } :
      Config).Mirrored ⟨"proto"⟩ "X.y" :=
  (mirrored_iff (by decide) (by decide)).2.1.2 ⟨by decide, nofun⟩

/-- The schema `..proto` has a stem and a parent, and both names of its source are `src/..`. -/
theorem not_mirrored_of_dots :
    let c : Config := { default with workDir := ⟨"/tmp/gles"⟩, schemaPath := ⟨"..proto"⟩ }
    c.mirroredSchema.parent? = some ⟨""⟩ ∧ c.mirroredSchema.stem? = some ".".toList ∧
      c.renamePair = (⟨"/tmp/gles/src/.."⟩, ⟨"/tmp/gles/src/.."⟩) ∧ ¬ c.Mirrored ⟨""⟩ "." := by
  refine ⟨by decide, by decide, by decide, fun h => ?_⟩
  exact h.toSiblings.ne (renamePair_of_dots (by decide) (by decide))

end Config

end WireSchema
