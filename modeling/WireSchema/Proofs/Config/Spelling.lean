import WireSchema.Proofs.Config.Mirror

/-!
# Proofs/Config/Spelling — the schema by its relative and by its absolute path

A schema below the work directory can be named as seen from there, or by the path that this leads to
when the two are joined.  The first text is mirrored as it stands.  The second is stripped of the work
directory again, which does not give the first text back, but one that leads where the first one leads.
Both texts end in their last component, so that the new extensions go to the same step.

* `exists_stripPrefix?_join` — a relative path, joined to a directory and stripped of it.
* `spellings_agree` — the schema and both names of its source are the same under both spellings.
-/

namespace WireSchema

namespace FilePath

variable {p base : FilePath}

theorem isTrimmed_bare (t : Text) : (bare t).IsTrimmed := by
  rw [IsTrimmed, bare, List.reverse_reverse, dropTail_dropTail]

/-- **A relative path that is joined to a directory can be stripped of it again**, and what is left
leads where the path did. -/
theorem exists_stripPrefix?_join (hbase : base.isAbsolute = true) (hp : p.isAbsolute = false) :
    ∃ rest, (base.join p).stripPrefix? base = some rest ∧ rest.IsTrimmed ∧ rest.steps = p.steps := by
  have hbody : p.steps = bodyComponents p.text := by
    rw [steps_eq, hp, if_neg Bool.false_ne_true, List.nil_append]
  have hjoin : (base.join p).components = base.components ++ p.steps := by
    rw [components_of_isAbsolute (isAbsolute_join hbase p), components_of_isAbsolute hbase,
      steps_join_iff.2 fun h => absurd (hp.symm.trans h) Bool.false_ne_true]
  obtain ⟨rest, hrest⟩ := exists_stripPrefix?_iff.2 (hjoin ▸ List.prefix_append _ _)
  refine ⟨rest, hrest, ?_⟩
  obtain ⟨hnil, -⟩ | ⟨-, t, ht, rfl⟩ := of_stripPrefix? hrest
  · have hroot := root_mem_steps_iff.2 hbase
    rw [← components_of_isAbsolute hbase, hnil] at hroot
    exact absurd hroot List.not_mem_nil
  · refine ⟨isTrimmed_bare t, ?_⟩
    rw [steps_bare]
    exact List.append_cancel_left (ht.symm.trans hjoin)

/-- Paths that lead alike, and end in their last component, lead alike from a directory when they get
another extension. -/
theorem components_join_withExtension {q dir : FilePath} (hdir : dir.isAbsolute = true)
    (hp : p.IsTrimmed) (hq : q.IsTrimmed) (hsteps : p.steps = q.steps) {ext : Text} (hne : ext ≠ [])
    (hslash : '/' ∉ ext) :
    (dir.join (p.withExtension ext)).components = (dir.join (q.withExtension ext)).components := by
  rw [components_of_isAbsolute (isAbsolute_join hdir _),
    components_of_isAbsolute (isAbsolute_join hdir _)]
  refine steps_join_congr ?_ dir
  rw [steps_withExtension hp hne hslash, steps_withExtension hq hne hslash, hsteps]

end FilePath

namespace Config

open FilePath

variable {c d : Config} {p : FilePath}

/-- Two configurations put the same schema in the same place, and rename the same source to the same
name.  The schema's path is the same text; the two names are compared as paths, by their components. -/
structure SameOutputs (c d : Config) : Prop where
  schema : c.resolve c.schemaPath = d.resolve d.schemaPath
  source : c.renamePair.1.components = d.renamePair.1.components
  target : c.renamePair.2.components = d.renamePair.2.components

/-- **It does not matter which way the schema is spelled**, as seen from the work directory or behind
it, as long as its text ends in its last component. -/
theorem spellings_agree (hdir : c.workDir.isAbsolute = true) (hp : p.isAbsolute = false)
    (hslash : ¬ ['/'] <:+ p.text) (hdot : ¬ ['/', '.'] <:+ p.text) :
    SameOutputs { c with schemaPath := p } { c with schemaPath := c.workDir.join p } := by
  have habs : (c.workDir.join p).isAbsolute = true := isAbsolute_join hdir p
  have hroot : (c.resolve c.cppOut).isAbsolute = true := isAbsolute_join hdir c.cppOut
  have htrim : p.IsTrimmed := isTrimmed_iff.2 ⟨hslash, hdot⟩
  obtain ⟨rest, hrest, hrestTrim, hsteps⟩ := exists_stripPrefix?_join hdir hp
  have hmirror : ({ c with schemaPath := p } : Config).mirroredSchema = p := by
    rw [mirroredSchema, hp]
    rfl
  have hmirror' : ({ c with schemaPath := c.workDir.join p } : Config).mirroredSchema = rest := by
    rw [mirroredSchema, if_pos habs, hrest]
  constructor
  case schema =>
    have hjoin : c.workDir.join (c.workDir.join p) = c.workDir.join p := if_pos habs
    exact hjoin.symm
  case source =>
    rw [renamePair, renamePair, hmirror, hmirror']
    exact components_join_withExtension hroot htrim hrestTrim hsteps.symm (by decide) (by decide)
  case target =>
    rw [renamePair, renamePair, hmirror, hmirror']
    exact components_join_withExtension hroot htrim hrestTrim hsteps.symm (by decide) (by decide)

/-- Behind a work directory with parts that say nothing, a schema that begins with a `.` is mirrored
under two texts, and its source has two spellings of one path. -/
theorem spellings_agree_dotted :
    let c : Config := { default with workDir := ⟨"//w/./x/..//"⟩, cppOut := ⟨"src/."⟩ }
    let p : FilePath := ⟨"./proto//.X.y.proto"⟩
    c.workDir.isAbsolute = true ∧ p.isAbsolute = false ∧ ¬ ['/'] <:+ p.text ∧ ¬ ['/', '.'] <:+ p.text
      ∧ ({ c with schemaPath := p } : Config).renamePair.1
        ≠ ({ c with schemaPath := c.workDir.join p } : Config).renamePair.1
      ∧ SameOutputs { c with schemaPath := p } { c with schemaPath := c.workDir.join p } :=
  ⟨by decide, by decide, by decide, by decide, by decide,
    spellings_agree (by decide) (by decide) (by decide) (by decide)⟩

end Config

end WireSchema
