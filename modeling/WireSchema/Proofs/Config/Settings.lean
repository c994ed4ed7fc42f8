import Mathlib.Tactic.Common
import WireSchema.Config

/-!
# Proofs/Config/Settings — the settings that variables name

Each setting is the text of its own variable, or its default where that is absent, and a second list
is there when its variable is.  The flag is the only variable that can be refused: its texts are read
leniently, and no text says both that bindings are skipped and that they are not.

* `ofLookup_eq_ok_iff` — settings are accepted exactly when they are the ones that variables name.
* `ofLookup_eq_error_iff` — settings are refused for their flag alone.
-/

namespace WireSchema

/-! ## Flags -/

/-- The text of a flag that is set. -/
def SaysTrue (raw : Text) : Prop :=
  Text.lower (Text.trim raw) ∈ ["1".toList, "true".toList, "yes".toList, "on".toList]

/-- The text of a flag that is not set: the empty text is one of them. -/
def SaysFalse (raw : Text) : Prop :=
  Text.lower (Text.trim raw) ∈ [[], "0".toList, "false".toList, "no".toList, "off".toList]

instance : DecidablePred SaysTrue := fun _ => inferInstanceAs (Decidable (_ ∈ _))

instance : DecidablePred SaysFalse := fun _ => inferInstanceAs (Decidable (_ ∈ _))

/-- **No text says both.** -/
theorem SaysTrue.not_saysFalse {raw : Text} (h : SaysTrue raw) : ¬ SaysFalse raw := by
  have hapart : ∀ value ∈ ["1".toList, "true".toList, "yes".toList, "on".toList],
      value ∉ [[], "0".toList, "false".toList, "no".toList, "off".toList] := by decide
  exact hapart _ h

theorem parseFlag_eq (raw : Text) : parseFlag raw =
    if SaysTrue raw then .ok true
    else if SaysFalse raw then .ok false
    else .error ⟨Text.lower (Text.trim raw)⟩ := rfl

theorem parseFlag_eq_true_iff {raw : Text} : parseFlag raw = .ok true ↔ SaysTrue raw := by
  rw [parseFlag_eq]
  split_ifs with htrue hfalse
  · simp [htrue]
  · simp [htrue]
  · simp [htrue]

theorem parseFlag_eq_false_iff {raw : Text} : parseFlag raw = .ok false ↔ SaysFalse raw := by
  rw [parseFlag_eq]
  split_ifs with htrue hfalse
  · simp [htrue.not_saysFalse]
  · simp [hfalse]
  · simp [hfalse]

theorem parseFlag_eq_error_iff {raw : Text} {e : ConfigError} : parseFlag raw = .error e ↔
    ¬ (SaysTrue raw ∨ SaysFalse raw) ∧ e.value = Text.lower (Text.trim raw) := by
  obtain ⟨value⟩ := e
  rw [parseFlag_eq]
  split_ifs with htrue hfalse
  · simp [htrue]
  · simp [hfalse]
  · simp [htrue, hfalse, eq_comm]

/-! ## Settings -/

namespace Config

variable {c d : Config} {lookup : Text → Option Text}

/-- The settings that the variables of a lookup name. -/
structure NamedBy (lookup : Text → Option Text) (c : Config) : Prop where
  workDir : c.workDir = ⟨(lookup Variable.workDir.key).getD "."⟩
  /-- One list, closed by the base marker, and another one, closed by its own, if it is named. -/
  passes : c.passes = ⟨⟨(lookup Variable.apiInput.key).getD "gl2_api.in"⟩, baseEndMarker⟩ ::
    match lookup Variable.extApiInput.key with
    | none => []
    | some t => [⟨⟨t⟩, extensionEndMarker⟩]
  schemaPath : c.schemaPath = ⟨(lookup Variable.schemaOutput.key).getD "DebuggerMessage.proto"⟩
  compiler : c.compiler = (lookup Variable.compiler.key).getD "aprotoc"
  cppOut : c.cppOut = ⟨(lookup Variable.cppOut.key).getD "src"⟩
  javaOut : c.javaOut = ⟨(lookup Variable.javaOut.key).getD "client/src"⟩
  /-- Bindings are skipped only when the flag says so. -/
  skipped : c.compile = false → ∃ raw, lookup Variable.skipCompile.key = some raw ∧ SaysTrue raw
  /-- Bindings are made when the flag says so, and when it is absent. -/
  compiled : c.compile = true → ∀ raw, lookup Variable.skipCompile.key = some raw → SaysFalse raw

theorem NamedBy.compile_eq_false_iff (h : c.NamedBy lookup) :
    c.compile = false ↔ ∃ raw, lookup Variable.skipCompile.key = some raw ∧ SaysTrue raw := by
  refine ⟨h.skipped, ?_⟩
  rintro ⟨raw, hraw, htrue⟩
  exact Bool.eq_false_iff.2 fun hcompile => htrue.not_saysFalse (h.compiled hcompile raw hraw)

/-- Variables name no two different settings. -/
theorem NamedBy.unique (hc : c.NamedBy lookup) (hd : d.NamedBy lookup) : c = d := by
  have hcompile : c.compile = d.compile :=
    Bool.eq_iff_iff.2 <| not_iff_not.1 <| by
      simp only [Bool.not_eq_true, hc.compile_eq_false_iff, hd.compile_eq_false_iff]
  obtain ⟨workDir, passes, schemaPath, compiler, cppOut, javaOut, -, -⟩ := hc
  obtain ⟨workDir', passes', schemaPath', compiler', cppOut', javaOut', -, -⟩ := hd
  cases c
  cases d
  simp_all

/-- The text of a variable as a path. -/
theorem getD_map_mk (t : Option Text) (fallback : Text) :
    (t.map FilePath.mk).getD ⟨fallback⟩ = ⟨t.getD fallback⟩ := by
  cases t <;> rfl

/-- Settings that are accepted are the ones that the variables name. -/
theorem namedBy_of_ofLookup (h : ofLookup lookup = .ok c) : c.NamedBy lookup := by
  dsimp only [ofLookup] at h
  split at h
  · contradiction
  rename_i skip hskip
  obtain rfl := Except.ok.inj h
  have hflag : ∀ raw, lookup Variable.skipCompile.key = some raw → parseFlag raw = .ok skip := by
    intro raw hraw
    rwa [hraw] at hskip
  constructor
  case workDir => exact getD_map_mk _ _
  case passes =>
    dsimp only
    rw [getD_map_mk]
    cases lookup Variable.extApiInput.key <;> rfl
  case schemaPath => exact getD_map_mk _ _
  case compiler => rfl
  case cppOut => exact getD_map_mk _ _
  case javaOut => exact getD_map_mk _ _
  case skipped =>
    intro hcompile
    obtain rfl : skip = true := by simpa using hcompile
    cases hraw : lookup Variable.skipCompile.key with
    | none =>
      rw [hraw] at hskip
      contradiction
    | some raw => exact ⟨raw, rfl, parseFlag_eq_true_iff.1 (hflag raw hraw)⟩
  case compiled =>
    intro hcompile raw hraw
    obtain rfl : skip = false := by simpa using hcompile
    exact parseFlag_eq_false_iff.1 (hflag raw hraw)

/-- The lists that a lookup can name: the base list, and perhaps the extension list behind it. -/
def HasLists (c : Config) : Prop :=
  ∃ base, c.passes = [⟨base, baseEndMarker⟩]
    ∨ ∃ extension, c.passes = [⟨base, baseEndMarker⟩, ⟨extension, extensionEndMarker⟩]

theorem hasLists_of_ofLookup (h : ofLookup lookup = .ok c) : c.HasLists := by
  refine ⟨⟨(lookup Variable.apiInput.key).getD "gl2_api.in"⟩, ?_⟩
  rw [(namedBy_of_ofLookup h).passes]
  cases lookup Variable.extApiInput.key with
  | none => exact .inl rfl
  | some t => exact .inr ⟨⟨t⟩, rfl⟩

/-- **Settings are refused for their flag alone.** -/
theorem ofLookup_eq_error_iff {e : ConfigError} : ofLookup lookup = .error e ↔
    ∃ raw, lookup Variable.skipCompile.key = some raw ∧ parseFlag raw = .error e := by
  dsimp only [ofLookup]
  cases lookup Variable.skipCompile.key with
  | none => simp
  | some raw => cases hraw : parseFlag raw <;> simp [hraw]

/-- **Settings are accepted exactly when they are the ones that the variables name.** -/
theorem ofLookup_eq_ok_iff : ofLookup lookup = .ok c ↔ c.NamedBy lookup := by
  refine ⟨namedBy_of_ofLookup, fun h => ?_⟩
  cases hd : ofLookup lookup with
  | ok d => rw [h.unique (namedBy_of_ofLookup hd)]
  | error e =>
    -- Only the flag is refused, and it is not where settings are named.
    obtain ⟨raw, hraw, he⟩ := ofLookup_eq_error_iff.1 hd
    cases hcompile : c.compile with
    | false =>
      obtain ⟨raw', hraw', htrue⟩ := h.skipped hcompile
      obtain rfl := Option.some.inj (hraw.symm.trans hraw')
      exact nomatch he.symm.trans (parseFlag_eq_true_iff.2 htrue)
    | true =>
      have hfalse := h.compiled hcompile raw hraw
      exact nomatch he.symm.trans (parseFlag_eq_false_iff.2 hfalse)

end Config

end WireSchema
