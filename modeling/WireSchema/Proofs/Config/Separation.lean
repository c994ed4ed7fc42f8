import WireSchema.Proofs.Config.Settings
import WireSchema.Proofs.Text.Case

/-!
# Proofs/Config/Separation — each variable decides its own setting

A variable is for one setting (`Config.setting`), which its text or its absence decides
(`Variable.meaning`).  Only the flag decides anything besides: settings are refused when it is set to
a text that is none of its words.  Of that text the plain form matters, and no other variable is asked.

* `setting_of_ofLookup` — each setting is what its own variable means.
* `ofLookup_eq_error_iff_isPlainForm` — the refused flags, and the text that their error keeps.
* `ofLookup_eq_of_respells` — lookups that differ in the spelling of the flag have the same outcome.
* `settings_separate` — so a variable that changes is seen in its own setting and nowhere else.
-/

namespace WireSchema

/-! ## The setting of a variable -/

theorem Variable.key_injective {v w : Variable} (h : v.key = w.key) : v = w := by
  revert h
  cases v <;> cases w <;> decide

/-- What kind of setting a variable is for. -/
def Variable.Setting : Variable → Type
  | .workDir | .schemaOutput | .cppOut | .javaOut => FilePath
  | .apiInput | .extApiInput => Option FilePath
  | .compiler => Text
  | .skipCompile => Bool

/-- The setting that a variable means by its text, or by its absence. -/
def Variable.meaning : (v : Variable) → Option Text → v.Setting
  | .workDir, t => FilePath.mk (t.getD ".")
  | .apiInput, t => some (FilePath.mk (t.getD "gl2_api.in"))
  | .extApiInput, t => t.map FilePath.mk
  | .schemaOutput, t => FilePath.mk (t.getD "DebuggerMessage.proto")
  | .compiler, t => t.getD "aprotoc"
  | .cppOut, t => FilePath.mk (t.getD "src")
  | .javaOut, t => FilePath.mk (t.getD "client/src")
  | .skipCompile, t => !t.any (SaysTrue ·)

namespace Config

variable {c d : Config} {f g lookup : Text → Option Text} {v : Variable}

/-- The setting that a variable is for.  Of the lists, this is the path of the first one, and the path
of a second one if there is one. -/
def setting (c : Config) : (v : Variable) → v.Setting
  | .workDir => c.workDir
  | .apiInput => c.passes[0]?.map InputPass.path
  | .extApiInput => c.passes[1]?.map InputPass.path
  | .schemaOutput => c.schemaPath
  | .compiler => c.compiler
  | .cppOut => c.cppOut
  | .javaOut => c.javaOut
  | .skipCompile => c.compile

theorem NamedBy.setting_eq (h : c.NamedBy lookup) :
    ∀ v : Variable, c.setting v = v.meaning (lookup v.key)
  | .workDir => h.workDir
  | .apiInput => by rw [setting, h.passes]; rfl
  | .extApiInput => by
      rw [setting, h.passes]
      cases lookup Variable.extApiInput.key <;> rfl
  | .schemaOutput => h.schemaPath
  | .compiler => h.compiler
  | .cppOut => h.cppOut
  | .javaOut => h.javaOut
  | .skipCompile => by
      have hskip : (!c.compile) = (lookup Variable.skipCompile.key).any (SaysTrue ·) :=
        Bool.eq_iff_iff.2 <| by
          simp only [Bool.not_eq_true', h.compile_eq_false_iff, Option.any_eq_true,
            decide_eq_true_eq]
      exact Bool.not_eq_eq_eq_not.1 hskip

/-- **Each setting is what its own variable means.** -/
theorem setting_of_ofLookup (h : ofLookup lookup = .ok c) (v : Variable) :
    c.setting v = v.meaning (lookup v.key) := (namedBy_of_ofLookup h).setting_eq v

/-- **Nothing but its settings makes a configuration**, when its lists are the ones that a lookup can
name. -/
theorem HasLists.eq_of_setting_eq (hc : c.HasLists) (hd : d.HasLists)
    (h : ∀ v : Variable, c.setting v = d.setting v) : c = d := by
  have hbase : c.passes[0]?.map InputPass.path = d.passes[0]?.map InputPass.path := h .apiInput
  have hext : c.passes[1]?.map InputPass.path = d.passes[1]?.map InputPass.path := h .extApiInput
  have hpasses : c.passes = d.passes := by
    obtain ⟨base, hc | ⟨extension, hc⟩⟩ := hc <;>
      obtain ⟨base', hd | ⟨extension', hd⟩⟩ := hd <;>
        rw [hc, hd] at hbase hext ⊢
    · obtain rfl : base = base' := Option.some.inj hbase
      rfl
    · exact nomatch hext
    · exact nomatch hext
    · obtain rfl : base = base' := Option.some.inj hbase
      obtain rfl : extension = extension' := Option.some.inj hext
      rfl
  have hworkDir : c.workDir = d.workDir := h .workDir
  have hschema : c.schemaPath = d.schemaPath := h .schemaOutput
  have hcompiler : c.compiler = d.compiler := h .compiler
  have hcpp : c.cppOut = d.cppOut := h .cppOut
  have hjava : c.javaOut = d.javaOut := h .javaOut
  have hcompile : c.compile = d.compile := h .skipCompile
  cases c
  cases d
  rw [Config.mk.injEq]
  exact ⟨hworkDir, hpasses, hschema, hcompiler, hcpp, hjava, hcompile⟩

/-! ## Flags -/

/-- The words of a flag: what sets it, and what leaves it unset. -/
def flagWords : List Text :=
  ["1".toList, "true".toList, "yes".toList, "on".toList]
    ++ [[], "0".toList, "false".toList, "no".toList, "off".toList]

theorem says_iff {raw : Text} :
    SaysTrue raw ∨ SaysFalse raw ↔ ∃ word ∈ flagWords, Text.IsPlainForm raw word := by
  simp only [Text.isPlainForm_iff, exists_eq_right]
  exact List.mem_append.symm

/-- **The refused flags**: those whose plain form is no word.  It is kept in the error. -/
theorem ofLookup_eq_error_iff_isPlainForm {e : ConfigError} : ofLookup lookup = .error e ↔
    ∃ raw, lookup Variable.skipCompile.key = some raw ∧ Text.IsPlainForm raw e.value
      ∧ e.value ∉ flagWords := by
  simp only [ofLookup_eq_error_iff, parseFlag_eq_error_iff, says_iff, Text.isPlainForm_iff,
    exists_eq_right]
  refine exists_congr fun raw => and_congr_right fun _ => ?_
  constructor
  · rintro ⟨hword, hvalue⟩
    exact ⟨hvalue, hvalue ▸ hword⟩
  · rintro ⟨hvalue, hword⟩
    exact ⟨hvalue ▸ hword, hvalue⟩

/-- Every other flag is accepted. -/
theorem isOk_ofLookup_iff : (∃ c, ofLookup lookup = .ok c) ↔
    ∀ raw, lookup Variable.skipCompile.key = some raw →
      ∃ word ∈ flagWords, Text.IsPlainForm raw word := by
  simp only [← says_iff]
  constructor
  · rintro ⟨c, hc⟩ raw hraw
    by_contra hflag
    have he : ofLookup lookup = .error ⟨Text.lower (Text.trim raw)⟩ :=
      ofLookup_eq_error_iff.2 ⟨raw, hraw, parseFlag_eq_error_iff.2 ⟨hflag, rfl⟩⟩
    exact nomatch hc.symm.trans he
  · intro h
    cases hc : ofLookup lookup with
    | ok c => exact ⟨c, rfl⟩
    | error e =>
      obtain ⟨raw, hraw, he⟩ := ofLookup_eq_error_iff.1 hc
      exact absurd (h raw hraw) (parseFlag_eq_error_iff.1 he).1

theorem parseFlag_of_respells {t s : Text} (h : Text.Respells t s) : parseFlag s = parseFlag t := by
  rw [parseFlag, parseFlag, h.lower_trim_eq]

/-! ## One variable at a time -/

/-- The lookups say the same of every variable but one; of any other name they may say anything. -/
def SameBut (v : Variable) (f g : Text → Option Text) : Prop :=
  ∀ w : Variable, w.key ≠ v.key → f w.key = g w.key

theorem SameBut.of_ne (h : SameBut v f g) {w : Variable} (hw : w ≠ v) : f w.key = g w.key :=
  h w (mt Variable.key_injective hw)

theorem sameBut_update (f : Text → Option Text) (v : Variable) (t : Option Text) :
    SameBut v f (Function.update f v.key t) := fun _ hw => (Function.update_of_ne hw t f).symm

/-- **Lookups that differ in the spelling of the flag have the same outcome.** -/
theorem ofLookup_eq_of_respells {t s : Text} (h : SameBut .skipCompile f g)
    (hf : f Variable.skipCompile.key = some t) (hg : g Variable.skipCompile.key = some s)
    (hspelling : Text.Respells t s) : ofLookup f = ofLookup g := by
  simp only [ofLookup, hf, hg, parseFlag_of_respells hspelling, h.of_ne (w := .workDir) nofun,
    h.of_ne (w := .apiInput) nofun, h.of_ne (w := .extApiInput) nofun,
    h.of_ne (w := .schemaOutput) nofun, h.of_ne (w := .compiler) nofun,
    h.of_ne (w := .cppOut) nofun, h.of_ne (w := .javaOut) nofun]

/-- What a lookup decides. -/
structure Settled (lookup : Text → Option Text) : Prop where
  /-- It is refused for the flag alone, when this is set and its plain form is no word. -/
  refused : ∀ e, ofLookup lookup = .error e ↔
    ∃ raw, lookup Variable.skipCompile.key = some raw ∧ Text.IsPlainForm raw e.value
      ∧ e.value ∉ flagWords
  accepted : (∃ c, ofLookup lookup = .ok c) ↔
    ∀ raw, lookup Variable.skipCompile.key = some raw →
      ∃ word ∈ flagWords, Text.IsPlainForm raw word
  /-- The plain form is quoted as it is. -/
  quoted : ∀ e, ofLookup lookup = .error e → e.message = "invalid PROTOGEN_SKIP_COMPILE".toList
    ∧ e.cause = "expected a boolean, got `".toList ++ e.value ++ "`".toList
  meant : ∀ c, ofLookup lookup = .ok c → ∀ v, c.setting v = v.meaning (lookup v.key)
  lists : ∀ c, ofLookup lookup = .ok c → c.HasLists

/-- What lookups have in common that say the same of every variable but one. -/
structure Separated (v : Variable) (f g : Text → Option Text) : Prop where
  /-- Where both are accepted, all settings are the same but the variable's own. -/
  settings : ∀ c d, ofLookup f = .ok c → ofLookup g = .ok d →
    ∀ w, w ≠ v → c.setting w = d.setting w
  /-- Where its own setting is the same as well, nothing is different. -/
  sole : ∀ c d, ofLookup f = .ok c → ofLookup g = .ok d → c.setting v = d.setting v → c = d
  /-- Unless it is the flag, both are accepted, or both are refused with one error. -/
  alike : v ≠ .skipCompile → ∀ e, ofLookup f = .error e ↔ ofLookup g = .error e
  /-- If it is the flag, its spelling makes no difference at all. -/
  respelled : v = .skipCompile → ∀ t s, f v.key = some t → g v.key = some s →
    Text.Respells t s → ofLookup f = ofLookup g

/-- **A variable that changes is seen in its own setting and nowhere else**, and no variable but the
flag is ever refused. -/
theorem settings_separate (f : Text → Option Text) :
    Settled f ∧ ∀ v g, SameBut v f g → Separated v f g := by
  refine ⟨?_, fun v g h => ?_⟩
  · constructor
    case refused => exact fun e => ofLookup_eq_error_iff_isPlainForm
    case accepted => exact isOk_ofLookup_iff
    case quoted => exact fun e _ => ⟨rfl, rfl⟩
    case meant => exact fun c hc => setting_of_ofLookup hc
    case lists => exact fun c hc => hasLists_of_ofLookup hc
  · have hsettings : ∀ c d, ofLookup f = .ok c → ofLookup g = .ok d →
        ∀ w, w ≠ v → c.setting w = d.setting w := by
      intro c d hc hd w hw
      rw [setting_of_ofLookup hc, setting_of_ofLookup hd, h.of_ne hw]
    constructor
    case settings => exact hsettings
    case sole =>
      intro c d hc hd hown
      refine (hasLists_of_ofLookup hc).eq_of_setting_eq (hasLists_of_ofLookup hd) fun w => ?_
      obtain rfl | hw := eq_or_ne w v
      · exact hown
      · exact hsettings c d hc hd w hw
    case alike =>
      intro hv e
      rw [ofLookup_eq_error_iff, ofLookup_eq_error_iff, h.of_ne (Ne.symm hv)]
    case respelled =>
      rintro rfl t s ht hs hspelling
      exact ofLookup_eq_of_respells h ht hs hspelling

/-- A second list goes with its own variable, and the flag is the same in other letters between wide
blanks. -/
theorem settings_separate_capitals :
    let f : Text → Option Text := fun name =>
      [(Variable.extApiInput.key, "e.in".toList), (Variable.skipCompile.key, "Yes".toList)].lookup name
    let g := Function.update f Variable.extApiInput.key none
    let h := Function.update f Variable.skipCompile.key (some "\u3000yES\t".toList)
    SameBut .extApiInput f g ∧ SameBut .skipCompile f h ∧ Text.Respells "Yes" "\u3000yES\t"
      ∧ ofLookup g = .ok { default with compile := false }
      ∧ ofLookup h = .ok
        { default with
          passes := default.passes ++ [⟨⟨"e.in"⟩, extensionEndMarker⟩]
          compile := false }
      ∧ Settled f ∧ Separated .extApiInput f g ∧ Separated .skipCompile f h := by
  intro f g h
  have hg : SameBut .extApiInput f g := sameBut_update f _ _
  have hh : SameBut .skipCompile f h := sameBut_update f _ _
  have hspelling : Text.Respells "Yes" "\u3000yES\t" :=
    ⟨"\u3000", "yES", "\t", rfl, by decide, by decide, by decide⟩
  exact ⟨hg, hh, hspelling, by decide +kernel, by decide +kernel, (settings_separate f).1,
    (settings_separate f).2 _ g hg, (settings_separate f).2 _ h hh⟩

end Config

end WireSchema
