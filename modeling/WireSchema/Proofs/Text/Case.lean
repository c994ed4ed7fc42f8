import Mathlib
import WireSchema.Proofs.Entry.Grammar

/-!
# Proofs/Text/Case — a text, whatever the case of its letters and the blanks around it

The **plain form** of a text is what stands between its outer blanks, in small ASCII letters.  A text
is **respelled** when its ASCII letters change their case and blanks are put around it.  No letter is
a blank, in either case, so it does not matter which of the two is undone first.

* `lower_trim` — making letters small and trimming do not get in each other's way.
* `isPlainForm_iff` — every text has one plain form.
* `Respells.lower_trim_eq` — a text keeps its plain form when it is respelled.
-/

namespace WireSchema.Text

/-! ## Small letters -/

theorem isBlank_of_isAlpha {c : Char} (h : c.isAlpha = true) : isBlank c = false := by
  have hpart : Entry.isNamePart c = true := by simp [Entry.isNamePart, Char.isAlphanum, h]
  exact Entry.isBlank_of_isNamePart hpart

/-- No letter is a blank, in either case. -/
theorem isBlank_toLower (c : Char) : isBlank c.toLower = isBlank c := by
  by_cases h : c.isUpper = true
  · have halpha : c.isAlpha = true := by simp [Char.isAlpha, h]
    have hlower : c.toLower.isAlpha = true := by rw [Char.isAlpha_toLower_eq_isAlpha, halpha]
    rw [isBlank_of_isAlpha halpha, isBlank_of_isAlpha hlower]
  · rw [Char.toLower_eq_of_not_isUpper h]

theorem lower_trimStart (t : Text) : lower (trimStart t) = trimStart (lower t) := by
  have hblank : isBlank ∘ Char.toLower = isBlank := funext isBlank_toLower
  rw [lower, lower, trimStart, trimStart, List.dropWhile_map, hblank]

theorem lower_trimEnd (t : Text) : lower (trimEnd t) = trimEnd (lower t) :=
  calc lower (trimEnd t) = (lower (trimStart t.reverse)).reverse := List.map_reverse
    _ = (trimStart (lower t.reverse)).reverse := by rw [lower_trimStart]
    _ = (trimStart (lower t).reverse).reverse := by rw [lower, lower, List.map_reverse]

/-- **Making letters small and trimming do not get in each other's way.** -/
theorem lower_trim (t : Text) : lower (trim t) = trim (lower t) := by
  rw [trim, trim, lower_trimEnd, lower_trimStart]

/-! ## Plain forms -/

/-- `s` is what stands between the outer blanks of `t`, in small ASCII letters. -/
def IsPlainForm (t s : Text) : Prop :=
  ∃ before core behind, t = before ++ core ++ behind ∧ AllBlank before ∧ AllBlank behind
    ∧ Trimmed core ∧ s = lower core

/-- **Every text has one plain form.** -/
theorem isPlainForm_iff {t s : Text} : IsPlainForm t s ↔ s = lower (trim t) := by
  constructor
  · rintro ⟨before, core, behind, ht, hbefore, hbehind, hcore, rfl⟩
    rw [trim_eq_iff.2 ⟨hcore, before, behind, ht, hbefore, hbehind⟩]
  · rintro rfl
    obtain ⟨hcore, before, behind, ht, hbefore, hbehind⟩ := trim_eq_iff.1 (Eq.refl (trim t))
    exact ⟨before, trim t, behind, ht, hbefore, hbehind, hcore, rfl⟩

/-! ## Respelling -/

/-- A character, or the same ASCII letter in the other case. -/
def SameLetter (c d : Char) : Prop := d = c ∨ d = c.toUpper ∨ d = c.toLower

instance : DecidableRel SameLetter := fun c d =>
  inferInstanceAs (Decidable (d = c ∨ d = c.toUpper ∨ d = c.toLower))

/-- `s` is `t` with the case of some ASCII letters changed, and blanks put around it. -/
def Respells (t s : Text) : Prop :=
  ∃ before core behind, s = before ++ core ++ behind ∧ AllBlank before ∧ AllBlank behind
    ∧ List.Forall₂ SameLetter t core

theorem SameLetter.toLower_eq {c d : Char} (h : SameLetter c d) : d.toLower = c.toLower := by
  obtain rfl | rfl | rfl := h
  · rfl
  · exact Char.toLower_toUpper_eq_toLower c
  · exact Char.toLower_toLower_eq_toLower c

theorem lower_eq_of_sameLetters {t s : Text} (h : List.Forall₂ SameLetter t s) :
    lower s = lower t := by
  induction h with
  | nil => rfl
  | cons hletter _ ih => exact congrArg₂ List.cons hletter.toLower_eq ih

/-- **A text keeps its plain form when it is respelled.** -/
theorem Respells.lower_trim_eq {t s : Text} (h : Respells t s) : lower (trim s) = lower (trim t) := by
  obtain ⟨before, core, behind, rfl, hbefore, hbehind, hletters⟩ := h
  rw [trim_append_blank hbefore hbehind, lower_trim, lower_trim, lower_eq_of_sameLetters hletters]

end WireSchema.Text
