import Mathlib.Tactic.Common
import WireSchema.Text.Basic

/-!
# Proofs/Text/Basic — splitting, joining and numerals

* `split_append` — a text splits at each occurrence by itself.
* `split_unlines` — splitting undoes the joining of lines that hold no line feed themselves.
* `readDecimal?_decimal` — a numeral reads back as its number.
-/

namespace WireSchema.Text

/-! ## Splitting -/

theorem split_cons_self (c : Char) (t : Text) : split c (c :: t) = [] :: split c t := by
  rw [split, if_pos rfl]

/-- A character that does not split belongs to the first part. -/
theorem split_cons_of_ne {c d : Char} {t p : Text} {ps : List Text} (h : d ≠ c)
    (ht : split c t = p :: ps) : split c (d :: t) = (d :: p) :: ps := by
  rw [split, if_neg h, ht]

/-- **A text splits at each occurrence by itself.** -/
theorem split_append (c : Char) : ∀ a t : Text, split c (a ++ c :: t) = split c a ++ split c t
  | [], t => split_cons_self c t
  | d :: a, t => by
      rw [List.cons_append]
      by_cases h : d = c
      · subst h
        rw [split_cons_self, split_cons_self, split_append d a t, List.cons_append]
      · obtain ⟨p, ps, ha⟩ := List.exists_cons_of_ne_nil (split_ne_nil (c := c) (t := a))
        have happend : split c (a ++ c :: t) = p :: (ps ++ split c t) := by
          rw [split_append c a t, ha, List.cons_append]
        rw [split_cons_of_ne h happend, split_cons_of_ne h ha, List.cons_append]

/-- A text without the character is its only part. -/
theorem split_of_not_mem {c : Char} : ∀ {a : Text}, c ∉ a → split c a = [a]
  | [], _ => rfl
  | d :: a, h => by
      obtain ⟨hd, ha⟩ := not_or.1 (fun hm => h (List.mem_cons.2 hm))
      exact split_cons_of_ne (Ne.symm hd) (split_of_not_mem ha)

/-- **The first part ends at the first occurrence.** -/
theorem split_append_cons {c : Char} {a : Text} (h : c ∉ a) (t : Text) :
    split c (a ++ c :: t) = a :: split c t := by
  rw [split_append, split_of_not_mem h, List.singleton_append]

/-- **Splitting undoes joining**; behind the last line feed stands an empty part. -/
theorem split_unlines : ∀ {ls : List Text}, (∀ l ∈ ls, '\n' ∉ l) →
    split '\n' (unlines ls) = ls ++ [[]]
  | [], _ => rfl
  | l :: ls, h => by
      have hl : '\n' ∉ l := h l List.mem_cons_self
      have hls : ∀ m ∈ ls, '\n' ∉ m := fun m hm => h m (List.mem_cons_of_mem _ hm)
      rw [unlines, List.flatMap_cons, List.append_assoc, List.singleton_append,
        split_append_cons hl, ← unlines, split_unlines hls, List.cons_append]

/-! ## Leads -/

section Lead

variable {α : Type} [BEq α] [LawfulBEq α]

theorem isPrefixOf?_append_append : ∀ (lead s t : List α),
    (lead ++ s).isPrefixOf? (lead ++ t) = s.isPrefixOf? t
  | [], _, _ => rfl
  | a :: lead, s, t => (if_pos (beq_self_eq_true a)).trans (isPrefixOf?_append_append lead s t)

/-- What follows a lead. -/
theorem isPrefixOf?_append (lead t : List α) : lead.isPrefixOf? (lead ++ t) = some t := by
  have h := isPrefixOf?_append_append lead [] t
  rwa [List.append_nil] at h

theorem isPrefixOf?_cons_of_ne {a b : α} (h : a ≠ b) (s t : List α) :
    (a :: s).isPrefixOf? (b :: t) = none := if_neg (mt eq_of_beq h)

/-- What stands before an end. -/
theorem isSuffixOf?_append (t trail : List α) : trail.isSuffixOf? (t ++ trail) = some t := by
  change (trail.reverse.isPrefixOf? (t ++ trail).reverse).map List.reverse = some t
  rw [List.reverse_append, isPrefixOf?_append, Option.map_some, List.reverse_reverse]

end Lead

/-! ## Numerals -/

/-- Reads a number in decimal digits. -/
def readDecimal? (t : Text) : Option Nat :=
  if t ≠ [] ∧ t.all Char.isDigit = true then some (Nat.ofDigitChars 10 t 0) else none

theorem isDigit_of_mem_decimal {c : Char} {n : Nat} (h : c ∈ decimal n) : c.isDigit = true :=
  Nat.isDigit_of_mem_toDigits (by decide) (by decide) h

/-- **A numeral reads back as its number.** -/
@[simp] theorem readDecimal?_decimal (n : Nat) : readDecimal? (decimal n) = some n := by
  have hall : (decimal n).all Char.isDigit = true :=
    List.all_eq_true.2 fun _ => isDigit_of_mem_decimal
  rw [readDecimal?, if_pos ⟨Nat.toDigits_ne_nil, hall⟩, decimal, Nat.ofDigitChars_ten_toDigits]

end WireSchema.Text
