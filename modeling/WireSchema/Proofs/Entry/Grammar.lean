import Mathlib.Tactic.Common
import WireSchema.Entry.Scan

/-!
# Proofs/Entry/Grammar — what a line declares, by its shape

A **name** is a text of the grammar `[A-Za-z_][A-Za-z0-9_]*`.  A line with a parenthesis has one of
four shapes (`Entry.Reads`), told apart by what stands between its first parenthesis and the first
closing one behind it: a name in blanks, blanks alone, another text, or no closing parenthesis at
all.

* `isIdentifier_iff` — the identifiers are the names.
* `readName_eq_iff` — a line is read by its shape, so every line has one shape and no line has two.
* `item_of_line` — the item of a line in a scan: none without the marker, and else by its shape.
-/

namespace WireSchema

namespace Entry

/-! ## The grammar of names -/

/-- An ASCII letter, or an underscore. -/
def IsLetter (c : Char) : Prop := ('A' ≤ c ∧ c ≤ 'Z') ∨ ('a' ≤ c ∧ c ≤ 'z') ∨ c = '_'

/-- The grammar `[A-Za-z_][A-Za-z0-9_]*`. -/
def IsName (t : Text) : Prop :=
  ∃ c cs, t = c :: cs ∧ IsLetter c ∧ ∀ d ∈ cs, IsLetter d ∨ ('0' ≤ d ∧ d ≤ '9')

theorem isNameStart_iff {c : Char} : isNameStart c = true ↔ IsLetter c := by
  have hupper : c.isUpper = decide ('A' ≤ c ∧ c ≤ 'Z') := rfl
  have hlower : c.isLower = (decide ('a' ≤ c) && decide (c ≤ 'z')) := rfl
  have hstart : isNameStart c = (c.isUpper || c.isLower || c == '_') := rfl
  rw [hstart, hupper, hlower]
  simp only [Bool.or_eq_true, Bool.and_eq_true, decide_eq_true_eq, beq_iff_eq, IsLetter, or_assoc]

theorem isNamePart_iff {c : Char} : isNamePart c = true ↔ IsLetter c ∨ ('0' ≤ c ∧ c ≤ '9') := by
  rw [← isNameStart_iff]
  simp only [isNamePart, isNameStart, Char.isAlphanum, Char.isDigit, Bool.or_eq_true,
    Bool.and_eq_true, decide_eq_true_eq]
  exact or_right_comm

/-- **The identifiers are the texts of the grammar.** -/
theorem isIdentifier_iff {t : Text} : isIdentifier t = true ↔ IsName t := by
  cases t with
  | nil => simp [isIdentifier, IsName]
  | cons c cs => simp [isIdentifier, IsName, isNameStart_iff, isNamePart_iff]

theorem isNamePart_of_isNameStart {c : Char} (h : isNameStart c = true) : isNamePart c = true := by
  rcases Bool.or_eq_true_iff.1 h with h | h
  · simp [isNamePart, Char.isAlphanum, h]
  · simp [isNamePart, h]

/-- A character that no name holds is not in an identifier. -/
theorem not_mem_of_isIdentifier {t : Text} {c : Char} (h : isIdentifier t = true)
    (hc : isNamePart c = false) : c ∉ t := by
  rcases t with _ | ⟨d, ds⟩
  · exact List.not_mem_nil
  obtain ⟨hd, hds⟩ := Bool.and_eq_true_iff.1 h
  intro hm
  rcases List.mem_cons.1 hm with rfl | hm
  · exact absurd (isNamePart_of_isNameStart hd) (by simp [hc])
  · exact absurd (List.all_eq_true.1 hds c hm) (by simp [hc])

/-- The characters of names lie between `0` and `z`, where no blank does. -/
theorem isBlank_of_isNamePart {c : Char} (h : isNamePart c = true) : Text.isBlank c = false := by
  have hrange : 48 ≤ c.toNat ∧ c.toNat ≤ 122 := by
    rcases isNamePart_iff.1 h with (⟨hl, hu⟩ | ⟨hl, hu⟩ | rfl) | ⟨hl, hu⟩
    case inl.inr.inr => decide
    all_goals
      rw [Char.le_def, UInt32.le_iff_toNat_le] at hl hu
      exact ⟨Nat.le_trans (by decide) hl, Nat.le_trans hu (by decide)⟩
  simp only [Text.isBlank, Text.blankRanges, List.any_cons, List.any_nil, Bool.or_eq_false_iff,
    Bool.and_eq_false_iff, decide_eq_false_iff_not, and_true]
  omega

/-- A name is solid at both ends. -/
theorem IsName.trimmed {s : Text} (h : IsName s) : Text.Trimmed s := by
  have hsolid : ∀ c ∈ s, Text.isBlank c = false := fun c hc => isBlank_of_isNamePart <| by
    by_contra hpart
    exact not_mem_of_isIdentifier (isIdentifier_iff.2 h) (by simpa using hpart) hc
  exact ⟨fun c hc => hsolid c (List.mem_of_head? hc), fun c hc => hsolid c (List.mem_of_getLast? hc)⟩

theorem IsName.ne_nil {s : Text} (h : IsName s) : s ≠ [] := by
  obtain ⟨c, cs, rfl, -⟩ := h
  exact List.cons_ne_nil c cs

theorem IsName.not_mem_close {s : Text} (h : IsName s) : ')' ∉ s :=
  not_mem_of_isIdentifier (isIdentifier_iff.2 h) (by decide)

end Entry

theorem Text.AllBlank.not_mem_close {u : Text} (h : AllBlank u) : ')' ∉ u :=
  fun hm => absurd (h _ hm) (by decide)

namespace Entry

/-! ## The shapes of a line -/

/-- What a line declares by its shape: the text between its first parenthesis and the first closing
one behind it, without the blanks around it, is a name, or nothing, or something else, or there is no
closing parenthesis. -/
inductive Reads : Text → Except LineFault Text → Prop
  | name {p u s v r : Text} (hp : '(' ∉ p) (hu : Text.AllBlank u) (hv : Text.AllBlank v)
      (hs : IsName s) : Reads (p ++ '(' :: (u ++ s ++ v ++ ')' :: r)) (.ok s)
  | blank {p u r : Text} (hp : '(' ∉ p) (hu : Text.AllBlank u) :
      Reads (p ++ '(' :: (u ++ ')' :: r)) (.error .emptyName)
  | unclosed {p r : Text} (hp : '(' ∉ p) (hr : ')' ∉ r) :
      Reads (p ++ '(' :: r) (.error .missingCloseParen)
  | other {p u s v r : Text} (hp : '(' ∉ p) (hu : Text.AllBlank u) (hv : Text.AllBlank v)
      (hclose : ')' ∉ s) (htrimmed : Text.Trimmed s) (hne : s ≠ []) (hs : ¬ IsName s) :
      Reads (p ++ '(' :: (u ++ s ++ v ++ ')' :: r)) (.error (.invalidName s))

/-- A line whose parentheses are open and closed is read by the trim of what stands between. -/
theorem readName_of_closed {p t r : Text} (hp : '(' ∉ p) (ht : ')' ∉ t) :
    readName (p ++ '(' :: (t ++ ')' :: r))
      = if (Text.trim t).isEmpty then .error .emptyName
        else if isIdentifier (Text.trim t) then .ok (Text.trim t)
        else .error (.invalidName (Text.trim t)) := by
  have hopen : Text.cut '(' (p ++ '(' :: (t ++ ')' :: r)) = some (p, t ++ ')' :: r) :=
    Text.cut_eq_some_iff.2 ⟨rfl, hp⟩
  have hclose : Text.cut ')' (t ++ ')' :: r) = some (t, r) := Text.cut_eq_some_iff.2 ⟨rfl, ht⟩
  simp only [readName, hopen, hclose]

theorem readName_of_unclosed {p r : Text} (hp : '(' ∉ p) (hr : ')' ∉ r) :
    readName (p ++ '(' :: r) = .error .missingCloseParen := by
  have hopen : Text.cut '(' (p ++ '(' :: r) = some (p, r) := Text.cut_eq_some_iff.2 ⟨rfl, hp⟩
  have hclose : Text.cut ')' r = none := Text.cut_eq_none_iff.2 hr
  simp only [readName, hopen, hclose]

/-- A shape decides how the line is read. -/
theorem Reads.readName_eq {l : Text} {o : Except LineFault Text} (h : Reads l o) :
    readName l = o := by
  cases h with
  | @name p u s v r hp hu hv hs =>
    have htrim : Text.trim (u ++ s ++ v) = s := Text.trim_eq_iff.2 ⟨hs.trimmed, u, v, rfl, hu, hv⟩
    have hclose : ')' ∉ u ++ s ++ v := by
      simp only [List.mem_append, not_or]
      exact ⟨⟨hu.not_mem_close, hs.not_mem_close⟩, hv.not_mem_close⟩
    rw [readName_of_closed hp hclose, htrim, if_neg (by simpa using hs.ne_nil),
      if_pos (isIdentifier_iff.2 hs)]
  | @blank p u r hp hu =>
    have htrim : Text.trim u = [] :=
      Text.trim_eq_iff.2 ⟨⟨by simp, by simp⟩, u, [], by simp, hu, by simp [Text.AllBlank]⟩
    rw [readName_of_closed hp hu.not_mem_close, htrim, List.isEmpty_nil, if_pos rfl]
  | unclosed hp hr => exact readName_of_unclosed hp hr
  | @other p u s v r hp hu hv hclose htrimmed hne hs =>
    have htrim : Text.trim (u ++ s ++ v) = s := Text.trim_eq_iff.2 ⟨htrimmed, u, v, rfl, hu, hv⟩
    have hclose : ')' ∉ u ++ s ++ v := by
      simp only [List.mem_append, not_or]
      exact ⟨⟨hu.not_mem_close, hclose⟩, hv.not_mem_close⟩
    rw [readName_of_closed hp hclose, htrim, if_neg (by simpa using hne),
      if_neg (mt isIdentifier_iff.1 hs)]

/-- Every line with a parenthesis has a shape. -/
theorem exists_reads {l : Text} (h : '(' ∈ l) : ∃ o, Reads l o := by
  rcases hopen : Text.cut '(' l with _ | ⟨p, rest⟩
  · exact absurd h (Text.cut_eq_none_iff.1 hopen)
  obtain ⟨rfl, hp⟩ := Text.cut_eq_some_iff.1 hopen
  rcases hclose : Text.cut ')' rest with _ | ⟨t, r⟩
  · exact ⟨_, .unclosed hp (Text.cut_eq_none_iff.1 hclose)⟩
  obtain ⟨rfl, ht⟩ := Text.cut_eq_some_iff.1 hclose
  obtain ⟨s, hs⟩ : ∃ s, Text.trim t = s := ⟨_, rfl⟩
  obtain ⟨htrimmed, u, v, rfl, hu, hv⟩ := Text.trim_eq_iff.1 hs
  by_cases hname : IsName s
  · exact ⟨_, .name hp hu hv hname⟩
  by_cases hne : s = []
  · subst hne
    rw [List.append_nil]
    exact ⟨_, .blank hp (List.forall_mem_append.2 ⟨hu, hv⟩)⟩
  · exact ⟨_, .other hp hu hv (fun hm => ht (by simp [hm])) htrimmed hne hname⟩

/-- **A line is read by its shape.** -/
theorem readName_eq_iff {l : Text} {o : Except LineFault Text} (h : '(' ∈ l) :
    readName l = o ↔ Reads l o := by
  refine ⟨fun ho => ?_, Reads.readName_eq⟩
  obtain ⟨o', ho'⟩ := exists_reads h
  obtain rfl : o' = o := ho'.readName_eq.symm.trans ho
  exact ho'

/-! ## The item of a line -/

/-- What an outcome contributes on a line: a good one takes the index. -/
def item (index : UInt32) (line : Nat) : Except LineFault Text → Item
  | .ok name => .ok ⟨name, index, line⟩
  | .error fault => .error ⟨line, fault⟩

theorem item_injective {index : UInt32} {line : Nat} {o o' : Except LineFault Text}
    (h : item index line o = item index line o') : o = o' := by
  cases o <;> cases o' <;> simp_all [item]

/-- The marker ends with a parenthesis. -/
theorem mem_of_marked {l : Text} (h : marker <:+: l) : '(' ∈ l := h.subset (by decide)

end Entry

namespace Scan

open Entry (marker)

theorem next?_of_unmarked {l : Text} (h : ¬ marker <:+: l) (ls : List Text) (n : Nat)
    (i : UInt32) : next? ⟨l :: ls, n, i⟩ = next? ⟨ls, n + 1, i⟩ := by
  have hline : Entry.readLine l = none := if_neg (mt Text.occursIn_iff.1 h)
  simp only [next?, nextFrom, hline]

theorem next?_of_marked {l : Text} (h : marker <:+: l) (ls : List Text) (n : Nat) (i : UInt32) :
    ∃ s, next? ⟨l :: ls, n, i⟩ = some (Entry.item i (n + 1) (Entry.readName l), s) := by
  have hline : Entry.readLine l = some (Entry.readName l) := if_pos (Text.occursIn_iff.2 h)
  rcases hname : Entry.readName l with fault | name
  · exact ⟨⟨ls, n + 1, i⟩, by simp only [next?, nextFrom, hline, hname, Entry.item]⟩
  · exact ⟨⟨ls, n + 1, i + 1⟩, by simp only [next?, nextFrom, hline, hname, Entry.item]⟩

end Scan

namespace Entry

/-- What comes of the line `l` where a scan has read `n` lines before it and `ls` are behind it. -/
structure ReadByShape (l : Text) (ls : List Text) (n : Nat) (i : UInt32) : Prop where
  /-- Nothing comes of a line exactly when the marker stands nowhere in it; the scan reads on. -/
  silent : Scan.next? ⟨[l], n, i⟩ = none ↔ ¬ marker <:+: l
  passed : ¬ marker <:+: l → Scan.next? ⟨l :: ls, n, i⟩ = Scan.next? ⟨ls, n + 1, i⟩
  /-- A line with the marker has one shape, and with it one name or one fault. -/
  shape : marker <:+: l → ∃! o, Reads l o
  /-- The shape decides the item, which carries the number of the line. -/
  decided : marker <:+: l → ∀ o, Reads l o
    ↔ ∃ s, Scan.next? ⟨l :: ls, n, i⟩ = some (item i (n + 1) o, s)
  /-- What is no name is refused when it is neither blank nor unclosed. -/
  otherwise : marker <:+: l → ((∃ name, Reads l (.error (.invalidName name)))
    ↔ (∀ name, ¬ Reads l (.ok name)) ∧ ¬ Reads l (.error .emptyName)
      ∧ ¬ Reads l (.error .missingCloseParen))

/-- **Every line is read by its shape**: nothing comes of a line without the marker, and of any other
one the item that its shape says. -/
theorem item_of_line (l : Text) (ls : List Text) (n : Nat) (i : UInt32) :
    ReadByShape l ls n i where
  silent := by
    by_cases h : marker <:+: l
    · obtain ⟨s, hs⟩ := Scan.next?_of_marked h [] n i
      rw [hs]
      exact iff_of_false (fun h => nomatch h) (not_not_intro h)
    · rw [Scan.next?_of_unmarked h]
      exact iff_of_true rfl h
  passed h := Scan.next?_of_unmarked h ls n i
  shape h := by
    obtain ⟨o, ho⟩ := exists_reads (mem_of_marked h)
    exact ⟨o, ho, fun o' ho' => ho'.readName_eq.symm.trans ho.readName_eq⟩
  decided h o := by
    obtain ⟨s, hs⟩ := Scan.next?_of_marked h ls n i
    rw [hs, ← readName_eq_iff (mem_of_marked h)]
    constructor
    · rintro rfl
      exact ⟨s, rfl⟩
    · rintro ⟨s', hs'⟩
      exact item_injective (Prod.mk.inj (Option.some.inj hs')).1
  otherwise h := by
    simp only [← readName_eq_iff (mem_of_marked h)]
    rcases readName l with (_ | _ | name) | name <;> simp

end Entry

end WireSchema
