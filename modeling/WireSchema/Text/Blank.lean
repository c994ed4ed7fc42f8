import WireSchema.Text.Basic

/-!
# Text/Blank — white space and trimming

A character is blank when it has the Unicode property `White_Space`. Trimming drops blanks from the
ends of a text and keeps every other character:

* `trim_eq_iff` — a text is its trim with blanks put at both ends;
* `trimStart_append_blank`, `trimEnd_append_blank`, `trim_append_blank` — blanks put at an end never
  show;
* `exists_trimStart`, `exists_trimEnd` — what is dropped is blank;
* `head?_trimStart`, `getLast?_trimEnd` — what is left is solid at that end.
-/

namespace WireSchema.Text

/-- The ranges of the property `White_Space`, both ends included. -/
def blankRanges : List (Nat × Nat) :=
  [(0x0009, 0x000D), (0x0020, 0x0020), (0x0085, 0x0085), (0x00A0, 0x00A0), (0x1680, 0x1680),
   (0x2000, 0x200A), (0x2028, 0x2029), (0x202F, 0x202F), (0x205F, 0x205F), (0x3000, 0x3000)]

/-- Whether the character is white space. -/
def isBlank (c : Char) : Bool :=
  blankRanges.any fun r => r.1 ≤ c.toNat && c.toNat ≤ r.2

/-- Drops the leading blanks. -/
def trimStart (t : Text) : Text := t.dropWhile isBlank

/-- Drops the trailing blanks. -/
def trimEnd (t : Text) : Text := (t.reverse.dropWhile isBlank).reverse

/-- Drops the blanks at both ends. -/
def trim (t : Text) : Text := trimEnd (trimStart t)

/-- A text of blanks only. -/
def AllBlank (t : Text) : Prop := ∀ c ∈ t, isBlank c = true

instance : DecidablePred AllBlank := fun t => List.decidableBAll (isBlank · = true) t

/-- A text that neither begins nor ends with a blank. -/
def Trimmed (t : Text) : Prop :=
  (∀ c, t.head? = some c → isBlank c = false) ∧ (∀ c, t.getLast? = some c → isBlank c = false)

/-! ## Laws -/

theorem trimStart_append_blank {u s : Text} (hu : AllBlank u) :
    trimStart (u ++ s) = trimStart s := by
  induction u with
  | nil => rfl
  | cons c cs ih =>
    have hc : isBlank c = true := hu c (by simp)
    have hcs : AllBlank cs := fun d hd => hu d (by simp [hd])
    simpa [trimStart, hc] using ih hcs

theorem trimEnd_append_blank {s v : Text} (hv : AllBlank v) : trimEnd (s ++ v) = trimEnd s := by
  have h : AllBlank v.reverse := fun c hc => hv c (by simpa using hc)
  have := trimStart_append_blank (s := s.reverse) h
  simp only [trimStart] at this
  simp [trimEnd, this]

theorem trimStart_eq_self {t : Text} (h : ∀ c, t.head? = some c → isBlank c = false) :
    trimStart t = t := by
  cases t with
  | nil => rfl
  | cons c cs => simp [trimStart, h c rfl]

theorem trimEnd_eq_self {t : Text} (h : ∀ c, t.getLast? = some c → isBlank c = false) :
    trimEnd t = t := by
  have := trimStart_eq_self (t := t.reverse) (by simpa using h)
  simp only [trimStart] at this
  simp [trimEnd, this]

theorem exists_trimStart (t : Text) : ∃ u, AllBlank u ∧ t = u ++ trimStart t :=
  ⟨t.takeWhile isBlank, fun c hc => List.all_eq_true.1 List.all_takeWhile c hc,
    List.takeWhile_append_dropWhile.symm⟩

theorem exists_trimEnd (t : Text) : ∃ v, AllBlank v ∧ t = trimEnd t ++ v := by
  obtain ⟨u, hu, ht⟩ := exists_trimStart t.reverse
  refine ⟨u.reverse, fun c hc => hu c (by simpa using hc), ?_⟩
  have := congrArg List.reverse ht
  simpa [trimEnd, trimStart] using this

theorem head?_trimStart (t : Text) (c : Char) (h : (trimStart t).head? = some c) :
    isBlank c = false := by
  induction t with
  | nil => simp [trimStart] at h
  | cons d ds ih =>
    by_cases hd : isBlank d = true
    · exact ih (by simpa [trimStart, hd] using h)
    · simp only [trimStart, List.dropWhile_cons, hd] at h
      simp only [Bool.false_eq_true, if_false, List.head?_cons, Option.some.injEq] at h
      subst h
      simpa using hd

theorem getLast?_trimEnd (t : Text) (c : Char) (h : (trimEnd t).getLast? = some c) :
    isBlank c = false := by
  refine head?_trimStart t.reverse c ?_
  simpa [trimEnd, trimStart] using h

/-- **Trimming drops the blanks at both ends and nothing else**, and this decides what it leaves. -/
theorem trim_eq_iff {t s : Text} :
    trim t = s ↔ Trimmed s ∧ ∃ u v, t = u ++ s ++ v ∧ AllBlank u ∧ AllBlank v := by
  constructor
  · rintro rfl
    obtain ⟨u, hu, ht⟩ := exists_trimStart t
    obtain ⟨v, hv, hs⟩ := exists_trimEnd (trimStart t)
    refine ⟨⟨fun c hc => ?_, fun c hc => getLast?_trimEnd _ c hc⟩, u, v, ?_, hu, hv⟩
    · refine head?_trimStart t c ?_
      rw [hs, List.head?_append]
      exact Option.or_eq_some_iff.2 (.inl hc)
    · rw [List.append_assoc, trim, ← hs]
      exact ht
  · rintro ⟨hs, u, v, rfl, hu, hv⟩
    rw [trim, List.append_assoc, trimStart_append_blank hu]
    rcases s with _ | ⟨c, s⟩
    · have hempty : trimStart v = [] := by simpa [trimStart] using trimStart_append_blank (s := []) hv
      rw [List.nil_append, hempty]
      rfl
    · have hsolid : trimStart (c :: s ++ v) = c :: s ++ v := trimStart_eq_self fun d hd => hs.1 d hd
      rw [hsolid, trimEnd_append_blank hv, trimEnd_eq_self hs.2]

/-- Blanks put around a text never show. -/
theorem trim_append_blank {u s v : Text} (hu : AllBlank u) (hv : AllBlank v) :
    trim (u ++ s ++ v) = trim s := by
  generalize hm : trim s = m
  obtain ⟨hsolid, u', v', rfl, hu', hv'⟩ := trim_eq_iff.1 hm
  refine trim_eq_iff.2 ⟨hsolid, u ++ u', v' ++ v, by simp only [List.append_assoc], ?_, ?_⟩
  · exact List.forall_mem_append.2 ⟨hu, hu'⟩
  · exact List.forall_mem_append.2 ⟨hv', hv⟩

end WireSchema.Text
