import WireSchema.Proofs.FilePath.Components

/-!
# Proofs/FilePath/Extension — a path with another extension

The old extension is taken off the end of the text, byte by byte, and the tail goes first.  Nothing
but the tail and the old extension can go, so the file name that is left still ends in its dot, and
the new extension is put there.  Only a name whose stem is a single dot can lose what makes it a name:
`..x` is cut to `..`, unless a tail is there to be cut in the place of some of its extension.

* `withExtension_eq` — the new extension stands behind the stem, whatever the tail was.
* `withExtension_eq_dots` — the one text that no extension is put behind.
* `steps_withExtension` — without a tail, the new extension is in the last step.
-/

namespace WireSchema.FilePath

variable {p : FilePath} {before n s x r : Text}

/-- The text ends in its last component: no closing separator and no closing `.` part. -/
def IsTrimmed (p : FilePath) : Prop := dropTail p.text.reverse = p.text.reverse

instance : DecidablePred IsTrimmed := fun _ => inferInstanceAs (Decidable (_ = _))

/-- **A text ends in its last component** unless it ends in a separator, or in a `.` behind one. -/
theorem isTrimmed_iff : p.IsTrimmed ↔ ¬ ['/'] <:+ p.text ∧ ¬ ['/', '.'] <:+ p.text := by
  have hend {e : Text} : e <:+ p.text ↔ ∃ t, p.text.reverse = e.reverse ++ t := by
    rw [← List.reverse_prefix]
    exact exists_congr fun _ => eq_comm
  rw [hend, hend, not_exists, not_exists, IsTrimmed]
  exact ⟨fun h => h ▸ dropTail_ne _, fun h => dropTail.eq_3 _ h.1 h.2⟩

/-- The number of bytes of a text. -/
def byteLength (t : Text) : Nat := t.foldr (fun c k => c.utf8Size + k) 0

/-! ## Stem and extension -/

/-- **A name is cut at its last dot** — unless nothing stands in front of that dot. -/
theorem splitExtension_eq_some_iff :
    splitExtension n = (s, some x) ↔ n = s ++ '.' :: x ∧ s ≠ [] ∧ '.' ∉ x := by
  constructor
  · intro h
    rw [splitExtension] at h
    split at h
    case h_1 => exact nomatch (Prod.mk.inj h).2
    case h_2 => exact nomatch (Prod.mk.inj h).2
    case h_3 ext stem hstem hcut =>
      obtain ⟨rfl, hext⟩ := Prod.mk.inj h
      obtain rfl := Option.some.inj hext
      obtain ⟨hback, hdot⟩ := Text.cut_eq_some_iff.1 hcut
      refine ⟨?_, mt List.reverse_eq_nil_iff.1 hstem, mt List.mem_reverse.1 hdot⟩
      rw [← List.reverse_reverse n, hback, List.reverse_append, List.reverse_cons,
        List.append_assoc, List.singleton_append]
  · rintro ⟨rfl, hs, hx⟩
    have hcut : Text.cut '.' (s ++ '.' :: x).reverse = some (x.reverse, s.reverse) := by
      refine Text.cut_eq_some_iff.2 ⟨?_, mt List.mem_reverse.1 hx⟩
      rw [List.reverse_append, List.reverse_cons, List.append_assoc, List.singleton_append]
    obtain ⟨c, back, hback⟩ := List.exists_cons_of_ne_nil (mt List.reverse_eq_nil_iff.1 hs)
    rw [splitExtension, hcut, hback]
    dsimp only
    rw [← hback, List.reverse_reverse, List.reverse_reverse]

/-- A name without an extension is its own stem. -/
theorem eq_of_splitExtension_eq_none (h : splitExtension n = (s, none)) : s = n := by
  rw [splitExtension] at h
  split at h
  case h_3 => exact nomatch (Prod.mk.inj h).2
  all_goals exact (Prod.mk.inj h).1.symm

theorem stem_isPrefix (n : Text) : (splitExtension n).1 <+: n := by
  rcases hx : splitExtension n with ⟨s, _ | x⟩
  · exact eq_of_splitExtension_eq_none hx ▸ List.prefix_refl s
  · exact (splitExtension_eq_some_iff.1 hx).1 ▸ List.prefix_append s _

theorem stem_ne_nil (h : n ≠ []) : (splitExtension n).1 ≠ [] := by
  rcases hx : splitExtension n with ⟨s, _ | x⟩
  · exact eq_of_splitExtension_eq_none hx ▸ h
  · exact (splitExtension_eq_some_iff.1 hx).2.1

theorem exists_of_stem? (h : p.stem? = some s) :
    ∃ before n, p.splitFileName? = some (before, n) ∧ (splitExtension n).1 = s := by
  obtain ⟨n, hn, hs⟩ := Option.map_eq_some_iff.1 h
  obtain ⟨⟨before, m⟩, hsplit, rfl⟩ := Option.map_eq_some_iff.1 hn
  exact ⟨before, m, hsplit, hs⟩

/-! ## Bytes -/

@[simp] theorem byteLength_cons (c : Char) (t : Text) :
    byteLength (c :: t) = c.utf8Size + byteLength t := rfl

@[simp] theorem byteLength_eq_zero_iff : ∀ {t : Text}, byteLength t = 0 ↔ t = []
  | [] => iff_of_true rfl rfl
  | c :: t => by
      have := c.utf8Size_pos
      rw [byteLength_cons]
      exact iff_of_false (by omega) (List.cons_ne_nil c t)

theorem byteLength_append : ∀ a b : Text, byteLength (a ++ b) = byteLength a + byteLength b
  | [], _ => (Nat.zero_add _).symm
  | c :: a, b => by
      rw [List.cons_append, byteLength_cons, byteLength_cons, byteLength_append a b, Nat.add_assoc]

@[simp] theorem byteLength_reverse : ∀ t : Text, byteLength t.reverse = byteLength t
  | [] => rfl
  | c :: t => by
      rw [List.reverse_cons, byteLength_append, byteLength_reverse t, byteLength_cons, Nat.add_comm]
      rfl

@[simp] theorem dropBytes_zero : ∀ t : Text, dropBytes 0 t = t
  | [] => rfl
  | c :: _ => if_neg (Nat.not_le.2 c.utf8Size_pos)

theorem dropBytes_suffix : ∀ (k : Nat) (t : Text), dropBytes k t <:+ t
  | _, [] => List.suffix_refl []
  | k, c :: t => by
      rw [dropBytes]
      split_ifs
      · exact (dropBytes_suffix _ t).trans (List.suffix_cons c t)
      · exact List.suffix_refl _

theorem dropBytes_eq_nil_iff : ∀ {k : Nat} {t : Text}, dropBytes k t = [] ↔ byteLength t ≤ k
  | _, [] => iff_of_true rfl (Nat.zero_le _)
  | k, c :: t => by
      rw [dropBytes, byteLength_cons]
      by_cases hc : c.utf8Size ≤ k
      · rw [if_pos hc, dropBytes_eq_nil_iff]
        omega
      · rw [if_neg hc]
        exact iff_of_false (List.cons_ne_nil c t) (by omega)

/-- Bytes that the front has are taken from the front. -/
theorem dropBytes_append : ∀ {k : Nat} {a : Text}, k ≤ byteLength a → ∀ b : Text,
    dropBytes k (a ++ b) = dropBytes k a ++ b
  | k, [], hk, b => by
      obtain rfl : k = 0 := Nat.le_zero.1 hk
      exact dropBytes_zero b
  | k, c :: a, hk, b => by
      rw [List.cons_append, dropBytes, dropBytes]
      split_ifs with hc
      · rw [byteLength_cons] at hk
        exact dropBytes_append (by omega) b
      · rfl

/-- **The tail goes first.**  What is left of a text less `k` bytes is, apart from its tail, what is
left of the text without its tail less at most `k` bytes, and less all of them only when there is no
tail. -/
theorem exists_dropTail_dropBytes (k : Nat) (r : Text) : ∃ j ≤ k,
    dropTail (dropBytes k r) = dropTail (dropBytes j (dropTail r)) ∧
      (j = k → k = 0 ∨ dropTail r = r) := by
  fun_induction dropTail r generalizing k with
  | case1 r ih =>
    rcases k with _ | k
    · refine ⟨0, le_rfl, ?_, fun _ => .inl rfl⟩
      rw [dropBytes_zero, dropBytes_zero]
      exact (dropTail_dropTail ('/' :: r)).symm
    · obtain ⟨j, hj, heq, -⟩ := ih k
      exact ⟨j, by omega, heq, fun h => absurd h (by omega)⟩
  | case2 r ih =>
    rcases k with _ | k
    · refine ⟨0, le_rfl, ?_, fun _ => .inl rfl⟩
      rw [dropBytes_zero, dropBytes_zero]
      exact (dropTail_dropTail ('.' :: '/' :: r)).symm
    · obtain ⟨j, hj, heq, -⟩ := ih k
      exact ⟨j, by omega, heq, fun h => absurd h (by omega)⟩
  | case3 r => exact ⟨k, le_rfl, rfl, fun _ => .inr rfl⟩

/-! ## Extensions replaced -/

theorem extension?_of_splitFileName? (h : p.splitFileName? = some (before, n)) :
    p.extension? = (splitExtension n).2 := by
  rw [extension?, fileName?, h]
  rfl

theorem dropExtension_eq (h : p.splitFileName? = some (before, n))
    (hx : splitExtension n = (s, some x)) :
    p.dropExtension = ⟨(dropBytes (byteLength x) p.text.reverse).reverse⟩ := by
  rw [dropExtension, extension?_of_splitFileName? h, hx]
  rfl

/-- **What is cut is the tail and the old extension.**  The file name that is left ends in its dot and
some of the extension, and in the dot alone only where there was no tail, or no extension. -/
theorem exists_splitLast_dropExtension (h : p.splitFileName? = some (before, n))
    (hx : splitExtension n = (s, some x)) : ∃ y, '.' ∉ y ∧ (y = [] → x = [] ∨ p.IsTrimmed) ∧
      p.dropExtension.splitLast = (before, s ++ '.' :: y) := by
  obtain ⟨hback, hbefore, hname⟩ := of_splitFileName? h
  obtain ⟨j, hj, hcut, hall⟩ := exists_dropTail_dropBytes (byteLength x) p.text.reverse
  obtain ⟨hn, hs, hdot⟩ := splitExtension_eq_some_iff.1 hx
  have hmem {c : Char} (hc : c ∈ (dropBytes j x.reverse).reverse) : c ∈ x :=
    List.mem_reverse.1 ((dropBytes_suffix _ _).mem (List.mem_reverse.1 hc))
  refine ⟨(dropBytes j x.reverse).reverse, fun hc => hdot (hmem hc), fun hnil => ?_, ?_⟩
  · rw [List.reverse_eq_nil_iff, dropBytes_eq_nil_iff, byteLength_reverse] at hnil
    exact (hall (Nat.le_antisymm hj hnil)).imp_left byteLength_eq_zero_iff.1
  have hpart : '/' ∉ s ++ '.' :: (dropBytes j x.reverse).reverse := by
    have hslash := hname.noSeparator
    rw [hn, List.mem_append, List.mem_cons] at hslash
    rw [List.mem_append, List.mem_cons]
    exact mt (Or.imp_right (Or.imp_right hmem)) hslash
  have hnone : Component.ofPart? (s ++ '.' :: (dropBytes j x.reverse).reverse) ≠ none := by
    rw [Ne, ofPart?_eq_none_iff, List.append_eq_singleton_iff]
    simp [hs]
  have hleft := splitLast_eq_iff.1 (splitLast_append hbefore hpart hnone)
  refine splitLast_eq_iff.2 ⟨?_, hleft.2⟩
  rw [dropExtension_eq h hx, List.reverse_reverse, hcut, hback, hn, ← hleft.1]
  congr 1
  have hsplit : (before ++ (s ++ '.' :: x)).reverse = x.reverse ++ (before ++ (s ++ ['.'])).reverse := by
    simp
  rw [hsplit, dropBytes_append (hj.trans (byteLength_reverse x).ge)]
  simp

/-- A stem and an extension name an entry, unless they are a dot and nothing. -/
theorem names_append_iff (hs : s ≠ []) :
    Component.ofPart? (s ++ '.' :: x) = some (.name (s ++ '.' :: x)) ↔ ¬ (s = ['.'] ∧ x = []) := by
  obtain ⟨c, s', rfl⟩ := List.exists_cons_of_ne_nil hs
  rw [ofPart?_eq_name_iff]
  rcases s' with _ | ⟨d, s''⟩ <;> simp

/-- **The new extension stands behind the stem**, whatever tail the path has. -/
theorem withExtension_eq (h : p.splitFileName? = some (before, n))
    (hs : (splitExtension n).1 = s) (hdot : s = ['.'] → ¬ p.IsTrimmed) (ext : Text) :
    p.withExtension ext = ⟨before ++ s ++ '.' :: ext⟩ := by
  rcases hx : splitExtension n with ⟨s', _ | x⟩
  · have hbare : p.dropExtension = p := by
      rw [dropExtension, extension?_of_splitFileName? h, hx]
    rw [withExtension, hbare, h, ← hs]
  obtain rfl : s' = s := (congrArg Prod.fst hx).symm.trans hs
  obtain ⟨hn, hne, -⟩ := splitExtension_eq_some_iff.1 hx
  obtain ⟨y, hy, hnil, hlast⟩ := exists_splitLast_dropExtension h hx
  have hnames : Component.ofPart? (s' ++ '.' :: y) = some (.name (s' ++ '.' :: y)) := by
    refine (names_append_iff hne).2 fun ⟨hstem, hempty⟩ => ?_
    refine (hnil hempty).elim (fun hxnil => ?_) (hdot hstem)
    have hold := (of_splitFileName? h).2.2.names
    rw [hn, names_append_iff hne] at hold
    exact hold ⟨hstem, hxnil⟩
  have hbare := splitFileName?_eq_some_iff.2 ⟨hlast, hnames⟩
  rw [withExtension, hbare]
  dsimp only
  rw [splitExtension_eq_some_iff.2 ⟨rfl, hne, hy⟩]

/-- **Nothing is put behind two dots.** -/
theorem withExtension_eq_dots (h : p.splitFileName? = some (before, n))
    (hs : (splitExtension n).1 = ['.']) (htrim : p.IsTrimmed) (ext : Text) :
    p.withExtension ext = ⟨before ++ ['.', '.']⟩ := by
  obtain ⟨hback, hbefore, hname⟩ := of_splitFileName? h
  rcases hx : splitExtension n with ⟨s', _ | x⟩
  · obtain rfl := eq_of_splitExtension_eq_none hx
    rw [hx] at hs
    exact absurd hs (ofPart?_eq_name_iff.1 hname.names).2.1
  obtain rfl : s' = ['.'] := (congrArg Prod.fst hx).symm.trans hs
  obtain ⟨rfl, -, -⟩ := splitExtension_eq_some_iff.1 hx
  have hbare : p.dropExtension = ⟨before ++ ['.', '.']⟩ := by
    have hrev : p.text.reverse = x.reverse ++ (before ++ ['.', '.']).reverse := by
      rw [← htrim, hback]
      simp
    have hnil : dropBytes (byteLength x) x.reverse = [] :=
      dropBytes_eq_nil_iff.2 (byteLength_reverse x).le
    rw [dropExtension_eq h hx, hrev, dropBytes_append (byteLength_reverse x).ge, hnil,
      List.nil_append, List.reverse_reverse]
  have hnone : (⟨before ++ ['.', '.']⟩ : FilePath).splitFileName? = none := by
    rw [splitFileName?, splitLast_append hbefore (by decide) (by decide)]
    rfl
  rw [withExtension, hbare, hnone]

/-- A stem with an extension of its own is a file name. -/
theorem isFileName_stem_append (hs : p.stem? = some s) (hne : x ≠ []) (hslash : '/' ∉ x) :
    IsFileName (s ++ '.' :: x) := by
  obtain ⟨before, n, hsplit, rfl⟩ := exists_of_stem? hs
  have hname := (of_splitFileName? hsplit).2.2
  constructor
  · exact (names_append_iff (stem_ne_nil hname.ne_nil)).2 fun h => hne h.2
  · rw [List.mem_append, List.mem_cons, not_or, not_or]
    exact ⟨fun hmem => hname.noSeparator ((stem_isPrefix n).mem hmem), by decide, hslash⟩

/-! ## The last step -/

/-- A component with another extension, which only a name has room for. -/
def Component.withExtension (ext : Text) : Component → Component
  | .name n =>
    let stem := (splitExtension n).1
    if stem = ['.'] then .parent else .name (stem ++ '.' :: ext)
  | c => c

theorem withExtension_of_fileName?_eq_none (h : p.fileName? = none) (ext : Text) :
    p.withExtension ext = p := by
  have hbare : p.dropExtension = p := by
    rw [dropExtension, extension?, h]
    rfl
  rw [withExtension, hbare, Option.map_eq_none_iff.1 h]

/-- **A text that ends in its last component gets the extension there**, and leads as it did before up
to its last step. -/
theorem steps_withExtension (h : p.IsTrimmed) (hne : x ≠ []) (hslash : '/' ∉ x) :
    (p.withExtension x).steps
      = p.steps.dropLast ++ (p.steps.getLast?.map (Component.withExtension x)).toList := by
  cases hname : p.fileName? with
  | none =>
    rw [withExtension_of_fileName?_eq_none hname]
    cases hlast : p.steps.getLast? with
    | none =>
      rw [List.getLast?_eq_none_iff.1 hlast]
      rfl
    | some c =>
      obtain ⟨cs, hsteps⟩ := List.getLast?_eq_some_iff.1 hlast
      have hc : c.withExtension x = c := by
        cases c with
        | name n => exact nomatch hname.symm.trans (fileName?_eq_some_iff.2 hlast)
        | _ => rfl
      rw [Option.map_some, hc, hsteps, List.dropLast_concat]
      rfl
  | some n =>
    obtain ⟨⟨before, m⟩, hsplit, rfl⟩ := Option.map_eq_some_iff.1 hname
    have hbefore := (of_splitFileName? hsplit).2.1
    rw [steps_of_splitFileName? hsplit, List.dropLast_concat, List.getLast?_concat]
    by_cases hdot : (splitExtension m).1 = ['.']
    · rw [withExtension_eq_dots hsplit hdot h,
        steps_of_splitLast (splitLast_append hbefore (by decide) (by decide)) rfl]
      simp [Component.withExtension, hdot]
    · have hstem : p.stem? = some (splitExtension m).1 := by
        rw [stem?, hname]
        rfl
      rw [withExtension_eq hsplit rfl (fun hstem => absurd hstem hdot), List.append_assoc,
        steps_of_splitFileName?
          (splitFileName?_append hbefore (isFileName_stem_append hstem hne hslash))]
      simp [Component.withExtension, hdot]

end WireSchema.FilePath
