import Mathlib.Data.List.TakeWhile
import Mathlib.Tactic.Common
import WireSchema.FilePath.Basic
import WireSchema.Proofs.Text.Basic

/-!
# Proofs/FilePath/Components — what a path names, part by part

A path names what its **steps** say, its components apart from a `.` that begins it.  Where a text is
put together at a separator its steps are put together, and the tail of a path says nothing:

* `steps_join_iff` — a relative path is walked from where its base leads.
* `splitLast_eq_iff` — the last part of a path, and the text before it.
* `fileName?_eq_some_iff`, `steps_of_splitFileName?` — a path leads to its file name, which is its last
  step, behind the text before it.
-/

namespace WireSchema.FilePath

variable {p base : FilePath} {t before part r : Text}

/-- The components of a path apart from a `.` that begins it. -/
def steps (p : FilePath) : List Component := p.components.filter (· ≠ .current)

/-- A text behind which a new part begins: there is nothing in front of it, or a separator. -/
def AtBoundary (t : Text) : Prop := t = [] ∨ ∃ s, t = s ++ ['/']

/-- A file name: a single part, and one that names an entry of a directory. -/
structure IsFileName (n : Text) : Prop where
  names : Component.ofPart? n = some (.name n)
  noSeparator : '/' ∉ n

/-- The path in front of the last component; a path with no component behind its root has none. -/
def parent? (p : FilePath) : Option FilePath :=
  let (before, part) := p.splitLast
  if part = [] then none else some (⟨before⟩ : FilePath).trimTail

/-! ## The components of a text -/

theorem ofPart?_ne_current : Component.ofPart? t ≠ some .current := by
  rw [Component.ofPart?.eq_def]
  split <;> simp

theorem ofPart?_ne_root : Component.ofPart? t ≠ some .root := by
  rw [Component.ofPart?.eq_def]
  split <;> simp

theorem eq_of_ofPart?_eq_name {n : Text} (h : Component.ofPart? part = some (.name n)) : part = n := by
  rw [Component.ofPart?.eq_def] at h
  split at h <;> simp_all

theorem ofPart?_eq_name_iff :
    Component.ofPart? part = some (.name part) ↔ part ≠ [] ∧ part ≠ ['.'] ∧ part ≠ ['.', '.'] := by
  rw [Component.ofPart?.eq_def]
  split <;> simp_all

theorem ofPart?_eq_none_iff : Component.ofPart? part = none ↔ part = [] ∨ part = ['.'] := by
  rw [Component.ofPart?.eq_def]
  split <;> simp_all

/-- **A separator separates components.** -/
theorem bodyComponents_append (a b : Text) :
    bodyComponents (a ++ '/' :: b) = bodyComponents a ++ bodyComponents b := by
  rw [bodyComponents, Text.split_append, List.filterMap_append]
  rfl

@[simp] theorem bodyComponents_slash_cons (t : Text) :
    bodyComponents ('/' :: t) = bodyComponents t := bodyComponents_append [] t

@[simp] theorem bodyComponents_concat_slash (t : Text) :
    bodyComponents (t ++ ['/']) = bodyComponents t := by
  rw [bodyComponents_append]
  exact List.append_nil _

theorem bodyComponents_of_not_mem (h : '/' ∉ part) :
    bodyComponents part = (Component.ofPart? part).toList := by
  rw [bodyComponents, Text.split_of_not_mem h, List.filterMap_cons, List.filterMap_nil]
  cases Component.ofPart? part <;> rfl

theorem not_mem_takeWhile (t : Text) : '/' ∉ t.takeWhile (· ≠ '/') := fun h => by
  have hkept := List.mem_takeWhile_imp h
  exact of_decide_eq_true hkept rfl

/-- A text is its first part, and nothing or a separator with what is behind it. -/
theorem exists_dropWhile_eq (t : Text) : t.dropWhile (· ≠ '/') = [] ∨
    ∃ r, t.dropWhile (· ≠ '/') = '/' :: r := by
  cases hrest : t.dropWhile (· ≠ '/') with
  | nil => exact .inl rfl
  | cons c r =>
    have hc := List.head?_dropWhile_not (· ≠ '/') t
    rw [hrest] at hc
    obtain rfl : c = '/' := by simpa using hc
    exact .inr ⟨r, rfl⟩

theorem bodyComponents_append_of_atBoundary (h : AtBoundary before) (t : Text) :
    bodyComponents (before ++ t) = bodyComponents before ++ bodyComponents t := by
  rcases h with rfl | ⟨s, rfl⟩
  · rfl
  · rw [bodyComponents_concat_slash, List.append_assoc, List.singleton_append,
      bodyComponents_append]

theorem filter_bodyComponents (t : Text) :
    (bodyComponents t).filter (· ≠ .current) = bodyComponents t := by
  refine List.filter_eq_self.2 fun x hx => decide_eq_true fun hcurrent => ?_
  obtain ⟨part, -, hpart⟩ := List.mem_filterMap.1 hx
  exact ofPart?_ne_current (hpart.trans (congrArg some hcurrent))

theorem isAbsolute_iff : p.isAbsolute = true ↔ ∃ rest, p.text = '/' :: rest := by
  rw [isAbsolute, beq_iff_eq, List.head?_eq_some_iff]

/-- The steps of a path, read off its text. -/
theorem steps_eq (p : FilePath) :
    p.steps = (if p.isAbsolute then [.root] else []) ++ bodyComponents p.text := by
  rw [steps, components]
  split
  case h_1 rest htext =>
    rw [List.filter_cons_of_pos (by decide), filter_bodyComponents,
      if_pos (isAbsolute_iff.2 ⟨rest, htext⟩), htext, bodyComponents_slash_cons]
    rfl
  case h_2 hne =>
    rw [if_neg fun habs => (isAbsolute_iff.1 habs).elim hne, List.nil_append]
    split
    · rw [List.filter_cons_of_neg (by decide), filter_bodyComponents]
    · exact filter_bodyComponents _

theorem root_mem_steps_iff : .root ∈ p.steps ↔ p.isAbsolute = true := by
  have hbody : .root ∉ bodyComponents p.text := fun h => by
    obtain ⟨part, -, hpart⟩ := List.mem_filterMap.1 h
    exact ofPart?_ne_root hpart
  rw [steps_eq, List.mem_append, or_iff_left hbody]
  split_ifs with habs
  · exact iff_of_true List.mem_cons_self habs
  · exact iff_of_false List.not_mem_nil habs

/-- An absolute path has no components but its steps. -/
theorem components_of_isAbsolute (h : p.isAbsolute = true) : p.components = p.steps := by
  obtain ⟨rest, hrest⟩ := isAbsolute_iff.1 h
  rw [steps_eq, if_pos h, components, hrest, bodyComponents_slash_cons]
  rfl

theorem isAbsolute_of_append : ∀ {t : Text}, t ≠ [] → ∀ s : Text,
    (⟨t ++ s⟩ : FilePath).isAbsolute = (⟨t⟩ : FilePath).isAbsolute
  | [], h, _ => absurd rfl h
  | _ :: _, _, _ => rfl

/-! ## Joined paths -/

/-- A relative path is written behind its base, closed by a separator. -/
theorem exists_lead (base : FilePath) : ∃ lead, AtBoundary lead ∧
    (⟨lead⟩ : FilePath).steps = base.steps ∧
      ∀ p : FilePath, p.isAbsolute = false → base.join p = ⟨lead ++ p.text⟩ := by
  by_cases hclosed : base.text.isEmpty || base.text.getLast? == some '/'
  · refine ⟨base.text, ?_, rfl, fun p h => ?_⟩
    · rcases Bool.or_eq_true_iff.1 hclosed with hempty | hlast
      · exact .inl (List.isEmpty_iff.1 hempty)
      · exact .inr (List.getLast?_eq_some_iff.1 (beq_iff_eq.1 hlast))
    · rw [join, h, if_neg Bool.false_ne_true, if_pos hclosed]
  · have hne : base.text ≠ [] := fun hempty => hclosed (by rw [hempty]; rfl)
    refine ⟨base.text ++ ['/'], .inr ⟨_, rfl⟩, ?_, fun p h => ?_⟩
    · rw [steps_eq, steps_eq, isAbsolute_of_append hne, bodyComponents_concat_slash]
    · rw [join, h, if_neg Bool.false_ne_true, if_neg hclosed, List.append_assoc,
        List.singleton_append]

/-- **A relative path is walked from where its base leads** — and an absolute one is not, unless the
base leads nowhere. -/
theorem steps_join_iff : (base.join p).steps = base.steps ++ p.steps ↔
    (p.isAbsolute = true → base.steps = []) := by
  cases habs : p.isAbsolute with
  | true =>
    rw [join, if_pos habs, List.self_eq_append_left]
    exact ⟨fun h _ => h, fun h => h rfl⟩
  | false =>
    refine iff_of_true ?_ fun h => absurd h Bool.false_ne_true
    obtain ⟨lead, hlead, hsteps, hjoin⟩ := exists_lead base
    rw [hjoin p habs, ← hsteps, steps_eq, steps_eq, steps_eq p, habs, if_neg Bool.false_ne_true,
      List.nil_append, List.append_assoc, bodyComponents_append_of_atBoundary hlead]
    rcases eq_or_ne lead [] with rfl | hne
    · rw [List.nil_append, show isAbsolute ⟨p.text⟩ = false from habs]; rfl
    · rw [isAbsolute_of_append hne]

/-- Paths that lead alike lead alike from a base. -/
theorem steps_join_congr {q : FilePath} (h : p.steps = q.steps) (base : FilePath) :
    (base.join p).steps = (base.join q).steps := by
  have habs : p.isAbsolute = true ↔ q.isAbsolute = true := by
    rw [← root_mem_steps_iff, ← root_mem_steps_iff, h]
  by_cases hp : p.isAbsolute = true
  · rw [join, if_pos hp, join, if_pos (habs.1 hp), h]
  · rw [steps_join_iff.2 fun hp' => absurd hp' hp,
      steps_join_iff.2 fun hq => absurd (habs.2 hq) hp, h]

theorem isAbsolute_join (h : base.isAbsolute = true) (p : FilePath) :
    (base.join p).isAbsolute = true := by
  have hne : base.text ≠ [] := fun hnil => by
    rw [isAbsolute, hnil] at h
    contradiction
  rw [join]
  split_ifs with hp
  · exact hp
  · exact (isAbsolute_of_append hne _).trans h
  · exact (isAbsolute_of_append hne _).trans h

/-! ## Tails -/

theorem dropTail_suffix (r : Text) : dropTail r <:+ r := by
  fun_induction dropTail r with
  | case1 r ih => exact ih.trans (List.suffix_cons _ _)
  | case2 r ih => exact ih.trans (List.suffix_cons _ _)
  | case3 r => exact List.suffix_refl r

theorem reverse_dropTail_isPrefix (p : FilePath) : (dropTail p.text.reverse).reverse <+: p.text := by
  rw [← List.reverse_suffix, List.reverse_reverse]
  exact dropTail_suffix _

@[simp] theorem dropTail_dropTail (r : Text) : dropTail (dropTail r) = dropTail r := by
  fun_induction dropTail r with
  | case1 r ih => exact ih
  | case2 r ih => exact ih
  | case3 r hslash hdot => exact dropTail.eq_3 r hslash hdot

/-- What is left does not begin with a tail. -/
theorem dropTail_ne (r : Text) : (∀ s, dropTail r ≠ '/' :: s) ∧ ∀ s, dropTail r ≠ '.' :: '/' :: s := by
  fun_induction dropTail r with
  | case1 r ih => exact ih
  | case2 r ih => exact ih
  | case3 r hslash hdot => exact ⟨hslash, hdot⟩

/-- **The tail says nothing.** -/
theorem bodyComponents_dropTail (r : Text) :
    bodyComponents (dropTail r).reverse = bodyComponents r.reverse := by
  fun_induction dropTail r with
  | case1 r ih =>
    rw [ih, List.reverse_cons, bodyComponents_concat_slash]
  | case2 r ih =>
    rw [ih, List.reverse_cons, List.reverse_cons, List.reverse_cons, bodyComponents_concat_slash,
      List.append_assoc, List.singleton_append, bodyComponents_append]
    exact (List.append_nil _).symm
  | case3 r => rfl

theorem isAbsolute_append_part (h : '/' ∉ part) :
    (⟨before ++ part⟩ : FilePath).isAbsolute = (⟨before⟩ : FilePath).isAbsolute := by
  rcases eq_or_ne before [] with rfl | hne
  · refine Bool.eq_false_iff.2 fun habs => ?_
    obtain ⟨rest, rfl⟩ := isAbsolute_iff.1 habs
    exact h List.mem_cons_self
  · exact isAbsolute_of_append hne part

theorem isAbsolute_of_isPrefix {s : Text} (h : s <+: p.text) (hs : s ≠ []) :
    (⟨s⟩ : FilePath).isAbsolute = p.isAbsolute := by
  obtain ⟨t, ht⟩ := h
  rw [← isAbsolute_of_append hs t, isAbsolute, ht, isAbsolute]

theorem isAbsolute_trimTail (p : FilePath) : p.trimTail.isAbsolute = p.isAbsolute := by
  rw [trimTail]
  split
  case h_1 rest htext => exact (isAbsolute_iff.2 ⟨rest, htext⟩).symm
  case h_2 hne =>
    have habs : p.isAbsolute = false := Bool.eq_false_iff.2 fun h => (isAbsolute_iff.1 h).elim hne
    rcases eq_or_ne (dropTail p.text.reverse).reverse [] with hnil | hcons
    · rw [hnil, habs]; rfl
    · exact isAbsolute_of_isPrefix (reverse_dropTail_isPrefix p) hcons

/-- A path without its tail leads to the same place. -/
@[simp] theorem steps_trimTail (p : FilePath) : p.trimTail.steps = p.steps := by
  have htail (t : Text) : bodyComponents (dropTail t.reverse).reverse = bodyComponents t := by
    rw [bodyComponents_dropTail, List.reverse_reverse]
  have hbody : bodyComponents p.trimTail.text = bodyComponents p.text := by
    rw [trimTail]
    split
    case h_1 rest htext =>
      rw [htext, bodyComponents_slash_cons, bodyComponents_slash_cons, ← htail rest]
      split_ifs with hdot
      · rw [hdot]; rfl
      · rfl
    case h_2 => exact htail _
  rw [steps_eq, steps_eq, isAbsolute_trimTail, hbody]

/-! ## The last part -/

/-- **The last part of a path, and the text before it** — the text without its tail, cut behind its
last separator. -/
theorem splitLast_eq_iff : p.splitLast = (before, part) ↔
    dropTail p.text.reverse = (before ++ part).reverse ∧ AtBoundary before ∧ '/' ∉ part := by
  rw [splitLast, Prod.mk.injEq]
  constructor
  · rintro ⟨rfl, rfl⟩
    refine ⟨?_, ?_, ?_⟩
    · rw [List.reverse_append, List.reverse_reverse, List.reverse_reverse,
        List.takeWhile_append_dropWhile]
    · rcases exists_dropWhile_eq (dropTail p.text.reverse) with hnil | ⟨r, hr⟩
      · exact .inl (List.reverse_eq_nil_iff.2 hnil)
      · exact .inr ⟨r.reverse, by rw [hr, List.reverse_cons]⟩
    · exact mt List.mem_reverse.1 (not_mem_takeWhile _)
  · rintro ⟨hback, hbefore, hpart⟩
    have hall : ∀ x ∈ part.reverse, decide (x ≠ '/') = true := fun x hx =>
      decide_eq_true fun hxs => hpart (hxs ▸ List.mem_reverse.1 hx)
    have hnone : before.reverse.takeWhile (· ≠ '/') = [] ∧
        before.reverse.dropWhile (· ≠ '/') = before.reverse := by
      rcases hbefore with rfl | ⟨s, rfl⟩
      · exact ⟨rfl, rfl⟩
      · rw [List.reverse_append]
        exact ⟨rfl, rfl⟩
    rw [hback, List.reverse_append, List.takeWhile_append_of_pos hall,
      List.dropWhile_append_of_pos hall, hnone.1, hnone.2, List.append_nil]
    exact ⟨List.reverse_reverse _, List.reverse_reverse _⟩

/-- A part that is not in the tail is where the tail ends. -/
theorem splitLast_append (hbefore : AtBoundary before) (hslash : '/' ∉ part)
    (hpart : Component.ofPart? part ≠ none) : (⟨before ++ part⟩ : FilePath).splitLast = (before, part) := by
  obtain ⟨hempty, hdot⟩ := not_or.1 (mt ofPart?_eq_none_iff.2 hpart)
  refine splitLast_eq_iff.2 ⟨?_, hbefore, hslash⟩
  rw [← List.mem_reverse] at hslash
  rw [List.reverse_append]
  match hback : part.reverse with
  | [] => exact absurd (List.reverse_eq_nil_iff.1 hback) hempty
  | [c] =>
    have hc : c ≠ '.' := fun h => hdot (List.reverse_eq_iff.1 (h ▸ hback))
    rw [hback, List.mem_singleton] at hslash
    exact dropTail.eq_3 _ (fun _ h => hslash (List.cons.inj h).1.symm)
      (fun _ h => hc (List.cons.inj h).1)
  | c :: e :: back =>
    rw [hback, List.mem_cons, List.mem_cons, not_or, not_or] at hslash
    exact dropTail.eq_3 _ (fun _ h => hslash.1 (List.cons.inj h).1.symm)
      (fun _ h => hslash.2.1 (List.cons.inj (List.cons.inj h).2).1.symm)

theorem isAbsolute_of_splitLast (h : p.splitLast = (before, part)) (hpart : part ≠ []) :
    p.isAbsolute = (⟨before⟩ : FilePath).isAbsolute := by
  obtain ⟨hback, -, hslash⟩ := splitLast_eq_iff.1 h
  have hprefix : before ++ part <+: p.text := by
    rw [← List.reverse_reverse (before ++ part), ← hback]
    exact reverse_dropTail_isPrefix p
  rw [← isAbsolute_of_isPrefix hprefix (List.append_ne_nil_of_right_ne_nil _ hpart),
    isAbsolute_append_part hslash]

theorem bodyComponents_of_splitLast (h : p.splitLast = (before, part)) :
    bodyComponents p.text = bodyComponents before ++ (Component.ofPart? part).toList := by
  obtain ⟨hback, hbefore, hslash⟩ := splitLast_eq_iff.1 h
  rw [← bodyComponents_of_not_mem hslash, ← bodyComponents_append_of_atBoundary hbefore,
    ← List.reverse_reverse (before ++ part), ← hback, bodyComponents_dropTail, List.reverse_reverse]

/-- The last part is the last step, where it says something. -/
theorem steps_of_splitLast {c : Component} (h : p.splitLast = (before, part))
    (hc : Component.ofPart? part = some c) : p.steps = (⟨before⟩ : FilePath).steps ++ [c] := by
  have hpart : part ≠ [] := by
    rintro rfl
    contradiction
  rw [steps_eq, isAbsolute_of_splitLast h hpart, bodyComponents_of_splitLast h, hc,
    ← List.append_assoc, ← steps_eq]
  rfl

/-- A last part that says nothing has nothing in front of it. -/
theorem eq_nil_of_splitLast (h : p.splitLast = (before, part))
    (hpart : Component.ofPart? part = none) : before = [] := by
  obtain ⟨hback, hbefore, -⟩ := splitLast_eq_iff.1 h
  obtain ⟨hslash, hdot⟩ := dropTail_ne p.text.reverse
  refine hbefore.resolve_right fun ⟨s, hs⟩ => ?_
  subst hs
  rcases ofPart?_eq_none_iff.1 hpart with rfl | rfl
  · exact hslash s.reverse (hback.trans (by simp))
  · exact hdot s.reverse (hback.trans (by simp))

/-! ## File names -/

section Name

variable {n : Text}

theorem IsFileName.ne_nil (h : IsFileName n) : n ≠ [] := (ofPart?_eq_name_iff.1 h.names).1

theorem splitFileName?_eq_some_iff : p.splitFileName? = some (before, n) ↔
    p.splitLast = (before, n) ∧ Component.ofPart? n = some (.name n) := by
  rw [splitFileName?]
  obtain ⟨b, part⟩ := p.splitLast
  dsimp only
  split
  case h_1 m hm =>
    obtain rfl := eq_of_ofPart?_eq_name hm
    rw [Option.some.injEq]
    refine (and_iff_left_of_imp fun h => ?_).symm
    obtain rfl := (Prod.mk.inj h).2
    exact hm
  case h_2 hnot =>
    refine iff_of_false nofun ?_
    rintro ⟨h, hname⟩
    obtain ⟨rfl, rfl⟩ := Prod.mk.inj h
    exact hnot _ hname

/-- What a path is in front of its file name, and the file name. -/
theorem of_splitFileName? (h : p.splitFileName? = some (before, n)) :
    dropTail p.text.reverse = (before ++ n).reverse ∧ AtBoundary before ∧ IsFileName n := by
  obtain ⟨hlast, hname⟩ := splitFileName?_eq_some_iff.1 h
  obtain ⟨hback, hbefore, hslash⟩ := splitLast_eq_iff.1 hlast
  exact ⟨hback, hbefore, hname, hslash⟩

theorem isAbsolute_of_splitFileName? (h : p.splitFileName? = some (before, n)) :
    p.isAbsolute = (⟨before⟩ : FilePath).isAbsolute :=
  isAbsolute_of_splitLast (splitFileName?_eq_some_iff.1 h).1 (of_splitFileName? h).2.2.ne_nil

theorem steps_of_splitFileName? (h : p.splitFileName? = some (before, n)) :
    p.steps = (⟨before⟩ : FilePath).steps ++ [.name n] := by
  obtain ⟨hlast, hname⟩ := splitFileName?_eq_some_iff.1 h
  exact steps_of_splitLast hlast hname

theorem parent?_of_splitFileName? (h : p.splitFileName? = some (before, n)) :
    p.parent? = some (⟨before⟩ : FilePath).trimTail := by
  rw [parent?, (splitFileName?_eq_some_iff.1 h).1]
  exact if_neg (of_splitFileName? h).2.2.ne_nil

theorem isFileName_of_fileName? (h : p.fileName? = some n) : IsFileName n := by
  obtain ⟨⟨before, m⟩, hsplit, rfl⟩ := Option.map_eq_some_iff.1 h
  exact (of_splitFileName? hsplit).2.2

/-- **The file name is the last step**, where that is a name. -/
theorem fileName?_eq_some_iff : p.fileName? = some n ↔ p.steps.getLast? = some (.name n) := by
  constructor
  · intro h
    obtain ⟨⟨before, m⟩, hsplit, rfl⟩ := Option.map_eq_some_iff.1 h
    rw [steps_of_splitFileName? hsplit, List.getLast?_concat]
  · intro h
    rcases hlast : p.splitLast with ⟨before, part⟩
    cases hc : Component.ofPart? part with
    | some c =>
      rw [steps_of_splitLast hlast hc, List.getLast?_concat] at h
      obtain rfl := Option.some.inj h
      obtain rfl := eq_of_ofPart?_eq_name hc
      rw [fileName?, splitFileName?_eq_some_iff.2 ⟨hlast, hc⟩]
      rfl
    | none =>
      rw [steps_eq, bodyComponents_of_splitLast hlast, eq_nil_of_splitLast hlast hc, hc] at h
      split_ifs at h
      · exact nomatch Option.some.inj h
      · contradiction

theorem splitFileName?_append (hbefore : AtBoundary before) (hname : IsFileName n) :
    (⟨before ++ n⟩ : FilePath).splitFileName? = some (before, n) := by
  have hsome : Component.ofPart? n ≠ none := hname.names ▸ Option.some_ne_none _
  exact splitFileName?_eq_some_iff.2
    ⟨splitLast_append hbefore hname.noSeparator hsome, hname.names⟩

theorem AtBoundary.append {lead : Text} (hlead : AtBoundary lead) (hbefore : AtBoundary before) :
    AtBoundary (lead ++ before) := by
  rcases hbefore with rfl | ⟨s, rfl⟩
  · rwa [List.append_nil]
  · exact .inr ⟨lead ++ s, (List.append_assoc _ _ _).symm⟩

/-- Names behind one boundary stand behind one boundary, whatever they are joined to. -/
theorem exists_join_append (base : FilePath) (hbefore : AtBoundary before) : ∃ lead, AtBoundary lead ∧
    (⟨lead⟩ : FilePath).steps = (base.join ⟨before⟩).steps ∧
      ∀ n, IsFileName n → base.join ⟨before ++ n⟩ = ⟨lead ++ n⟩ := by
  cases habs : (⟨before⟩ : FilePath).isAbsolute with
  | true =>
    refine ⟨before, hbefore, ?_, fun n hn => ?_⟩
    · rw [join, if_pos habs]
    · rw [join, isAbsolute_append_part hn.noSeparator, if_pos habs]
  | false =>
    obtain ⟨lead, hlead, -, hjoin⟩ := exists_lead base
    refine ⟨lead ++ before, hlead.append hbefore, by rw [hjoin _ habs], fun n hn => ?_⟩
    rw [hjoin _ ((isAbsolute_append_part hn.noSeparator).trans habs), List.append_assoc]

end Name

end WireSchema.FilePath
