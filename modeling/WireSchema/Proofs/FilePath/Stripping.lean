import WireSchema.Proofs.FilePath.Components

/-!
# Proofs/FilePath/Stripping — what is left of a path behind another

Stripping compares components and keeps the text behind them, so that the path that is left is a
relative one that leads, from where the prefix leads, to where the whole path does.  A prefix that is
the empty text has no components: nothing is compared then, and an absolute path stays absolute.

* `exists_stripPrefix?_iff` — there is something left exactly when the components begin alike.
* `steps_of_stripPrefix?` — the steps of the prefix, then those of what is left.
* `isAbsolute_of_stripPrefix?` — what is left is absolute behind the empty text only.
-/

namespace WireSchema.FilePath

variable {p base rest : FilePath} {t t' part : Text} {c : Component} {cs : List Component}

/-- A text as a path, without what says nothing at its two ends. -/
def bare (t : Text) : FilePath := ⟨(dropTail (dropSilent t).reverse).reverse⟩

/-! ## Parts that say nothing -/

theorem bodyComponents_dropSilent (t : Text) : bodyComponents (dropSilent t) = bodyComponents t := by
  fun_induction dropSilent t with
  | case1 r ih => exact ih.trans (bodyComponents_slash_cons r).symm
  | case2 => rfl
  | case3 r ih => exact ih.trans (bodyComponents_append ['.'] r).symm
  | case4 t => rfl

/-- What is left begins with a part that says something. -/
theorem dropSilent_ne (t : Text) : (∀ r, dropSilent t ≠ '/' :: r) ∧ dropSilent t ≠ ['.'] ∧
    ∀ r, dropSilent t ≠ '.' :: '/' :: r := by
  fun_induction dropSilent t with
  | case1 r ih => exact ih
  | case2 => exact ⟨nofun, nofun, nofun⟩
  | case3 r ih => exact ih
  | case4 t hslash hdot hdots => exact ⟨hslash, hdot, hdots⟩

/-! ## The first component -/

theorem text_of_ofPart? (h : Component.ofPart? part = some c) : c.text = part := by
  rw [Component.ofPart?.eq_def] at h
  split at h
  all_goals first
    | contradiction
    | exact (Option.some.inj h) ▸ rfl

theorem ofPart?_text_of_mem (h : c ∈ bodyComponents t) : Component.ofPart? c.text = some c := by
  obtain ⟨part, -, hpart⟩ := List.mem_filterMap.1 h
  rw [text_of_ofPart? hpart, hpart]

theorem bodyComponents_eq_append (t : Text) : bodyComponents t =
    (Component.ofPart? (t.takeWhile (· ≠ '/'))).toList ++ bodyComponents (t.dropWhile (· ≠ '/')) := by
  rw [← bodyComponents_of_not_mem (not_mem_takeWhile t)]
  conv_lhs => rw [← List.takeWhile_append_dropWhile (p := (· ≠ '/')) (l := t)]
  rcases exists_dropWhile_eq t with hnil | ⟨r, hr⟩
  · rw [hnil, List.append_nil]
    exact (List.append_nil _).symm
  · rw [hr, bodyComponents_append, bodyComponents_slash_cons]

/-- Behind the parts that say nothing stands one that says something, or nothing at all. -/
theorem dropSilent_eq_nil_of_first
    (h : Component.ofPart? ((dropSilent t).takeWhile (· ≠ '/')) = none) : dropSilent t = [] := by
  obtain ⟨hslash, hdot, hdots⟩ := dropSilent_ne t
  have hsplit : (dropSilent t).takeWhile (· ≠ '/') ++ (dropSilent t).dropWhile (· ≠ '/') =
      dropSilent t := List.takeWhile_append_dropWhile
  rcases ofPart?_eq_none_iff.1 h with hpart | hpart <;>
    rcases exists_dropWhile_eq (dropSilent t) with hrest | ⟨r, hrest⟩ <;>
    rw [hpart, hrest] at hsplit
  · exact hsplit.symm
  · exact absurd hsplit.symm (hslash r)
  · exact absurd hsplit.symm hdot
  · exact absurd hsplit.symm (hdots r)

/-- **The first part that says something is the first component.** -/
theorem bodyComponents_eq_cons_iff : bodyComponents t = c :: cs ↔
    Component.ofPart? ((dropSilent t).takeWhile (· ≠ '/')) = some c ∧
      bodyComponents ((dropSilent t).dropWhile (· ≠ '/')) = cs := by
  rw [← bodyComponents_dropSilent, bodyComponents_eq_append]
  cases hfirst : Component.ofPart? ((dropSilent t).takeWhile (· ≠ '/')) with
  | some d => simp
  | none =>
    rw [dropSilent_eq_nil_of_first hfirst]
    exact iff_of_false nofun nofun

theorem bodyComponents_eq_nil_iff : bodyComponents t = [] ↔ dropSilent t = [] := by
  rw [← bodyComponents_dropSilent]
  refine ⟨fun h => ?_, fun h => by rw [h]; rfl⟩
  rw [bodyComponents_eq_append, List.append_eq_nil_iff] at h
  exact dropSilent_eq_nil_of_first (Option.toList_eq_nil_iff.1 h.1)

/-! ## Stripped parts -/

theorem stripParts_cons (h : Component.ofPart? c.text = some c) (t : Text) :
    stripParts ((c :: cs).map Component.text) t =
      if Component.ofPart? ((dropSilent t).takeWhile (· ≠ '/')) = some c
      then stripParts (cs.map Component.text) ((dropSilent t).dropWhile (· ≠ '/')) else none := by
  have hpart : (dropSilent t).takeWhile (· ≠ '/') = c.text ↔
      Component.ofPart? ((dropSilent t).takeWhile (· ≠ '/')) = some c :=
    ⟨fun heq => heq ▸ h, fun heq => (text_of_ofPart? heq).symm⟩
  rw [List.map_cons, stripParts]
  simp only [hpart]

/-- **What is left has the components behind those that are stripped.** -/
theorem bodyComponents_of_stripParts : ∀ {cs : List Component} {t : Text},
    (∀ c ∈ cs, Component.ofPart? c.text = some c) →
    stripParts (cs.map Component.text) t = some t' → bodyComponents t = cs ++ bodyComponents t'
  | [], t, _, h => by
      obtain rfl := Option.some.inj h
      rfl
  | c :: cs, t, hcs, h => by
      rw [stripParts_cons (hcs c List.mem_cons_self)] at h
      split_ifs at h with hfirst
      refine bodyComponents_eq_cons_iff.2 ⟨hfirst, ?_⟩
      exact bodyComponents_of_stripParts (fun d hd => hcs d (List.mem_cons_of_mem _ hd)) h

theorem exists_stripParts_iff : ∀ {cs : List Component} {t : Text},
    (∀ c ∈ cs, Component.ofPart? c.text = some c) →
    ((∃ t', stripParts (cs.map Component.text) t = some t') ↔ cs <+: bodyComponents t)
  | [], t, _ => iff_of_true ⟨t, rfl⟩ (List.nil_prefix)
  | c :: cs, t, hcs => by
      have ih := @exists_stripParts_iff cs ((dropSilent t).dropWhile (· ≠ '/'))
        fun d hd => hcs d (List.mem_cons_of_mem _ hd)
      rw [stripParts_cons (hcs c List.mem_cons_self)]
      by_cases hfirst : Component.ofPart? ((dropSilent t).takeWhile (· ≠ '/')) = some c
      · rw [if_pos hfirst, ih, bodyComponents_eq_cons_iff.2 ⟨hfirst, rfl⟩, List.cons_prefix_cons]
        exact (and_iff_right rfl).symm
      · rw [if_neg hfirst]
        refine iff_of_false nofun fun ⟨rest, hrest⟩ => ?_
        exact hfirst (bodyComponents_eq_cons_iff.1 hrest.symm).1

/-! ## Stripped paths -/

theorem head?_split (t : Text) : (Text.split '/' t).head? = some (t.takeWhile (· ≠ '/')) := by
  conv_lhs => rw [← List.takeWhile_append_dropWhile (p := (· ≠ '/')) (l := t)]
  rcases exists_dropWhile_eq t with hnil | ⟨r, hr⟩
  · rw [hnil, List.append_nil, Text.split_of_not_mem (not_mem_takeWhile t)]
    rfl
  · rw [hr, Text.split_append_cons (not_mem_takeWhile t)]
    rfl

/-- A path begins at its root, with a `.`, or with a part that says something. -/
theorem components_cases (p : FilePath) :
    (∃ r, p.text = '/' :: r ∧ p.components = .root :: bodyComponents r) ∨
    (∃ r, p.text = '.' :: r ∧ p.components = .current :: bodyComponents r) ∨
    (dropSilent p.text = p.text ∧ p.components = bodyComponents p.text) := by
  rw [components]
  split
  case h_1 r htext => exact .inl ⟨r, htext, rfl⟩
  case h_2 hroot =>
    refine .inr ?_
    have hsplit : p.text.takeWhile (· ≠ '/') ++ p.text.dropWhile (· ≠ '/') = p.text :=
      List.takeWhile_append_dropWhile
    split_ifs with hdot <;> rw [head?_split, Option.some.injEq] at hdot
    · rw [hdot, List.singleton_append] at hsplit
      refine .inl ⟨_, hsplit.symm, ?_⟩
      rw [bodyComponents_eq_append p.text, hdot]
      rfl
    · refine .inr ⟨dropSilent.eq_4 _ (fun r h => hroot r h) (fun h => ?_) (fun r h => ?_), rfl⟩
      · rw [h] at hdot; exact hdot rfl
      · rw [h] at hdot; exact hdot rfl

theorem components_eq_nil_iff : p.components = [] ↔ p.text = [] := by
  rcases components_cases p with ⟨r, htext, hp⟩ | ⟨r, htext, hp⟩ | ⟨hsilent, hp⟩
  · rw [hp, htext]
    exact iff_of_false nofun nofun
  · rw [hp, htext]
    exact iff_of_false nofun nofun
  · rw [hp, bodyComponents_eq_nil_iff, hsilent]

/-- The components behind the first one are read behind a leading `/` or `.`, and where there is none
the first one is read with them. -/
theorem components_eq_cons (h : p.components = c :: cs) :
    ((c = .root ∨ c = .current) ∧ bodyComponents p.text.tail = cs) ∨
    (c ≠ .root ∧ c ≠ .current ∧ bodyComponents p.text = c :: cs) := by
  rcases components_cases p with ⟨r, htext, hp⟩ | ⟨r, htext, hp⟩ | ⟨-, hp⟩ <;> rw [hp] at h
  · obtain ⟨rfl, rfl⟩ := List.cons.inj h
    exact .inl ⟨.inl rfl, by rw [htext]; rfl⟩
  · obtain ⟨rfl, rfl⟩ := List.cons.inj h
    exact .inl ⟨.inr rfl, by rw [htext]; rfl⟩
  · have hc : Component.ofPart? c.text = some c := ofPart?_text_of_mem (h ▸ List.mem_cons_self)
    refine .inr ⟨?_, ?_, h⟩ <;> rintro rfl
    · exact absurd hc (by decide)
    · exact absurd hc (by decide)

/-- What stripping does behind a prefix that has components: a leading `/` or `.` is set apart. -/
theorem exists_stripParts (h : base.components = c :: cs) (hc : p.components.head? = some c) :
    ∃ lead qs u, (∀ q ∈ qs, Component.ofPart? q.text = some q) ∧
      base.components = lead ++ qs ∧ p.components = lead ++ bodyComponents u ∧
      p.stripPrefix? base = (stripParts (qs.map Component.text) u).map bare := by
  obtain ⟨ds, hp⟩ := List.head?_eq_some_iff.1 hc
  rcases components_eq_cons h with ⟨hlead, hbase⟩ | ⟨hroot, hcurrent, hbase⟩
  · have hrest : bodyComponents p.text.tail = ds := by
      rcases components_eq_cons hp with ⟨-, hrest⟩ | ⟨hroot, hcurrent, -⟩
      · exact hrest
      · exact (hlead.elim hroot hcurrent).elim
    refine ⟨[c], cs, p.text.tail, fun q hq => ofPart?_text_of_mem (hbase.symm ▸ hq), h,
      by rw [hrest]; exact hp, ?_⟩
    rw [stripPrefix?, h]
    rcases hlead with rfl | rfl <;> exact if_pos hc
  · have hrest : bodyComponents p.text = c :: ds := by
      rcases components_eq_cons hp with ⟨hlead, -⟩ | ⟨-, -, hrest⟩
      · exact (hlead.elim hroot hcurrent).elim
      · exact hrest
    refine ⟨[], c :: cs, p.text, fun q hq => ofPart?_text_of_mem (hbase.symm ▸ hq), h,
      by rw [hrest]; exact hp, ?_⟩
    rw [stripPrefix?, h]
    cases c with
    | root => exact absurd rfl hroot
    | current => exact absurd rfl hcurrent
    | parent => exact if_pos hc
    | name n => exact if_pos hc

/-- **Something is left exactly when the components begin alike.** -/
theorem exists_stripPrefix?_iff :
    (∃ rest, p.stripPrefix? base = some rest) ↔ base.components <+: p.components := by
  cases h : base.components with
  | nil => exact iff_of_true ⟨_, by rw [stripPrefix?, h]⟩ List.nil_prefix
  | cons c cs =>
    by_cases hc : p.components.head? = some c
    · obtain ⟨lead, qs, u, hqs, hbase, hp, hstrip⟩ := exists_stripParts h hc
      rw [← h, hbase, hp, hstrip, List.prefix_append_right_inj, ← exists_stripParts_iff hqs]
      constructor
      · rintro ⟨rest, hrest⟩
        obtain ⟨t, ht, -⟩ := Option.map_eq_some_iff.1 hrest
        exact ⟨t, ht⟩
      · rintro ⟨t, ht⟩
        exact ⟨_, by rw [ht]; rfl⟩
    · refine iff_of_false ?_ fun ⟨rest, hrest⟩ => hc (by rw [← hrest]; rfl)
      rw [stripPrefix?, h]
      dsimp only
      rw [if_neg hc]
      exact nofun

theorem isAbsolute_bare (t : Text) : (bare t).isAbsolute = false := by
  refine Bool.eq_false_iff.2 fun habs => ?_
  obtain ⟨r, hr⟩ := isAbsolute_iff.1 habs
  obtain ⟨s, hs⟩ := reverse_dropTail_isPrefix ⟨dropSilent t⟩
  exact (dropSilent_ne t).1 (r ++ s) (hs.symm.trans (congrArg (· ++ s) hr))

theorem steps_bare (t : Text) : (bare t).steps = bodyComponents t := by
  rw [steps_eq, isAbsolute_bare, if_neg Bool.false_ne_true, List.nil_append, bare,
    bodyComponents_dropTail, List.reverse_reverse, bodyComponents_dropSilent]

/-- What is left of a path, behind a prefix without components and behind one with some. -/
theorem of_stripPrefix? (h : p.stripPrefix? base = some rest) :
    (base.components = [] ∧ rest = p.trimTail) ∨
    (base.components ≠ [] ∧
      ∃ t, p.components = base.components ++ bodyComponents t ∧ rest = bare t) := by
  cases hbase : base.components with
  | nil =>
    rw [stripPrefix?, hbase] at h
    exact .inl ⟨rfl, (Option.some.inj h).symm⟩
  | cons c cs =>
    have hc : p.components.head? = some c := by
      obtain ⟨ds, hds⟩ := exists_stripPrefix?_iff.1 ⟨rest, h⟩
      rw [← hds, hbase]
      rfl
    obtain ⟨lead, qs, u, hqs, hlead, hp, hstrip⟩ := exists_stripParts hbase hc
    obtain ⟨t, ht, hrest⟩ := Option.map_eq_some_iff.1 (hstrip.symm.trans h)
    refine .inr ⟨List.cons_ne_nil c cs, t, ?_, hrest.symm⟩
    rw [← hbase, hlead, hp, bodyComponents_of_stripParts hqs ht, List.append_assoc]

/-- **What is left leads from where the prefix leads to where the path leads.** -/
theorem steps_of_stripPrefix? (h : p.stripPrefix? base = some rest) :
    p.steps = base.steps ++ rest.steps := by
  rcases of_stripPrefix? h with ⟨hbase, rfl⟩ | ⟨-, t, hp, rfl⟩
  · have hnil : base.steps = [] := by rw [steps, hbase]; rfl
    rw [hnil, steps_trimTail, List.nil_append]
  · rw [steps_bare, steps, steps, hp, List.filter_append, filter_bodyComponents]

/-- **What is left is a relative path**, but behind the empty text. -/
theorem isAbsolute_of_stripPrefix? (h : p.stripPrefix? base = some rest) :
    rest.isAbsolute = true ↔ base.text = [] ∧ p.isAbsolute = true := by
  rw [← components_eq_nil_iff]
  rcases of_stripPrefix? h with ⟨hbase, rfl⟩ | ⟨hbase, t, -, rfl⟩
  · rw [isAbsolute_trimTail, and_iff_right hbase]
  · rw [isAbsolute_bare]
    exact iff_of_false Bool.false_ne_true fun hnil => hbase hnil.1

end WireSchema.FilePath
