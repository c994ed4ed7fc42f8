import WireSchema.Proofs.FileSystem.Write

/-!
# Proofs/FileSystem/Rename — what a rename changes

A rename takes what stands at the spot of one path, with all below it, to the spot of another.  The
two spots are **apart**: neither lies below the other, unless they are the same and nothing happens.

* `node?_move_target`, `node?_move_source`, `node?_move_of_not_below` — the tree after a move, at
  every location.
* `renamed_of_rename` — what a rename of paths changes, and that it changes nothing else.
* `IsTree.rename` — a tree stays a tree.
-/

namespace WireSchema.FileSystem

/-! ## Association lists under new keys -/

theorem lookup_map_key {f : Location → Location} {k l : Location} :
    ∀ {es : List (Location × Node)}, (∀ e ∈ es, f e.1 = l ↔ e.1 = k) →
      (es.map fun e => (f e.1, e.2)).lookup l = es.lookup k
  | [], _ => rfl
  | (m, n) :: es, h => by
      have hm : f m = l ↔ m = k := h (m, n) List.mem_cons_self
      have hbeq : (l == f m) = (k == m) := by
        rw [beq_eq_beq, eq_comm, hm]
        exact eq_comm
      rw [List.map_cons, List.lookup_cons, List.lookup_cons, hbeq,
        lookup_map_key fun e he => h e (List.mem_cons_of_mem _ he)]

theorem lookup_map_key_eq_none {f : Location → Location} {l : Location}
    {es : List (Location × Node)} (h : ∀ e ∈ es, f e.1 ≠ l) :
    (es.map fun e => (f e.1, e.2)).lookup l = none := by
  refine List.lookup_eq_none_iff.2 fun e he => ?_
  obtain ⟨d, hd, rfl⟩ := List.mem_map.1 he
  exact bne_iff_ne.2 (h d hd).symm

/-! ## Moving -/

/-- Where a location goes when `a` goes to `b`. -/
def relocate (a b l : Location) : Location :=
  if a.isPrefixOf l then b ++ l.drop a.length else l

theorem relocate_append (a b r : Location) : relocate a b (a ++ r) = b ++ r := by
  rw [relocate, if_pos (List.isPrefixOf_iff_prefix.2 (List.prefix_append a r)), List.drop_left]

theorem relocate_of_not_below {a l : Location} (b : Location) (h : ¬ a <+: l) :
    relocate a b l = l := by
  rw [relocate, if_neg (mt List.isPrefixOf_iff_prefix.1 h)]

theorem move_eq (fs : FileSystem) (a b : Location) :
    fs.move a b = { fs with
      nodes := (fs.nodes.filter fun e => e.1 ≠ b).map fun e => (relocate a b e.1, e.2) } := by
  rw [move]
  congr 2
  funext e
  rw [relocate]
  split_ifs
  · rfl
  · rfl

section Move

variable {fs : FileSystem} {a b : Location}

/-- Locations that are not empty are those of `FileSystem.nodes`. -/
theorem node?_eq_lookup {l : Location} (h : l ≠ []) : fs.node? l = fs.nodes.lookup l := if_neg h

theorem ne_nil_of_not_below (h : ¬ a <+: b) : a ≠ [] := by
  rintro rfl
  exact h List.nil_prefix

/-- Nothing lies below both of two locations that are apart. -/
theorem append_ne_of_apart (hab : ¬ a <+: b) (hba : ¬ b <+: a) (r s : Location) :
    a ++ r ≠ b ++ s := by
  intro h
  have hb : b <+: a ++ r := h ▸ List.prefix_append b s
  exact (List.prefix_or_prefix_of_prefix (List.prefix_append a r) hb).elim hab hba

/-- **What stood at the source stands at the target**, with whatever was below it, where nothing was
in the way. -/
theorem node?_move_target (hab : ¬ a <+: b) (hba : ¬ b <+: a) {r : Location}
    (hfree : r ≠ [] → fs.node? (b ++ r) = none) :
    (fs.move a b).node? (b ++ r) = fs.node? (a ++ r) := by
  have ha : a ++ r ≠ [] := List.append_ne_nil_of_left_ne_nil (ne_nil_of_not_below hab) r
  have hb : b ++ r ≠ [] := List.append_ne_nil_of_left_ne_nil (ne_nil_of_not_below hba) r
  have hne : a ++ r ≠ b := by simpa using append_ne_of_apart hab hba r []
  rw [node?_eq_lookup ha, node?_eq_lookup hb, move_eq]
  refine (lookup_map_key fun e he => ?_).trans (lookup_filter_ne hne)
  obtain ⟨hmem, hkey⟩ := List.mem_filter.1 he
  constructor
  · intro h
    by_cases hp : a <+: e.1
    · obtain ⟨s, hs⟩ := hp
      rw [← hs, relocate_append] at h
      rw [← hs, List.append_cancel_left h]
    · rw [relocate_of_not_below b hp] at h
      have hr : r ≠ [] := by
        rintro rfl
        exact absurd (h.trans (List.append_nil b)) (of_decide_eq_true hkey)
      have hnone := hfree hr
      rw [node?_eq_lookup hb, List.lookup_eq_none_iff] at hnone
      exact absurd h.symm (bne_iff_ne.1 (hnone e hmem))
  · intro h
    rw [h, relocate_append]

theorem node?_move_self (hab : ¬ a <+: b) (hba : ¬ b <+: a) :
    (fs.move a b).node? b = fs.node? a := by
  have h : (fs.move a b).node? (b ++ []) = fs.node? (a ++ []) :=
    node?_move_target hab hba fun hr => absurd rfl hr
  rwa [List.append_nil, List.append_nil] at h

/-- **Nothing is left at the source.** -/
theorem node?_move_source (hab : ¬ a <+: b) (hba : ¬ b <+: a) (r : Location) :
    (fs.move a b).node? (a ++ r) = none := by
  have ha : a ++ r ≠ [] := List.append_ne_nil_of_left_ne_nil (ne_nil_of_not_below hab) r
  rw [node?_eq_lookup ha, move_eq]
  refine lookup_map_key_eq_none fun e _ h => ?_
  by_cases hp : a <+: e.1
  · obtain ⟨s, hs⟩ := hp
    rw [← hs, relocate_append] at h
    exact append_ne_of_apart hab hba r s h.symm
  · rw [relocate_of_not_below b hp] at h
    exact hp (h ▸ List.prefix_append a r)

/-- **Everything else stays where it was.** -/
theorem node?_move_of_not_below {l : Location} (ha : ¬ a <+: l) (hb : ¬ b <+: l) :
    (fs.move a b).node? l = fs.node? l := by
  by_cases hl : l = []
  · rw [hl]
    rfl
  have hne : l ≠ b := by
    rintro rfl
    exact hb (List.prefix_refl l)
  rw [node?_eq_lookup hl, node?_eq_lookup hl, move_eq]
  refine (lookup_map_key fun e _ => ⟨fun h => ?_, fun h => ?_⟩).trans (lookup_filter_ne hne)
  · by_cases hp : a <+: e.1
    · obtain ⟨s, hs⟩ := hp
      rw [← hs, relocate_append] at h
      exact absurd (h ▸ List.prefix_append b s) hb
    · rwa [relocate_of_not_below b hp] at h
  · rw [h, relocate_of_not_below b ha]

/-- **A move keeps a tree a tree**, when its target is in a directory. -/
theorem IsTree.move {directory : Location} {name : Text} (ht : fs.IsTree)
    (hab : ¬ a <+: directory ++ [name]) (hba : ¬ directory ++ [name] <+: a)
    (hdir : fs.node? directory = some .directory)
    (hfree : ∀ r ≠ [], fs.node? (directory ++ [name] ++ r) = none) :
    (fs.move a (directory ++ [name])).IsTree := by
  intro l x hx
  by_cases hb : directory ++ [name] <+: l ++ [x]
  · rcases List.prefix_concat_iff.1 hb with h | ⟨r, rfl⟩
    · obtain ⟨rfl, -⟩ := List.append_inj' h rfl
      have hself : ¬ directory ++ [name] <+: directory := fun hp => by
        have hlength := hp.length_le
        rw [List.length_append] at hlength
        exact absurd hlength (by simp)
      rwa [node?_move_of_not_below (fun hp => hab (hp.trans (List.prefix_append _ _))) hself]
    · have hnext : r ++ [x] ≠ [] := List.concat_ne_nil x r
      rw [List.append_assoc, node?_move_target hab hba fun _ => hfree _ hnext,
        ← List.append_assoc] at hx
      rw [node?_move_target hab hba (hfree r)]
      exact ht _ x hx
  · by_cases ha : a <+: l ++ [x]
    · obtain ⟨r, hr⟩ := ha
      rw [← hr, node?_move_source hab hba] at hx
      exact absurd rfl hx
    · have hup := List.prefix_append l [x]
      rw [node?_move_of_not_below ha hb] at hx
      rw [node?_move_of_not_below (fun hp => ha (hp.trans hup)) (fun hp => hb (hp.trans hup))]
      exact ht l x hx

end Move

theorem node?_eq_none_of_isEmptyBelow {fs : FileSystem} {b r : Location} (hb : b ≠ []) (hr : r ≠ [])
    (h : fs.isEmptyBelow b = true) : fs.node? (b ++ r) = none := by
  rw [node?_eq_lookup (List.append_ne_nil_of_left_ne_nil hb r), List.lookup_eq_none_iff]
  intro e he
  refine bne_iff_ne.2 fun hk => ?_
  rcases Bool.or_eq_true_iff.1 (List.all_eq_true.1 h e he) with h | h
  · rw [← hk] at h
    exact hr (List.append_right_eq_self.1 (eq_of_beq h))
  · rw [← hk, List.isPrefixOf_iff_prefix.2 (List.prefix_append b r)] at h
    contradiction

/-- In a tree, nothing stands below a location that holds no directory or an empty one. -/
theorem IsTree.node?_eq_none_below {fs : FileSystem} (ht : fs.IsTree) {b : Location} (hb : b ≠ [])
    (h : fs.node? b = some .directory → fs.isEmptyBelow b = true) :
    ∀ r ≠ [], fs.node? (b ++ r) = none := by
  intro r hr
  by_contra hn
  exact hn (node?_eq_none_of_isEmptyBelow hb hr (h (ht.node?_of_append hr hn)))

/-! ## Renaming -/

/-- What a rename changes: what is at `a` is moved to `b`.  A rename of a location to itself changes
nothing. -/
structure Renamed (before after : FileSystem) (a b : Location) : Prop where
  current : after.current = before.current
  present : before.node? a ≠ none
  arrived : after.node? b = before.node? a
  /-- What was below moves with it. -/
  below : before.IsTree → ∀ r, after.node? (b ++ r) = before.node? (a ++ r)
  gone : ∀ r, ¬ b <+: a ++ r → after.node? (a ++ r) = none
  rest : ∀ l, ¬ a <+: l → ¬ b <+: l → after.node? l = before.node? l

/-- A location is not below one that it is apart from. -/
theorem not_prefix_concat {a l : Location} {name : Text} (h : ¬ a <+: l) (hne : a ≠ l ++ [name]) :
    ¬ a <+: l ++ [name] := fun hp => (List.prefix_concat_iff.1 hp).elim hne h

/-- **What can be renamed**: something at a spot, to a spot apart from it that is free, holds a
file, or holds an empty directory. -/
theorem of_rename_eq_ok {fs after : FileSystem} {p q : FilePath} (h : fs.rename p q = .ok after) :
    ∃ fromDir fromName fromClosed toDir toName toClosed,
      fs.slot p = .ok ⟨fromDir, .plain fromName, fromClosed⟩
        ∧ fs.slot q = .ok ⟨toDir, .plain toName, toClosed⟩
        ∧ fs.node? (fromDir ++ [fromName]) ≠ none
        ∧ ¬ fromDir ++ [fromName] <+: toDir ∧ ¬ toDir ++ [toName] <+: fromDir
        ∧ (fromDir ++ [fromName] = toDir ++ [toName] ∧ after = fs
          ∨ fromDir ++ [fromName] ≠ toDir ++ [toName]
            ∧ after = fs.move (fromDir ++ [fromName]) (toDir ++ [toName])
            ∧ (fs.node? (toDir ++ [toName]) = some .directory →
              fs.isEmptyBelow (toDir ++ [toName]) = true)) := by
  rw [rename] at h
  split_ifs at h
  split at h
  · contradiction
  · contradiction
  · contradiction
  · contradiction
  rename_i fromDir fromName fromClosed toDir toName toClosed hfrom hto
  dsimp only at h
  split at h
  · contradiction
  split at h
  · contradiction
  rename_i node hnode
  have hpresent : fs.node? (fromDir ++ [fromName]) ≠ none := by
    rw [hnode]
    exact Option.some_ne_none _
  split at h
  · contradiction
  split at h
  · contradiction
  split at h
  · contradiction
  rename_i hout
  split at h
  · contradiction
  rename_i hin
  refine ⟨_, _, _, _, _, _, hfrom, hto, hpresent, mt List.isPrefixOf_iff_prefix.2 hout,
    mt List.isPrefixOf_iff_prefix.2 hin, ?_⟩
  split at h
  · rename_i hsame
    exact .inl ⟨hsame, (Except.ok.inj h).symm⟩
  rename_i hsame
  refine .inr ⟨hsame, ?_⟩
  split at h
  · contradiction
  · contradiction
  · split at h
    · rename_i hempty
      exact ⟨(Except.ok.inj h).symm, fun _ => hempty⟩
    · contradiction
  · rename_i node _ _ _ _ hfile hdirectory
    refine ⟨(Except.ok.inj h).symm, fun hb => ?_⟩
    rcases node with _ | content
    · exact absurd hb (hdirectory rfl)
    · exact absurd hb (hfile content rfl)

theorem Renamed.refl {fs : FileSystem} {a : Location} (h : fs.node? a ≠ none) :
    Renamed fs fs a a where
  current := rfl
  present := h
  arrived := rfl
  below _ _ := rfl
  gone r hr := absurd (List.prefix_append a r) hr
  rest _ _ _ := rfl

/-- **Renaming moves what is at one spot to the other and touches nothing else.** -/
theorem renamed_of_rename {fs after : FileSystem} {p q : FilePath} (h : fs.rename p q = .ok after) :
    ∃ a b, fs.spot? p = some a ∧ fs.spot? q = some b ∧ Renamed fs after a b := by
  obtain ⟨fromDir, fromName, _, toDir, toName, _, hfrom, hto, hpresent, hout, hin, hmove⟩ :=
    of_rename_eq_ok h
  refine ⟨_, _, spot?_of_slot hfrom, spot?_of_slot hto, ?_⟩
  rcases hmove with ⟨hsame, rfl⟩ | ⟨hne, rfl, hempty⟩
  · exact hsame ▸ .refl hpresent
  have hab := not_prefix_concat hout hne
  have hba := not_prefix_concat hin hne.symm
  exact
    { current := rfl
      present := hpresent
      arrived := node?_move_self hab hba
      below := fun ht r => node?_move_target hab hba
        (ht.node?_eq_none_below (List.concat_ne_nil toName toDir) hempty r)
      gone := fun r _ => node?_move_source hab hba r
      rest := fun _ => node?_move_of_not_below }

/-- Renaming keeps a tree a tree. -/
theorem IsTree.rename {fs after : FileSystem} {p q : FilePath} (ht : fs.IsTree)
    (h : fs.rename p q = .ok after) : after.IsTree := by
  obtain ⟨fromDir, fromName, _, toDir, toName, _, -, hto, -, hout, hin, hmove⟩ := of_rename_eq_ok h
  rcases hmove with ⟨-, rfl⟩ | ⟨hne, rfl, hempty⟩
  · exact ht
  obtain ⟨-, -, -, -, -, -, -, hdir, -⟩ := of_slot_eq_ok hto
  exact ht.move (not_prefix_concat hout hne) (not_prefix_concat hin hne.symm) hdir
    (ht.node?_eq_none_below (List.concat_ne_nil toName toDir) hempty)

end WireSchema.FileSystem
