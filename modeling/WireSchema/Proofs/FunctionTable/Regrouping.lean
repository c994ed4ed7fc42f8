import Mathlib.Data.List.Perm.Basic
import Mathlib.Tactic.Common
import WireSchema.Proofs.FunctionTable.Feeding

/-!
# Proofs/FunctionTable/Regrouping — the lines of passes matter, not their grouping

Inside a pass a name is compared with those before it, and across passes with those of the table; the
two comparisons come to one.  So passes are all taken exactly when their lines, put one behind the
other, are good and declare fresh names — a condition that does not know where a pass ends, nor in
which order the lines stand.

* `feed_eq_ok_iff` — what passes need to be taken, said of their lines, and what they leave.
* `sameNumbering_ofPasses` — the members of an enum are decided by the names that its passes declare.
* `regrouping` — passes with the same lines, and passes with the same lines in another order.
-/

namespace WireSchema

/-! ## Lines put one behind the other -/

namespace Entry

theorem readable_append_iff {ls ms : List Text} :
    Readable (ls ++ ms) ↔ Readable ls ∧ Readable ms := List.forall_mem_append

theorem names_append (ls ms : List Text) : names (ls ++ ms) = names ls ++ names ms :=
  List.filterMap_append

end Entry

theorem Pass.names_flatMap_lines (ps : List Pass) :
    Entry.names (ps.flatMap Pass.lines) = ps.flatMap Pass.names := by
  induction ps with
  | nil => rfl
  | cons p ps ih => rw [List.flatMap_cons, List.flatMap_cons, Entry.names_append, ih, Pass.names]

/-! ## Freshness of names -/

/-- Names can be taken together when the first ones can, and the others behind them. -/
theorem fresh_append_iff {seen taken : List (Text × Place)} {names more : List Text}
    (h : (taken.map Prod.fst).Perm names) :
    Fresh seen (names ++ more) ↔ Fresh seen names ∧ Fresh (taken ++ seen) more := by
  have hkeys : ∀ name, name ∈ (taken ++ seen).map Prod.fst
      ↔ name ∈ names ∨ name ∈ seen.map Prod.fst := fun name => by
    rw [List.map_append, List.mem_append, h.mem_iff]
  constructor
  · rintro ⟨hnodup, hunreserved, hunseen⟩
    obtain ⟨hnames, hmore, hapart⟩ := List.nodup_append.1 hnodup
    rw [List.forall_mem_append] at hunreserved hunseen
    refine ⟨⟨hnames, hunreserved.1, hunseen.1⟩, hmore, hunreserved.2, fun name hn hk => ?_⟩
    rcases (hkeys name).1 hk with hk | hk
    · exact hapart name hk name hn rfl
    · exact hunseen.2 name hn hk
  · rintro ⟨hnames, hmore⟩
    refine ⟨List.nodup_append.2 ⟨hnames.nodup, hmore.nodup, ?_⟩,
      List.forall_mem_append.2 ⟨hnames.unreserved, hmore.unreserved⟩,
      List.forall_mem_append.2 ⟨hnames.unseen, fun name hn hk => ?_⟩⟩
    · rintro name hk _ hn rfl
      exact hmore.unseen name hn ((hkeys name).2 (.inl hk))
    · exact hmore.unseen name hn ((hkeys name).2 (.inr hk))

/-- The order of names does not matter. -/
theorem Fresh.perm {seen : List (Text × Place)} {names names' : List Text}
    (hfresh : Fresh seen names) (h : names.Perm names') : Fresh seen names' where
  nodup := h.nodup_iff.1 hfresh.nodup
  unreserved name hn := hfresh.unreserved name (h.mem_iff.2 hn)
  unseen name hn := hfresh.unseen name (h.mem_iff.2 hn)

/-! ## What passes need -/

namespace FunctionTable

/-- **What passes need to be taken, and what they leave.**  Their lines together must be good and
declare fresh names; where one pass ends and the next begins does not show. -/
theorem feed_eq_ok_iff : ∀ {t t' : FunctionTable} {ps : List Pass},
    t.feed ps = .ok t' ↔ Entry.Readable (ps.flatMap Pass.lines)
      ∧ Fresh t.seen (ps.flatMap Pass.names) ∧ t' = ps.foldl grown t
  | t, t', [] => by
      constructor
      · intro h
        exact ⟨by simp [Entry.Readable], fresh_nil _, (Except.ok.inj h).symm⟩
      · rintro ⟨-, -, rfl⟩
        rfl
  | t, t', p :: ps => by
      rw [feed_cons_eq_ok_iff, feed_eq_ok_iff, List.flatMap_cons, List.flatMap_cons,
        Entry.readable_append_iff, fresh_append_iff p.declared_reverse_perm, List.foldl_cons]
      constructor
      · rintro ⟨⟨hp, hfresh⟩, hps, hrest, ht⟩
        exact ⟨⟨hp, hps⟩, ⟨hfresh, hrest⟩, ht⟩
      · rintro ⟨⟨hp, hps⟩, ⟨hfresh, hrest⟩, ht⟩
        exact ⟨⟨hp, hfresh⟩, hps, hrest, ht⟩

end FunctionTable

/-! ## What the names decide -/

/-- Two enums number the same names alike; their comments may differ. -/
structure SameNumbering (e e' : FunctionEnum) : Prop where
  members : e.members = e'.members
  functions : e.functions = e'.functions
  controlStart : e.controlStart = e'.controlStart

/-- Two enums hold the same functions, whatever their order, and give the controls the same values. -/
structure SameContent (e e' : FunctionEnum) : Prop where
  names : (e.functionMembers.map Prod.fst).Perm (e'.functionMembers.map Prod.fst)
  functions : e.functions = e'.functions
  controlStart : e.controlStart = e'.controlStart
  controls : ∀ (c : Control) (k : Nat), e.Declares c.name k ↔ e'.Declares c.name k

namespace FunctionEnum

variable {ps qs : List Pass}

theorem sameNumbering_ofPasses (h : ps.flatMap Pass.names = qs.flatMap Pass.names) :
    SameNumbering (ofPasses ps) (ofPasses qs) where
  members := by rw [members_ofPasses, members_ofPasses, h]
  functions := congrArg List.length h
  controlStart := congrArg (fun names => UInt32.ofNat (List.length names)) h

theorem map_fst_functionMembers_ofPasses (ps : List Pass) :
    (ofPasses ps).functionMembers.map Prod.fst = ps.flatMap Pass.names := by
  rw [functionMembers, List.map_take, names_ofPasses]
  exact List.take_left' rfl

/-- A control is found behind the functions, where only their number shows. -/
theorem mem_members_ofPasses_iff {c : Control} {v : UInt32}
    (h : c.name ∉ ps.flatMap Pass.names) : (c.name, v) ∈ (ofPasses ps).members
      ↔ (c.name, v) ∈ (Control.all.map Control.name).mapIdx
          fun k name => (name, UInt32.ofNat (k + (ps.flatMap Pass.names).length)) := by
  rw [members_ofPasses, List.mapIdx_append, List.mem_append, or_iff_right]
  intro hm
  obtain ⟨k, hk, hc⟩ := List.mem_mapIdx.1 hm
  exact h ((Prod.mk.inj hc).1 ▸ List.getElem_mem hk)

theorem sameContent_ofPasses (h : (ps.flatMap Pass.names).Perm (qs.flatMap Pass.names))
    (hps : Fresh [] (ps.flatMap Pass.names)) : SameContent (ofPasses ps) (ofPasses qs) where
  names := by rwa [map_fst_functionMembers_ofPasses, map_fst_functionMembers_ofPasses]
  functions := h.length_eq
  controlStart := congrArg UInt32.ofNat h.length_eq
  controls c k := by
    have hunused : c.name ∉ ps.flatMap Pass.names := fun hc =>
      Bool.false_ne_true
        ((hps.unreserved _ hc).symm.trans (Control.isReserved_iff.2 ⟨c, rfl⟩))
    simp only [Declares, mem_members_ofPasses_iff hunused,
      mem_members_ofPasses_iff (mt h.mem_iff.2 hunused), h.length_eq]

end FunctionEnum

/-! ## Regrouping -/

/-- An empty table takes the passes, all of them, one after the other. -/
def Pass.Accepted (ps : List Pass) : Prop := ∃ t, FunctionTable.empty.feed ps = .ok t

theorem Pass.accepted_iff {ps : List Pass} : Pass.Accepted ps
    ↔ Entry.Readable (ps.flatMap Pass.lines) ∧ Fresh [] (ps.flatMap Pass.names) := by
  simp only [Accepted, FunctionTable.feed_eq_ok_iff, exists_and_left, exists_eq, and_true]
  rfl

/-- Lines in another order declare their names in another order. -/
theorem Pass.names_perm {ps qs : List Pass}
    (h : (ps.flatMap Pass.lines).Perm (qs.flatMap Pass.lines)) :
    (ps.flatMap Pass.names).Perm (qs.flatMap Pass.names) := by
  rw [← Pass.names_flatMap_lines, ← Pass.names_flatMap_lines]
  exact h.filterMap Entry.name?

theorem Pass.Accepted.perm {ps qs : List Pass} (hps : Pass.Accepted ps)
    (h : (ps.flatMap Pass.lines).Perm (qs.flatMap Pass.lines)) : Pass.Accepted qs := by
  obtain ⟨hreadable, hfresh⟩ := Pass.accepted_iff.1 hps
  exact Pass.accepted_iff.2 ⟨fun l hl => hreadable l (h.mem_iff.2 hl), hfresh.perm (names_perm h)⟩

/-- **The order of the lines, and where passes end, does not decide whether all are taken.** -/
theorem Pass.accepted_congr {ps qs : List Pass}
    (h : (ps.flatMap Pass.lines).Perm (qs.flatMap Pass.lines)) :
    Pass.Accepted ps ↔ Pass.Accepted qs := ⟨fun hps => hps.perm h, fun hqs => hqs.perm h.symm⟩

/-- What two lists of passes share, by what their lines have in common. -/
structure RegroupingLaws (ps qs : List Pass) : Prop where
  /-- The same lines, grouped in any way, under any labels and closing comments. -/
  equal : ps.flatMap Pass.lines = qs.flatMap Pass.lines →
    (Pass.Accepted ps ↔ Pass.Accepted qs)
      ∧ ∀ t t', FunctionTable.empty.feed ps = .ok t → FunctionTable.empty.feed qs = .ok t' →
        SameNumbering t.finish t'.finish
  /-- The same lines in any order. -/
  permuted : (ps.flatMap Pass.lines).Perm (qs.flatMap Pass.lines) →
    (Pass.Accepted ps ↔ Pass.Accepted qs)
      ∧ ∀ t t', FunctionTable.empty.feed ps = .ok t → FunctionTable.empty.feed qs = .ok t' →
        SameContent t.finish t'.finish

/-- **Only the lines matter, not how they are grouped**: their order decides the values of functions,
and nothing else. -/
theorem regrouping (ps qs : List Pass) : RegroupingLaws ps qs where
  equal h := by
    refine ⟨Pass.accepted_congr (.of_eq h), fun t t' ht ht' => ?_⟩
    obtain ⟨-, -, rfl⟩ := FunctionTable.feed_eq_ok_iff.1 ht
    obtain ⟨-, -, rfl⟩ := FunctionTable.feed_eq_ok_iff.1 ht'
    rw [FunctionTable.finish_foldl_grown, FunctionTable.finish_foldl_grown]
    refine FunctionEnum.sameNumbering_ofPasses ?_
    rw [← Pass.names_flatMap_lines, h, Pass.names_flatMap_lines]
  permuted h := by
    refine ⟨Pass.accepted_congr h, fun t t' ht ht' => ?_⟩
    obtain ⟨-, hfresh, rfl⟩ := FunctionTable.feed_eq_ok_iff.1 ht
    obtain ⟨-, -, rfl⟩ := FunctionTable.feed_eq_ok_iff.1 ht'
    rw [FunctionTable.finish_foldl_grown, FunctionTable.finish_foldl_grown]
    exact FunctionEnum.sameContent_ofPasses (Pass.names_perm h) hfresh

/-- One list cut in two keeps its values; its parts in the other order exchange those of the
functions, and the controls stay. -/
theorem regrouping_cut :
    let ps : List Pass :=
      [⟨"gl2_api.in", ["API_ENTRY(glA)", "", "API_ENTRY(glB)"], "end of GL functions"⟩]
    let cut : List Pass :=
      [⟨"first_api.in", ["API_ENTRY(glA)"], "end of first functions"⟩,
       ⟨"second_api.in", ["", "API_ENTRY(glB)"], "end of second functions"⟩]
    ps.flatMap Pass.lines = cut.flatMap Pass.lines
      ∧ (ps.flatMap Pass.lines).Perm (cut.reverse.flatMap Pass.lines)
      ∧ Pass.Accepted ps ∧ Pass.Accepted cut ∧ Pass.Accepted cut.reverse
      ∧ RegroupingLaws ps cut ∧ RegroupingLaws ps cut.reverse :=
  ⟨rfl, by decide, ⟨_, rfl⟩, ⟨_, rfl⟩, ⟨_, rfl⟩, regrouping _ _, regrouping _ _⟩

end WireSchema
