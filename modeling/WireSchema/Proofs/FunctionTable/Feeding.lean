import Mathlib.Tactic.Common
import WireSchema.Proofs.FunctionTable.Names

/-!
# Proofs/FunctionTable/Feeding — passes in order, up to the first that fails

`FunctionTable.feed` gives passes to a table one after the other and stops at the first that is not
taken.  Passes are **appended to** by further lines at the end of the last one, and further passes
behind it.  What the longer passes add comes behind everything that the shorter ones said, so it can
neither mend their error nor move their functions.

* `extend_append_of_error` — further lines do not change the error of a pass.
* `after_of_feed` — passes that were all taken leave the table behind their history.
* `kept_of_appended` — the wire values of functions are stable under appending.
-/

namespace WireSchema

/-! ## Further lines -/

/-- The items of further lines follow, with line numbers and indices going on. -/
theorem Entry.itemsFrom_append : ∀ (index : UInt32) (line : Nat) (ls ms : List Text),
    itemsFrom index line (ls ++ ms)
      = itemsFrom index line ls
        ++ itemsFrom (index + .ofNat (names ls).length) (line + ls.length) ms
  | index, line, [], ms => by simp [itemsFrom, names]
  | index, line, l :: ls, ms => by
      have hline : line + 1 + ls.length = line + (l :: ls).length := by
        rw [List.length_cons]
        omega
      rw [List.cons_append]
      rcases h : readLine l with _ | fault | name
      · have hnone : name? l = none := by simp [name?, h]
        simp only [itemsFrom, h, itemsFrom_append, names_cons_of_none hnone, hline]
      · have hnone : name? l = none := by simp [name?, h, Except.toOption]
        simp only [itemsFrom, h, itemsFrom_append, names_cons_of_none hnone, hline,
          List.cons_append]
      · have hsome : name? l = some name := name?_eq_some_iff.2 h
        simp only [itemsFrom, h, itemsFrom_append, names_cons_of_some hsome, hline,
          List.length_cons, EnumLine.one_add_ofNat, List.cons_append]

namespace FunctionTable

/-- **The first offending item decides**: what follows it is not looked at. -/
theorem check_append_of_error {origin : Text} {seen : List (Text × Place)} {items : List Item}
    {e : TableError} (h : check origin seen items = .error e) (more : List Item) :
    check origin seen (items ++ more) = .error e := by
  induction items generalizing seen with
  | nil => contradiction
  | cons item items ih =>
    cases item with
    | error fault => exact h
    | ok entry =>
      rw [List.cons_append]
      dsimp only [check] at h ⊢
      split_ifs at h ⊢ with hr
      · exact h
      cases hseen : seen.lookup entry.name with
      | some first =>
        rw [hseen] at h
        exact h
      | none =>
        rw [hseen] at h
        dsimp only at h ⊢
        rcases hrest : check origin ((entry.name, ⟨origin, entry.line⟩) :: seen) items with e' | r
        · rw [hrest] at h
          obtain rfl := Except.error.inj h
          rw [ih hrest]
        · rw [hrest] at h
          contradiction

/-- A rejected call answers with what the check of its items found. -/
theorem extend_eq_error_iff {t : FunctionTable} {p : Pass} {e : TableError} :
    t.extend p = .error e
      ↔ check p.origin t.seen (Entry.itemsFrom t.nextIndex 0 p.lines) = .error e := by
  have hread : (Scan.ofLines p.lines t.nextIndex).drain.map Prod.fst
      = Entry.itemsFrom t.nextIndex 0 p.lines := Scan.map_fst_drain p.lines 0 t.nextIndex
  dsimp only [extend]
  rw [hread]
  cases check p.origin t.seen (Entry.itemsFrom t.nextIndex 0 p.lines) with
  | error e' => simp only [Except.error.injEq]
  | ok entries => exact iff_of_false (fun h => nomatch h) (fun h => nomatch h)

/-- **Further lines do not change the error of a pass.** -/
theorem extend_append_of_error {t : FunctionTable} {p : Pass} {e : TableError}
    (h : t.extend p = .error e) (ls : List Text) :
    t.extend { p with lines := p.lines ++ ls } = .error e := by
  rw [extend_eq_error_iff] at h ⊢
  rw [Entry.itemsFrom_append]
  exact check_append_of_error h _

/-! ## Feeding -/

/-- Gives passes to a table one after the other, up to the first that is not taken. -/
def feed (t : FunctionTable) : List Pass → Except TableError FunctionTable
  | [] => .ok t
  | p :: ps =>
    match t.extend p with
    | .error e => .error e
    | .ok (_, t') => feed t' ps

theorem feed_cons_of_error {t : FunctionTable} {p : Pass} {e : TableError}
    (h : t.extend p = .error e) (ps : List Pass) : t.feed (p :: ps) = .error e := by
  rw [feed, h]

theorem feed_cons_of_ok {t t' : FunctionTable} {p : Pass} {added : Nat}
    (h : t.extend p = .ok (added, t')) (ps : List Pass) : t.feed (p :: ps) = t'.feed ps := by
  rw [feed, h]

theorem feed_append_of_error : ∀ {t : FunctionTable} {ps : List Pass} {e : TableError},
    t.feed ps = .error e → ∀ qs : List Pass, t.feed (ps ++ qs) = .error e
  | _, [], _, h, _ => by contradiction
  | t, p :: ps, e, h, qs => by
      rw [List.cons_append]
      rcases hp : t.extend p with e' | ⟨added, t'⟩
      · rw [feed_cons_of_error hp] at h ⊢
        exact h
      · rw [feed_cons_of_ok hp] at h ⊢
        exact feed_append_of_error h qs

theorem feed_append_of_ok : ∀ {t t' : FunctionTable} {ps : List Pass},
    t.feed ps = .ok t' → ∀ qs : List Pass, t.feed (ps ++ qs) = t'.feed qs
  | _, _, [], h, _ => by
      obtain rfl := Except.ok.inj h
      rfl
  | t, t', p :: ps, h, qs => by
      rw [List.cons_append]
      rcases hp : t.extend p with e | ⟨added, s⟩
      · rw [feed_cons_of_error hp] at h
        contradiction
      · rw [feed_cons_of_ok hp] at h ⊢
        exact feed_append_of_ok h qs

/-- All passes are taken when the first is admitted, and the others are behind it. -/
theorem feed_cons_eq_ok_iff {t t' : FunctionTable} {p : Pass} {ps : List Pass} :
    t.feed (p :: ps) = .ok t' ↔ t.Admits p ∧ (t.grown p).feed ps = .ok t' := by
  rcases hp : t.extend p with e | ⟨added, s⟩
  · rw [feed_cons_of_error hp]
    refine iff_of_false (fun h => nomatch h) fun h => ?_
    rw [extend_of_admits h.1] at hp
    contradiction
  · rw [feed_cons_of_ok hp]
    obtain ⟨hadmits, hs⟩ := extend_eq_ok_iff.1 hp
    obtain ⟨rfl, rfl⟩ := Prod.mk.inj hs
    exact (and_iff_right hadmits).symm

/-- **Passes that were all taken** leave the table behind their history. -/
theorem after_of_feed : ∀ {t t' : FunctionTable} {ps : List Pass},
    t.feed ps = .ok t' → t' = t.after ps
  | _, _, [], h => (Except.ok.inj h).symm
  | t, t', p :: ps, h => by
      obtain ⟨hadmits, hps⟩ := feed_cons_eq_ok_iff.1 h
      rw [after, call, extend_of_admits hadmits]
      exact after_of_feed hps

theorem indexed_of_feed {t : FunctionTable} {ps : List Pass} (h : empty.feed ps = .ok t) :
    t.Indexed := after_of_feed h ▸ indexed_empty.after ps

theorem numbered_of_feed {t : FunctionTable} {ps : List Pass} (h : empty.feed ps = .ok t)
    (hsize : t.functions + 4 ≤ UInt32.size) : t.finish.Numbered := by
  obtain rfl := after_of_feed h
  exact numbered_finish_after ps hsize

/-! ## What appending keeps -/

/-- Taking a pass adds members behind those that the table has. -/
theorem members_prefix_call (t : FunctionTable) (p : Pass) :
    t.members <+: (t.call p).table.members := by
  rcases t.call_cases p with ⟨-, hc⟩ | ⟨e, -, hc⟩
  · rw [hc, members_grown]
    exact List.prefix_append _ _
  · exact hc ▸ List.prefix_rfl

theorem members_prefix_after : ∀ (t : FunctionTable) (ps : List Pass),
    t.members <+: (t.after ps).members
  | _, [] => List.prefix_rfl
  | t, p :: ps => (t.members_prefix_call p).trans (members_prefix_after (t.call p).table ps)

/-- Further lines of a pass add members behind those of its own lines. -/
theorem members_prefix_grown (t : FunctionTable) (p : Pass) (ls : List Text) :
    (t.grown p).members <+: (t.grown { p with lines := p.lines ++ ls }).members := by
  have hnames : Pass.names { p with lines := p.lines ++ ls } = p.names ++ Entry.names ls :=
    List.filterMap_append
  rw [members_grown, members_grown, hnames, List.mapIdx_append, ← List.append_assoc]
  exact List.prefix_append _ _

end FunctionTable

/-- The members that are functions. -/
def FunctionEnum.functionMembers (e : FunctionEnum) : List (Text × UInt32) :=
  e.members.take e.functions

theorem FunctionTable.Indexed.functionMembers_finish {t : FunctionTable} (h : t.Indexed) :
    t.finish.functionMembers = t.members := by
  rw [FunctionEnum.functionMembers, FunctionEnum.members, finish, List.filterMap_append]
  exact List.take_left' h.count

/-- Passes that append to others: with further lines for the last pass, and with further passes. -/
inductive Pass.Appended : List Pass → List Pass → Prop
  | passes (ps more : List Pass) : Appended ps (ps ++ more)
  | lines (ps : List Pass) (p : Pass) (ls : List Text) (more : List Pass) :
    Appended (ps ++ [p]) (ps ++ { p with lines := p.lines ++ ls } :: more)

namespace FunctionTable

/-- **Appending cannot mend an error.** -/
theorem feed_of_appended_of_error {t : FunctionTable} {ps qs : List Pass} {e : TableError}
    (h : Pass.Appended ps qs) (he : t.feed ps = .error e) : t.feed qs = .error e := by
  cases h with
  | passes _ more => exact feed_append_of_error he more
  | lines ps p ls more =>
    rcases hps : t.feed ps with e' | s
    · rw [feed_append_of_error hps] at he ⊢
      exact he
    · rw [feed_append_of_ok hps] at he ⊢
      rcases hp : s.extend p with e' | ⟨added, s'⟩
      · rw [feed_cons_of_error hp] at he
        obtain rfl := Except.error.inj he
        exact feed_cons_of_error (extend_append_of_error hp ls) more
      · rw [feed_cons_of_ok hp] at he
        contradiction

/-- **Appending moves no member**: those that were there are the first ones still. -/
theorem members_prefix_of_appended {t s s' : FunctionTable} {ps qs : List Pass}
    (h : Pass.Appended ps qs) (hs : t.feed ps = .ok s) (hs' : t.feed qs = .ok s') :
    s.members <+: s'.members := by
  cases h with
  | passes _ more =>
    rw [feed_append_of_ok hs] at hs'
    rw [after_of_feed hs']
    exact s.members_prefix_after more
  | lines ps p ls more =>
    rcases hps : t.feed ps with e | r
    · rw [feed_append_of_error hps] at hs
      contradiction
    rw [feed_append_of_ok hps, feed_cons_eq_ok_iff] at hs hs'
    obtain rfl := Except.ok.inj hs.2
    rw [after_of_feed hs'.2]
    exact (r.members_prefix_grown p ls).trans (members_prefix_after _ more)

end FunctionTable

/-- What passes keep when others append to them. -/
structure KeptByAppending (ps qs : List Pass) : Prop where
  /-- An error stays the same error. -/
  rejected : ∀ e, FunctionTable.empty.feed ps = .error e → FunctionTable.empty.feed qs = .error e
  /-- If the longer passes are taken, the shorter ones are; their functions come first, with the
  same values, and every control moves up by the number of functions added. -/
  accepted : ∀ t', FunctionTable.empty.feed qs = .ok t' →
    ∃ t added, FunctionTable.empty.feed ps = .ok t
      ∧ t'.finish.functionMembers = t.finish.functionMembers ++ added
      ∧ t'.finish.functions = t.finish.functions + added.length
      ∧ (t'.functions + 4 ≤ UInt32.size →
        ∀ c : Control, ∃ k, (∀ j, t.finish.Declares c.name j ↔ j = k)
          ∧ ∀ j, t'.finish.Declares c.name j ↔ j = k + added.length)

/-- **The wire values of functions are stable under appending.** -/
theorem kept_of_appended {ps qs : List Pass} (h : Pass.Appended ps qs) : KeptByAppending ps qs where
  rejected _ he := FunctionTable.feed_of_appended_of_error h he
  accepted t' hqs := by
    rcases hps : FunctionTable.empty.feed ps with e | t
    · rw [FunctionTable.feed_of_appended_of_error h hps] at hqs
      contradiction
    have hindexed := FunctionTable.indexed_of_feed hps
    have hindexed' := FunctionTable.indexed_of_feed hqs
    obtain ⟨added, hadded⟩ := FunctionTable.members_prefix_of_appended h hps hqs
    have hfunctions : t'.functions = t.functions + added.length := by
      rw [← hindexed.count, ← hindexed'.count, ← hadded, List.length_append]
    refine ⟨t, added, rfl, ?_, hfunctions, fun hsize c => ?_⟩
    · rw [hindexed.functionMembers_finish, hindexed'.functionMembers_finish, hadded]
    have hnumbered := FunctionTable.numbered_of_feed hps (by omega)
    have hnumbered' := FunctionTable.numbered_of_feed hqs hsize
    refine ⟨t.functions + Control.all.idxOf c,
      fun j => hindexed.declares_control_iff hnumbered, fun j => ?_⟩
    rw [hindexed'.declares_control_iff hnumbered', hfunctions, Nat.add_right_comm]

/-- A line at the end of the only list, and a list behind it: `glA` keeps its value, and the controls
move up by two. -/
theorem kept_of_appended_extension :
    let ps : List Pass := [⟨"gl2_api.in", ["API_ENTRY(glA)"], "end of GL functions"⟩]
    let qs : List Pass :=
      [⟨"gl2_api.in", ["API_ENTRY(glA)", "API_ENTRY(glB)"], "end of GL functions"⟩,
       ⟨"gl2ext_api.in", ["API_ENTRY(glC)"], "end of GL EXT functions"⟩]
    Pass.Appended ps qs
      ∧ (∃ t, FunctionTable.empty.feed ps = .ok t ∧ t.finish.members
        = ([("glA", 0), ("ACK", 1), ("NEG", 2), ("CONTINUE", 3), ("SKIP", 4)] : List (Text × UInt32)))
      ∧ (∃ t', FunctionTable.empty.feed qs = .ok t' ∧ t'.functions + 4 ≤ UInt32.size
        ∧ t'.finish.members = ([("glA", 0), ("glB", 1), ("glC", 2), ("ACK", 3), ("NEG", 4),
          ("CONTINUE", 5), ("SKIP", 6)] : List (Text × UInt32)))
      ∧ KeptByAppending ps qs := by
  intro ps qs
  have h : Pass.Appended ps qs := .lines [] _ ["API_ENTRY(glB)"] _
  exact ⟨h, ⟨_, rfl, by decide⟩, ⟨_, rfl, by decide, by decide⟩, kept_of_appended h⟩

end WireSchema
