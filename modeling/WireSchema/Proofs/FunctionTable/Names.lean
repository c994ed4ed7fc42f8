import Mathlib.Data.List.Nodup
import Mathlib.Tactic.Common
import WireSchema.Message
import WireSchema.Proofs.Entry.Grammar
import WireSchema.Proofs.FunctionTable.History

/-!
# Proofs/FunctionTable/Names — one name, one place, one value

A table keeps its names twice: in its lines, and with their places among the names seen.  It is
**indexed** when the two agree: the names are distinct, they are identifiers, and none of them is
reserved.  Taking a pass keeps a table indexed (`Indexed.grown`), so every history does
(`Indexed.after`).

* `exists_call_of_mem_members` — every member goes back to one accepted call and a line of its pass.
* `declares_iff_getElem?` — where the members are numbered from zero, the k-th name has the value k.
* `names_of_history` — names, places and values after any history.
-/

namespace WireSchema

/-! ## Places -/

/-- A place in a pass where a name is declared: the number of a marker line with that name. -/
def Pass.DeclaresAt (p : Pass) (name : Text) (place : Place) : Prop :=
  place.origin = p.origin
    ∧ ∃ i l, p.lines[i]? = some l ∧ place.line = i + 1 ∧ Entry.readLine l = some (.ok name)

theorem Pass.declaresAt_of_mem_declared {p : Pass} {name : Text} {place : Place}
    (h : (name, place) ∈ p.declared) : p.DeclaresAt name place := by
  obtain ⟨⟨l, n⟩, hl, hn⟩ := List.mem_filterMap.1 h
  obtain ⟨s, hs, he⟩ := Option.map_eq_some_iff.1 hn
  obtain ⟨rfl, rfl⟩ := Prod.mk.inj he
  obtain ⟨hle, hget⟩ := List.mk_mem_zipIdx_iff_le_and_getElem?_sub.1 hl
  exact ⟨rfl, n - 1, l, hget, (Nat.sub_add_cancel hle).symm, Entry.name?_eq_some_iff.1 hs⟩

/-- Where the keys are distinct, a pair is what its key looks up. -/
theorem lookup_eq_some_of_mem {seen : List (Text × Place)} {name : Text} {place : Place}
    (hkeys : (seen.map Prod.fst).Nodup) (h : (name, place) ∈ seen) :
    seen.lookup name = some place := by
  obtain ⟨l₁, l₂, rfl⟩ := List.append_of_mem h
  refine List.lookup_eq_some_iff.2 ⟨l₁, l₂, rfl, fun q hq => bne_iff_ne.2 fun he => ?_⟩
  rw [List.map_append, List.map_cons, List.nodup_append] at hkeys
  exact hkeys.2.2 q.1 (List.mem_map_of_mem hq) name List.mem_cons_self he.symm

/-! ## Indexed tables -/

namespace FunctionTable

/-- The members of a table, which are its functions. -/
def members (t : FunctionTable) : List (Text × UInt32) := t.lines.filterMap EnumLine.member?

/-- Taking a pass appends its names, numbered on. -/
theorem members_grown (t : FunctionTable) (p : Pass) :
    (t.grown p).members
      = t.members ++ p.names.mapIdx fun k name => (name, t.nextIndex + .ofNat k) := by
  rw [members, grown, List.filterMap_append, EnumLine.filterMap_member?_number,
    Pass.filterMap_name?_outline, members]

theorem map_fst_members_grown (t : FunctionTable) (p : Pass) :
    (t.grown p).members.map Prod.fst = t.members.map Prod.fst ++ p.names := by
  rw [members_grown, List.map_append]
  exact congrArg _ (List.ext_getElem (by simp) fun k _ _ => by simp)

/-- The names seen are the names of the members; they are distinct, they are identifiers, and none
of them belongs to a control. -/
structure Indexed (t : FunctionTable) : Prop where
  keys : (t.seen.map Prod.fst).Perm (t.members.map Prod.fst)
  nodup : (t.members.map Prod.fst).Nodup
  identifier : ∀ name ∈ t.members.map Prod.fst, Entry.IsName name
  unreserved : ∀ name ∈ t.members.map Prod.fst, ∀ c : Control, c.name ≠ name
  count : t.members.length = t.functions

theorem indexed_empty : empty.Indexed where
  keys := .nil
  nodup := .nil
  identifier := by simp [empty, members]
  unreserved := by simp [empty, members]
  count := rfl

/-- **Taking a pass keeps a table indexed** — its names are fresh, and every one was read as an
identifier. -/
theorem Indexed.grown {t : FunctionTable} {p : Pass} (h : t.Indexed) (hp : t.Admits p) :
    (t.grown p).Indexed := by
  have hunseen : ∀ name ∈ p.names, name ∉ t.members.map Prod.fst := fun name hn hm =>
    hp.fresh.unseen name hn (h.keys.mem_iff.2 hm)
  constructor
  case keys =>
    rw [map_fst_members_grown, FunctionTable.grown, List.map_append]
    exact (p.declared_reverse_perm.append h.keys).trans List.perm_append_comm
  case nodup =>
    rw [map_fst_members_grown]
    refine List.nodup_append.2 ⟨h.nodup, hp.fresh.nodup, ?_⟩
    rintro name hm _ hn rfl
    exact hunseen name hn hm
  case identifier =>
    rw [map_fst_members_grown]
    intro name hn
    rcases List.mem_append.1 hn with hn | hn
    · exact h.identifier name hn
    · exact Entry.isIdentifier_iff.1 (Entry.isIdentifier_of_mem_names hn)
  case unreserved =>
    rw [map_fst_members_grown]
    intro name hn c hc
    rcases List.mem_append.1 hn with hn | hn
    · exact h.unreserved name hn c hc
    · exact Bool.false_ne_true
        ((hp.fresh.unreserved name hn).symm.trans (Control.isReserved_iff.2 ⟨c, hc⟩))
  case count =>
    rw [members_grown, List.length_append, List.length_mapIdx, h.count, FunctionTable.grown]

/-- A rejected pass changes nothing, so a call keeps a table indexed whatever it answers. -/
theorem Indexed.call {t : FunctionTable} (h : t.Indexed) (p : Pass) : (t.call p).table.Indexed := by
  rcases t.call_cases p with ⟨hp, hc⟩ | ⟨e, -, hc⟩
  · rw [hc]
    exact h.grown hp
  · rw [hc]
    exact h

/-- **Every history keeps a table indexed.** -/
theorem Indexed.after : ∀ {t : FunctionTable}, t.Indexed → ∀ ps : List Pass, (t.after ps).Indexed
  | _, h, [] => h
  | _, h, p :: ps => (h.call p).after ps

/-! ## Where members come from -/

theorem seen_suffix_call (t : FunctionTable) (p : Pass) : t.seen <:+ (t.call p).table.seen := by
  rcases t.call_cases p with ⟨-, hc⟩ | ⟨e, -, hc⟩
  · rw [hc]
    exact List.suffix_append _ _
  · exact hc ▸ List.suffix_rfl

/-- What a table has seen stays seen. -/
theorem seen_suffix_after : ∀ (t : FunctionTable) (ps : List Pass), t.seen <:+ (t.after ps).seen
  | _, [] => List.suffix_rfl
  | t, p :: ps => (t.seen_suffix_call p).trans (seen_suffix_after (t.call p).table ps)

/-- A member that a call brings in has a line in its pass, and that line is its place. -/
theorem exists_place_of_mem_call {t : FunctionTable} {p : Pass} {m : Text × UInt32}
    (hm : m ∈ (t.call p).table.members) (hnew : m ∉ t.members) :
    (t.call p).accepted = true
      ∧ ∃ place, p.DeclaresAt m.1 place ∧ (m.1, place) ∈ (t.call p).table.seen := by
  rcases t.call_cases p with ⟨-, hc⟩ | ⟨e, -, hc⟩
  · rw [hc] at hm ⊢
    rw [members_grown] at hm
    obtain ⟨k, hk, hmk⟩ := List.mem_mapIdx.1 ((List.mem_append.1 hm).resolve_left hnew)
    have hname : m.1 ∈ p.names := hmk ▸ List.getElem_mem hk
    rw [← p.map_fst_declared] at hname
    obtain ⟨⟨name, place⟩, hd, rfl⟩ := List.mem_map.1 hname
    exact ⟨rfl, place, Pass.declaresAt_of_mem_declared hd,
      List.mem_append_left _ (List.mem_reverse.2 hd)⟩
  · rw [hc] at hm
    exact absurd hm hnew

/-- A member that a history brings in came with one of its calls: it was not there before, and its
place is a line of the call's pass. -/
theorem exists_call_of_mem_members : ∀ {t : FunctionTable} {ps : List Pass} {m : Text × UInt32},
    m ∈ (t.after ps).members → m ∉ t.members →
      ∃ earlier c later place, t.history ps = earlier ++ c :: later ∧ c.accepted = true
        ∧ m ∉ (t.after (earlier.map Call.pass)).members ∧ m ∈ c.table.members
        ∧ c.pass.DeclaresAt m.1 place ∧ (m.1, place) ∈ (t.after ps).seen
  | _, [], _, hm, hnew => absurd hm hnew
  | t, p :: ps, m, hm, hnew => by
      by_cases hcall : m ∈ (t.call p).table.members
      · obtain ⟨haccepted, place, hplace, hseen⟩ := exists_place_of_mem_call hcall hnew
        exact ⟨[], t.call p, _, place, rfl, haccepted, hnew, hcall, by rwa [call_pass],
          ((t.call p).table.seen_suffix_after ps).subset hseen⟩
      · obtain ⟨earlier, c, later, place, hhistory, haccepted, hbefore, hc, hplace, hseen⟩ :=
          exists_call_of_mem_members (t := (t.call p).table) hm hcall
        refine ⟨t.call p :: earlier, c, later, place, ?_, haccepted, ?_, hc, hplace, hseen⟩
        · rw [history, hhistory, List.cons_append]
        · rw [List.map_cons, call_pass, after]
          exact hbefore

end FunctionTable

/-! ## Names and values of the enum -/

namespace FunctionEnum

/-- The enum declares a name with a value. -/
def Declares (e : FunctionEnum) (name : Text) (k : Nat) : Prop :=
  ∃ v, (name, v) ∈ e.members ∧ v.toNat = k

/-- The members are numbered from zero, in their order. -/
def Numbered (e : FunctionEnum) : Prop :=
  ∀ k (hk : k < e.members.length), e.members[k].2.toNat = k

/-- **Where the members are numbered from zero, the k-th name has the value k**, and no other name
has it. -/
theorem declares_iff_getElem? {e : FunctionEnum} (h : e.Numbered) {name : Text} {k : Nat} :
    e.Declares name k ↔ (e.members.map Prod.fst)[k]? = some name := by
  rw [List.getElem?_map, Option.map_eq_some_iff]
  constructor
  · rintro ⟨v, hm, rfl⟩
    obtain ⟨i, hi, hget⟩ := List.getElem_of_mem hm
    have hv : v.toNat = i := by
      rw [← h i hi, hget]
    exact ⟨(name, v), by rw [hv, List.getElem?_eq_getElem hi, hget], rfl⟩
  · rintro ⟨⟨s, v⟩, hget, rfl⟩
    obtain ⟨hk, hm⟩ := List.getElem?_eq_some_iff.1 hget
    exact ⟨v, List.mem_of_getElem? hget, by rw [← h k hk, hm]⟩

/-- Names and the values below `n` correspond one to one. -/
structure OneToOne (e : FunctionEnum) (n : Nat) : Prop where
  once : (e.members.map Prod.fst).Nodup
  value : ∀ name ∈ e.members.map Prod.fst, ∃! k, e.Declares name k
  name : ∀ k < n, ∃! name, e.Declares name k
  bound : ∀ name k, e.Declares name k → k < n

/-- **Distinct names, numbered from zero, correspond to their numbers.** -/
theorem Numbered.oneToOne {e : FunctionEnum} (h : e.Numbered)
    (hnames : (e.members.map Prod.fst).Nodup) : e.OneToOne e.members.length where
  once := hnames
  value name hm := by
    obtain ⟨k, hk, hget⟩ := List.getElem_of_mem hm
    refine ⟨k, (declares_iff_getElem? h).2 (List.getElem?_eq_some_iff.2 ⟨hk, hget⟩), fun j hj => ?_⟩
    obtain ⟨hj, hname⟩ := List.getElem?_eq_some_iff.1 ((declares_iff_getElem? h).1 hj)
    exact hnames.getElem_inj_iff.1 (hname.trans hget.symm)
  name k hk := by
    have hk' : k < (e.members.map Prod.fst).length := by rwa [List.length_map]
    refine ⟨(e.members.map Prod.fst)[k], ?_, fun name hn => ?_⟩
    · exact (declares_iff_getElem? h).2 (List.getElem?_eq_getElem hk')
    · have hname := (declares_iff_getElem? h).1 hn
      rw [List.getElem?_eq_getElem hk'] at hname
      exact (Option.some.inj hname).symm
  bound name k hn := by
    obtain ⟨hk, -⟩ := List.getElem?_eq_some_iff.1 ((declares_iff_getElem? h).1 hn)
    rwa [List.length_map] at hk

end FunctionEnum

namespace FunctionTable

/-- Closing a table appends the controls. -/
theorem map_fst_members_finish (t : FunctionTable) :
    t.finish.members.map Prod.fst = t.members.map Prod.fst ++ Control.all.map Control.name := by
  rw [FunctionEnum.members, finish, List.filterMap_append, List.map_append]
  rfl

theorem Indexed.nodup_finish {t : FunctionTable} (h : t.Indexed) :
    (t.finish.members.map Prod.fst).Nodup := by
  rw [map_fst_members_finish]
  refine List.nodup_append.2 ⟨h.nodup, by decide, fun name hm control hc => ?_⟩
  obtain ⟨c, -, rfl⟩ := List.mem_map.1 hc
  exact (h.unreserved name hm c).symm

theorem Indexed.length_members_finish {t : FunctionTable} (h : t.Indexed) :
    t.finish.members.length = t.functions + 4 := by
  rw [← List.length_map Prod.fst, map_fst_members_finish, List.length_append, List.length_map,
    h.count]
  rfl

/-- A closed table declares each control once, behind its functions. -/
theorem Indexed.declares_control_iff {t : FunctionTable} (h : t.Indexed) (hn : t.finish.Numbered)
    {c : Control} {k : Nat} :
    t.finish.Declares c.name k ↔ k = t.functions + Control.all.idxOf c := by
  have hget : (t.finish.members.map Prod.fst)[t.functions + Control.all.idxOf c]?
      = some c.name := by
    rw [map_fst_members_finish, ← h.count, ← List.length_map Prod.fst,
      List.getElem?_append_right (Nat.le_add_right _ _), Nat.add_sub_cancel_left]
    cases c <;> rfl
  have hdeclared := (FunctionEnum.declares_iff_getElem? hn).2 hget
  refine ⟨fun hk => ?_, fun hk => hk ▸ hdeclared⟩
  exact ((hn.oneToOne h.nodup_finish).value _ (List.mem_of_getElem? hget)).unique hk hdeclared

/-- The enum of a history is numbered from zero, as long as the numbers do not run out. -/
theorem numbered_finish_after (ps : List Pass)
    (hsize : (empty.after ps).functions + 4 ≤ UInt32.size) : (empty.after ps).finish.Numbered := by
  have hfunctions : (empty.after ps).functions = ((empty.taken ps).flatMap Pass.names).length :=
    congrArg FunctionEnum.functions (finish_after ps)
  rw [finish_after]
  exact fun k hk => FunctionEnum.value_getElem_ofPasses (hfunctions ▸ hsize) hk

end FunctionTable

/-! ## The laws of names -/

/-- What holds of the names of a history: in the table behind it, and in the enum it closes to. -/
structure NamedHistory (ps : List Pass) : Prop where
  /-- The keys of the names seen are the names of the members: distinct, identifiers, and none of
  them a control's. -/
  indexed : (FunctionTable.empty.after ps).Indexed
  /-- The place of a member is the line of the accepted pass that brought it in. -/
  places : ∀ name value, (name, value) ∈ (FunctionTable.empty.after ps).members →
    ∃ earlier c later place, FunctionTable.empty.history ps = earlier ++ c :: later
      ∧ c.accepted = true
      ∧ (name, value) ∉ (FunctionTable.empty.after (earlier.map Call.pass)).members
      ∧ (name, value) ∈ c.table.members
      ∧ c.pass.DeclaresAt name place
      ∧ (FunctionTable.empty.after ps).seen.lookup name = some place
  /-- As long as the numbers do not run out, names and values correspond, and the default of the
  message's function is declared once. -/
  values : (FunctionTable.empty.after ps).functions + 4 ≤ UInt32.size →
    (FunctionTable.empty.after ps).finish.OneToOne
        ((FunctionTable.empty.after ps).finish.functions + 4)
      ∧ ∃ f ∈ Message.fields, f.name = "function".toList ∧ f.default? = some "NEG".toList
        ∧ ((FunctionTable.empty.after ps).finish.members.map Prod.fst).count "NEG".toList = 1
        ∧ ∀ k, (FunctionTable.empty.after ps).finish.Declares "NEG".toList k
          ↔ k = (FunctionTable.empty.after ps).finish.functions + 1

/-- **One name, one place, one value**, whatever passes are given to an empty table and however they
are answered. -/
theorem names_of_history (ps : List Pass) : NamedHistory ps := by
  have hindexed : (FunctionTable.empty.after ps).Indexed := FunctionTable.indexed_empty.after ps
  constructor
  case indexed => exact hindexed
  case places =>
    intro name value hm
    obtain ⟨earlier, c, later, place, hhistory, haccepted, hbefore, hc, hplace, hseen⟩ :=
      FunctionTable.exists_call_of_mem_members hm List.not_mem_nil
    exact ⟨earlier, c, later, place, hhistory, haccepted, hbefore, hc, hplace,
      lookup_eq_some_of_mem (hindexed.keys.nodup_iff.2 hindexed.nodup) hseen⟩
  case values =>
    intro hsize
    have hnumbered := FunctionTable.numbered_finish_after ps hsize
    have hone := hnumbered.oneToOne hindexed.nodup_finish
    rw [hindexed.length_members_finish] at hone
    have hcontrol : "NEG".toList ∈ (FunctionTable.empty.after ps).finish.members.map Prod.fst := by
      rw [FunctionTable.map_fst_members_finish]
      exact List.mem_append_right _ (by decide)
    exact ⟨hone, _, List.mem_cons_self, rfl, rfl,
      List.count_eq_one_of_mem hindexed.nodup_finish hcontrol,
      fun k => hindexed.declares_control_iff hnumbered (c := .negative)⟩

/-- A pass is rejected for its second name; the first one is then taken by another list, and has its
place there. -/
theorem names_of_history_moved :
    let ps : List Pass :=
      [⟨"gl2_api.in", ["API_ENTRY(glA)"], "end of GL functions"⟩,
       ⟨"gl2ext_api.in", ["API_ENTRY(glB)", "API_ENTRY(glA)"], "end of GL EXT functions"⟩,
       ⟨"more_api.in", ["", "void API_ENTRY( glB )(void);"], "end of more functions"⟩]
    (FunctionTable.empty.after ps).functions + 4 ≤ UInt32.size
      ∧ (FunctionTable.empty.after ps).seen.lookup "glB".toList = some ⟨"more_api.in", 2⟩
      ∧ NamedHistory ps :=
  ⟨by decide, by decide, names_of_history _⟩

end WireSchema
