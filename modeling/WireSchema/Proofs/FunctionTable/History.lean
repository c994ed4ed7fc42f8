import Mathlib.Tactic.Common
import WireSchema.Proofs.FunctionTable.Extension

/-!
# Proofs/FunctionTable/History — a table over any sequence of passes

A **history** gives passes to a table one after the other; each `Call` keeps its answer and the
table behind it.  The table behind a history is the table grown by the accepted passes
(`after_eq_foldl_grown`), so the accepted passes alone decide every later answer.

* `foldl_grown` — growing by passes appends their outlines, numbered on.
* `history_taken` — the accepted passes, given alone, are all accepted, with the same answers.
* `enum_of_history` — the enum of a history, with every answer on the way to it.
-/

namespace WireSchema

/-! ## Outlines and their numbering -/

/-- The name of a member. -/
def OutlineLine.name? : OutlineLine → Option Text
  | .member name => some name
  | .comment _ => none

/-- A line of the enum's body without its number. -/
def EnumLine.outline : EnumLine → OutlineLine
  | .member name _ => .member name
  | .comment text => .comment text

/-- What passes and the controls behind them put into the enum. -/
def outlineOf (ps : List Pass) : List OutlineLine :=
  ps.flatMap Pass.outline ++ Control.all.map fun c => .member c.name

/-- The enum of passes: their outline, numbered from zero. -/
def FunctionEnum.ofPasses (ps : List Pass) : FunctionEnum where
  lines := EnumLine.number 0 (outlineOf ps)
  functions := (ps.flatMap Pass.names).length
  controlStart := .ofNat (ps.flatMap Pass.names).length

namespace EnumLine

@[simp] theorem map_outline_number :
    ∀ (first : UInt32) (os : List OutlineLine), (number first os).map outline = os
  | _, [] => rfl
  | first, .member name :: os => by simp [number, outline, map_outline_number (first + 1) os]
  | first, .comment text :: os => by simp [number, outline, map_outline_number first os]

/-- A member in front moves the numbers of the others on by one. -/
theorem one_add_ofNat (first : UInt32) (k : Nat) :
    first + 1 + .ofNat k = first + .ofNat (k + 1) := by
  rw [UInt32.ofNat_add, UInt32.add_assoc, UInt32.add_comm 1]
  rfl

theorem number_append : ∀ (first : UInt32) (os os' : List OutlineLine),
    number first (os ++ os')
      = number first os ++ number (first + .ofNat (os.filterMap OutlineLine.name?).length) os'
  | first, [], os' => by simp [number]
  | first, .member name :: os, os' => by
      simp only [List.cons_append, number, number_append (first + 1) os os', OutlineLine.name?,
        List.filterMap_cons, List.length_cons, one_add_ofNat]
  | first, .comment text :: os, os' => by
      simp only [List.cons_append, number, number_append first os os', OutlineLine.name?,
        List.filterMap_cons]

/-- **Numbering gives the k-th member the first value plus k.** -/
theorem filterMap_member?_number : ∀ (first : UInt32) (os : List OutlineLine),
    (number first os).filterMap member?
      = (os.filterMap OutlineLine.name?).mapIdx fun k name => (name, first + .ofNat k)
  | _, [] => rfl
  | first, .member name :: os => by
      simp [number, OutlineLine.name?, member?, List.mapIdx_cons,
        filterMap_member?_number (first + 1) os, one_add_ofNat]
  | first, .comment text :: os => by
      simp [number, OutlineLine.name?, member?, List.filterMap_cons,
        filterMap_member?_number first os]

theorem number_controls : ∀ (first : UInt32) (cs : List Control),
    number first (cs.map fun c => .member c.name) = FunctionTable.controlLines first cs
  | _, [] => rfl
  | first, c :: cs => by
      simp [number, FunctionTable.controlLines, number_controls (first + 1) cs]

end EnumLine

theorem Pass.filterMap_name?_outline (p : Pass) :
    p.outline.filterMap OutlineLine.name? = p.names := by
  simp [outline, OutlineLine.name?, List.filterMap_append, List.filterMap_map, Function.comp_def]

theorem filterMap_name?_flatMap_outline (ps : List Pass) :
    (ps.flatMap Pass.outline).filterMap OutlineLine.name? = ps.flatMap Pass.names := by
  simp only [List.flatMap_def, List.filterMap_flatten, List.map_map, Function.comp_def,
    Pass.filterMap_name?_outline]

/-! ## The calls of a history -/

/-- One call of a history: the pass, its answer, and the table behind it. -/
structure Call where
  pass : Pass
  answer : Except TableError Nat
  table : FunctionTable
  deriving Repr

/-- Whether the pass of a call was taken. -/
def Call.accepted (c : Call) : Bool := c.answer.isOk

namespace FunctionTable

/-- Gives a pass to a table: a taken one grows it, a rejected one leaves it as it was. -/
def call (t : FunctionTable) (p : Pass) : Call :=
  match t.extend p with
  | .ok (added, t') => ⟨p, .ok added, t'⟩
  | .error e => ⟨p, .error e, t⟩

/-- The calls of a history, in order. -/
def history (t : FunctionTable) : List Pass → List Call
  | [] => []
  | p :: ps => t.call p :: history (t.call p).table ps

/-- The table behind a history. -/
def after (t : FunctionTable) : List Pass → FunctionTable
  | [] => t
  | p :: ps => after (t.call p).table ps

/-- The passes that a history took. -/
def taken (t : FunctionTable) (ps : List Pass) : List Pass :=
  ((t.history ps).filter Call.accepted).map Call.pass

/-- A call takes a pass that the table admits, and leaves no trace of any other. -/
theorem call_cases (t : FunctionTable) (p : Pass) :
    (t.Admits p ∧ t.call p = ⟨p, .ok p.names.length, t.grown p⟩)
      ∨ ∃ e, t.extend p = .error e ∧ t.call p = ⟨p, .error e, t⟩ := by
  rcases h : t.extend p with e | r
  · exact .inr ⟨e, rfl, by rw [call, h]⟩
  · obtain ⟨hadmits, rfl⟩ := extend_eq_ok_iff.1 h
    exact .inl ⟨hadmits, by rw [call, h]⟩

theorem of_call_eq_ok {t : FunctionTable} {p : Pass} {n : Nat} (h : (t.call p).answer = .ok n) :
    t.Admits p ∧ n = p.names.length := by
  rcases t.call_cases p with ⟨hadmits, hc⟩ | ⟨e, -, hc⟩
  · rw [hc] at h
    exact ⟨hadmits, (Except.ok.inj h).symm⟩
  · rw [hc] at h
    contradiction

theorem table_call_of_rejected {t : FunctionTable} {p : Pass} (h : (t.call p).accepted = false) :
    (t.call p).table = t := by
  rcases t.call_cases p with ⟨-, hc⟩ | ⟨e, -, hc⟩
  · rw [hc] at h
    contradiction
  · rw [hc]

theorem history_append : ∀ (t : FunctionTable) (ps qs : List Pass),
    t.history (ps ++ qs) = t.history ps ++ (t.after ps).history qs
  | _, [], _ => rfl
  | t, p :: ps, qs => congrArg (t.call p :: ·) (history_append (t.call p).table ps qs)

theorem after_append : ∀ (t : FunctionTable) (ps qs : List Pass),
    t.after (ps ++ qs) = (t.after ps).after qs
  | _, [], _ => rfl
  | t, p :: ps, qs => after_append (t.call p).table ps qs

@[simp] theorem call_pass (t : FunctionTable) (p : Pass) : (t.call p).pass = p := by
  rcases t.call_cases p with ⟨-, h⟩ | ⟨e, -, h⟩ <;> rw [h]

@[simp] theorem map_pass_history : ∀ (t : FunctionTable) (ps : List Pass),
    (t.history ps).map Call.pass = ps
  | _, [] => rfl
  | t, p :: ps => by rw [history, List.map_cons, call_pass, map_pass_history]

/-- **A call in the middle of a history** is made on the table behind the earlier calls, and the
later ones go on from its own. -/
theorem of_history_eq_append {t : FunctionTable} {ps : List Pass} {earlier later : List Call}
    {c : Call} (h : t.history ps = earlier ++ c :: later) :
    ps = earlier.map Call.pass ++ c.pass :: later.map Call.pass
      ∧ t.history (earlier.map Call.pass) = earlier
      ∧ (t.after (earlier.map Call.pass)).call c.pass = c
      ∧ c.table.history (later.map Call.pass) = later := by
  have hps : ps = earlier.map Call.pass ++ c.pass :: later.map Call.pass := by
    rw [← map_pass_history t ps, h, List.map_append, List.map_cons]
  have hlength : (t.history (earlier.map Call.pass)).length = earlier.length := by
    rw [← List.length_map Call.pass, map_pass_history, List.length_map]
  rw [hps, history_append, history] at h
  obtain ⟨hearlier, hrest⟩ := List.append_inj h hlength
  obtain ⟨hc, hlater⟩ := List.cons.inj hrest
  exact ⟨hps, hearlier, hc, by rw [hc] at hlater; exact hlater⟩

/-- A history up to one of its calls ends with that call's table. -/
theorem after_through {t : FunctionTable} {ps : List Pass} {earlier later : List Call} {c : Call}
    (h : t.history ps = earlier ++ c :: later) :
    t.history ((earlier ++ [c]).map Call.pass) = earlier ++ [c]
      ∧ t.after ((earlier ++ [c]).map Call.pass) = c.table := by
  obtain ⟨-, hearlier, hcall, -⟩ := of_history_eq_append h
  rw [List.map_append, List.map_singleton, history_append, hearlier, after_append]
  exact ⟨by rw [history, history, hcall], by rw [after, after, hcall]⟩

/-- **A rejected call can be left out**: every other call and the table at the end stay the same. -/
theorem history_without {t : FunctionTable} {ps : List Pass} {earlier later : List Call} {c : Call}
    (h : t.history ps = earlier ++ c :: later) (hrejected : c.accepted = false) :
    t.history ((earlier ++ later).map Call.pass) = earlier ++ later
      ∧ t.after ((earlier ++ later).map Call.pass) = t.after ps := by
  obtain ⟨hps, hearlier, hcall, hlater⟩ := of_history_eq_append h
  have htable : c.table = t.after (earlier.map Call.pass) := by
    rw [← hcall] at hrejected ⊢
    exact table_call_of_rejected hrejected
  rw [htable] at hlater
  constructor
  · rw [List.map_append, history_append, hearlier, hlater]
  · rw [hps, List.map_append, after_append, after_append, after, hcall, htable]

/-! ## The accepted passes decide -/

theorem taken_cons (t : FunctionTable) (p : Pass) (ps : List Pass) :
    t.taken (p :: ps)
      = (if (t.call p).accepted then [p] else []) ++ (t.call p).table.taken ps := by
  rw [taken, history, List.filter_cons]
  split <;> simp [taken]

theorem mem_of_mem_taken {t : FunctionTable} {p : Pass} {ps : List Pass} (h : p ∈ t.taken ps) :
    p ∈ ps := by
  obtain ⟨c, hc, rfl⟩ := List.mem_map.1 h
  rw [← map_pass_history t ps]
  exact List.mem_map_of_mem (List.mem_filter.1 hc).1

/-- **The table behind a history is the table grown by the accepted passes.** -/
theorem after_eq_foldl_grown : ∀ (t : FunctionTable) (ps : List Pass),
    t.after ps = (t.taken ps).foldl grown t
  | _, [] => rfl
  | t, p :: ps => by
      rw [after, after_eq_foldl_grown, taken_cons]
      rcases t.call_cases p with ⟨-, h⟩ | ⟨e, -, h⟩
      · rw [h]
        rfl
      · rw [h]
        rfl

/-- **The accepted passes, given alone, are all accepted**, with the same answers and tables. -/
theorem history_taken : ∀ (t : FunctionTable) (ps : List Pass),
    t.history (t.taken ps) = (t.history ps).filter Call.accepted
  | _, [] => rfl
  | t, p :: ps => by
      rw [taken_cons, history, List.filter_cons]
      rcases t.call_cases p with ⟨-, h⟩ | ⟨e, -, h⟩
      · rw [if_pos (by rw [h]; rfl), if_pos (by rw [h]; rfl), List.singleton_append, history,
          history_taken]
      · rw [if_neg (by rw [h]; simp [Call.accepted, Except.isOk, Except.toBool]),
          if_neg (by rw [h]; simp [Call.accepted, Except.isOk, Except.toBool]), List.nil_append, h,
          history_taken]

@[simp] theorem taken_taken (t : FunctionTable) (ps : List Pass) :
    t.taken (t.taken ps) = t.taken ps := by
  rw [taken, history_taken, List.filter_filter]
  simp [taken]

theorem after_taken (t : FunctionTable) (ps : List Pass) : t.after (t.taken ps) = t.after ps := by
  rw [after_eq_foldl_grown, taken_taken, ← after_eq_foldl_grown]

/-- **Growing by passes appends their outlines**, numbered on, and adds up their names. -/
theorem foldl_grown : ∀ (t : FunctionTable) (ps : List Pass),
    ps.foldl grown t
      = { lines := t.lines ++ EnumLine.number t.nextIndex (ps.flatMap Pass.outline)
          seen := (ps.flatMap Pass.declared).reverse ++ t.seen
          nextIndex := t.nextIndex + .ofNat (ps.flatMap Pass.names).length
          functions := t.functions + (ps.flatMap Pass.names).length }
  | t, [] => by simp [EnumLine.number]
  | t, p :: ps => by
      rw [List.foldl_cons, foldl_grown]
      simp only [grown, List.flatMap_cons, EnumLine.number_append, Pass.filterMap_name?_outline,
        List.append_assoc, List.reverse_append, List.length_append, UInt32.ofNat_add,
        UInt32.add_assoc, Nat.add_assoc]

/-- **The table grown by passes closes to their enum.** -/
theorem finish_foldl_grown (ps : List Pass) :
    (ps.foldl grown empty).finish = FunctionEnum.ofPasses ps := by
  rw [foldl_grown]
  simp [finish, empty, FunctionEnum.ofPasses, outlineOf, EnumLine.number_append,
    EnumLine.number_controls, filterMap_name?_flatMap_outline]

/-- **A history closes to the enum of the passes it took.** -/
theorem finish_after (ps : List Pass) :
    (empty.after ps).finish = FunctionEnum.ofPasses (empty.taken ps) := by
  rw [after_eq_foldl_grown, finish_foldl_grown]

/-- The entries of the accepted passes are among the marker lines of all. -/
theorem length_names_taken_le : ∀ (t : FunctionTable) (ps : List Pass),
    ((t.taken ps).flatMap Pass.names).length ≤ Pass.totalMarkerLines ps
  | _, [] => Nat.le_refl 0
  | t, p :: ps => by
      have hp : p.names.length ≤ p.markerLines := Entry.length_names_le p.lines
      have hps := length_names_taken_le (t.call p).table ps
      have hhead : ((if (t.call p).accepted then [p] else []).flatMap Pass.names).length
          ≤ p.names.length := by split <;> simp
      rw [taken_cons, List.flatMap_append, List.length_append, Pass.totalMarkerLines_cons]
      omega

end FunctionTable

namespace FunctionEnum

theorem members_ofPasses (ps : List Pass) :
    (ofPasses ps).members
      = (ps.flatMap Pass.names ++ Control.all.map Control.name).mapIdx
          fun k name => (name, .ofNat k) := by
  rw [members, ofPasses, EnumLine.filterMap_member?_number, outlineOf, List.filterMap_append,
    filterMap_name?_flatMap_outline]
  simp [OutlineLine.name?, List.filterMap_map, Function.comp_def]

theorem names_ofPasses (ps : List Pass) :
    (ofPasses ps).members.map Prod.fst = ps.flatMap Pass.names ++ Control.all.map Control.name := by
  rw [members_ofPasses]
  exact List.ext_getElem (by simp) fun k _ _ => by simp

/-- **The k-th member has the value k**, as long as the numbers do not run out. -/
theorem value_getElem_ofPasses {ps : List Pass}
    (hsize : (ps.flatMap Pass.names).length + 4 ≤ UInt32.size) {k : Nat}
    (hk : k < (ofPasses ps).members.length) : (ofPasses ps).members[k].2.toNat = k := by
  have hlength : (ofPasses ps).members.length = (ps.flatMap Pass.names).length + 4 := by
    rw [members_ofPasses, List.length_mapIdx, List.length_append]
    rfl
  rw [List.getElem_of_eq (members_ofPasses ps) hk, List.getElem_mapIdx]
  exact UInt32.toNat_ofNat_of_lt' (by omega)

end FunctionEnum

/-! ## The laws of a history -/

/-- What holds of the calls of a history from the empty table and of the enum it is closed to. -/
structure NumberedHistory (ps : List Pass) : Prop where
  /-- The enum lists the accepted passes in call order, each with its names in line order and then
  its comment, and the controls behind them. -/
  lines : (FunctionTable.empty.after ps).finish.lines.map EnumLine.outline
    = outlineOf (FunctionTable.empty.taken ps)
  /-- No value is left out, used twice or out of order. -/
  values : ∀ k (hk : k < (FunctionTable.empty.after ps).finish.members.length),
    (FunctionTable.empty.after ps).finish.members[k].2.toNat = k
  /-- An accepted call answers with the number of its marker lines. -/
  answers : ∀ c ∈ FunctionTable.empty.history ps, ∀ n, c.answer = .ok n → n = c.pass.markerLines
  /-- Behind each call the index is the number of entries accepted so far. -/
  index : ∀ earlier c later, FunctionTable.empty.history ps = earlier ++ c :: later →
    c.table.nextIndex.toNat
      = (((earlier ++ [c]).filter Call.accepted).flatMap fun c => c.pass.names).length
  /-- The functions are counted, and the controls begin at their number. -/
  functions : (FunctionTable.empty.after ps).finish.functions
    = ((FunctionTable.empty.taken ps).flatMap Pass.names).length
  controlStart : (FunctionTable.empty.after ps).finish.controlStart.toNat
    = ((FunctionTable.empty.taken ps).flatMap Pass.names).length
  /-- Without one rejected call, all other calls and the enum are the same. -/
  without : ∀ earlier c later, FunctionTable.empty.history ps = earlier ++ c :: later →
    c.accepted = false →
      FunctionTable.empty.history ((earlier ++ later).map Call.pass) = earlier ++ later
        ∧ FunctionTable.empty.after ((earlier ++ later).map Call.pass)
          = FunctionTable.empty.after ps
  /-- Without all rejected calls, the accepted ones and the enum are the same. -/
  withoutAll : FunctionTable.empty.history (FunctionTable.empty.taken ps)
      = (FunctionTable.empty.history ps).filter Call.accepted
    ∧ FunctionTable.empty.after (FunctionTable.empty.taken ps) = FunctionTable.empty.after ps

/-- **Numbering of a whole history.**  Whatever passes are given to an empty table, in whatever
order they are accepted and rejected, the calls and the enum obey the laws of a history. -/
theorem enum_of_history (ps : List Pass) (hsize : Pass.totalMarkerLines ps + 4 < UInt32.size) :
    NumberedHistory ps := by
  have htaken : ∀ qs rest, ps = qs ++ rest →
      ((FunctionTable.empty.taken qs).flatMap Pass.names).length + 4 < UInt32.size := by
    rintro qs rest rfl
    have := FunctionTable.length_names_taken_le .empty qs
    rw [Pass.totalMarkerLines_append] at hsize
    omega
  have hps := htaken ps [] (by simp)
  constructor
  case lines =>
    rw [FunctionTable.finish_after]
    exact EnumLine.map_outline_number _ _
  case values =>
    rw [FunctionTable.finish_after]
    exact fun k hk => FunctionEnum.value_getElem_ofPasses (Nat.le_of_lt hps) hk
  case answers =>
    intro c hc n hn
    obtain ⟨earlier, later, h⟩ := List.append_of_mem hc
    obtain ⟨-, -, hcall, -⟩ := FunctionTable.of_history_eq_append h
    obtain ⟨hadmits, rfl⟩ := FunctionTable.of_call_eq_ok (hcall ▸ hn)
    exact hadmits.length_names
  case index =>
    intro earlier c later h
    obtain ⟨hhistory, hafter⟩ := FunctionTable.after_through h
    obtain ⟨hps, -⟩ := FunctionTable.of_history_eq_append h
    have hsmall := htaken ((earlier ++ [c]).map Call.pass) (later.map Call.pass)
      (by simpa using hps)
    have hnames : (FunctionTable.empty.taken ((earlier ++ [c]).map Call.pass)).flatMap Pass.names
        = ((earlier ++ [c]).filter Call.accepted).flatMap fun c => c.pass.names := by
      rw [FunctionTable.taken, hhistory, List.flatMap_map]
    rw [← hnames, ← hafter, FunctionTable.after_eq_foldl_grown, FunctionTable.foldl_grown]
    refine Eq.trans (congrArg UInt32.toNat (UInt32.zero_add _)) ?_
    exact UInt32.toNat_ofNat_of_lt' (by omega)
  case functions =>
    rw [FunctionTable.finish_after]
    rfl
  case controlStart =>
    rw [FunctionTable.finish_after]
    exact UInt32.toNat_ofNat_of_lt' (by omega)
  case without => exact fun _ _ _ h hrejected => FunctionTable.history_without h hrejected
  case withoutAll => exact ⟨FunctionTable.history_taken _ _, FunctionTable.after_taken _ _⟩

/-- A pass that fails at its second line is given again without it: its first name is still free,
and takes the value it would have had. -/
theorem enum_of_history_retried :
    let ps : List Pass :=
      [⟨"gl2_api.in", ["API_ENTRY(glA)"], "end of GL functions"⟩,
       ⟨"gl2ext_api.in", ["API_ENTRY(glB)", "API_ENTRY(glC"], "end of GL EXT functions"⟩,
       ⟨"gl2ext_api.in", ["API_ENTRY(glB)"], "end of GL EXT functions"⟩]
    Pass.totalMarkerLines ps + 4 < UInt32.size
      ∧ (FunctionTable.empty.taken ps).flatMap Pass.names = ["glA".toList, "glB".toList]
      ∧ NumberedHistory ps :=
  ⟨by decide, by decide, enum_of_history _ (by decide)⟩

end WireSchema
