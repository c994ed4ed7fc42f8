import Mathlib.Data.List.Induction
import Mathlib.Data.Nat.Find
import Mathlib.Tactic.Common
import WireSchema.Proofs.FunctionTable.Feeding

/-!
# Proofs/FunctionTable/Offence — the first offending line decides

A line of a pass **offends** when it cannot be read, when its name belongs to a control, when the name
was taken before, or when an earlier line of the same pass declares it (`Pass.Offends`).  A pass is
taken when no line offends; otherwise its error is that of the first line that does, whatever is
behind it.

* `check_item_eq_error_iff` — one further line behind lines that were taken.
* `Indexed.extend_eq_error_iff_first` — the whole pass, line by line.
* `first_offence_of_history` — a pass on any table that passes lead to.
-/

namespace WireSchema

/-- Why the line `j` of a pass, counted from zero, offends, with the error it gives, whose places
count lines from one; `taken` holds the names taken before the pass, each with its place. -/
inductive Pass.Offends (taken : Text → Place → Prop) (p : Pass) (j : Nat) : TableError → Prop
  | unreadable {l : Text} {fault : LineFault} (hl : p.lines[j]? = some l)
      (h : Entry.readLine l = some (.error fault)) : Offends taken p j (.parse ⟨j + 1, fault⟩)
  | reserved {l : Text} (c : Control) (hl : p.lines[j]? = some l)
      (h : Entry.readLine l = some (.ok c.name)) :
      Offends taken p j (.reserved c.name ⟨p.origin, j + 1⟩)
  | taken {l name : Text} {first : Place} (hl : p.lines[j]? = some l)
      (h : Entry.readLine l = some (.ok name)) (hfirst : taken name first) :
      Offends taken p j (.duplicate name ⟨p.origin, j + 1⟩ first)
  | repeated {l l' name : Text} {i : Nat} (hl : p.lines[j]? = some l)
      (h : Entry.readLine l = some (.ok name)) (hi : i < j) (hl' : p.lines[i]? = some l')
      (h' : Entry.readLine l' = some (.ok name)) :
      Offends taken p j (.duplicate name ⟨p.origin, j + 1⟩ ⟨p.origin, i + 1⟩)

/-- The line `j` offends, with the error `e`, and no line before it does. -/
def Pass.FirstOffence (taken : Text → Place → Prop) (p : Pass) (j : Nat) (e : TableError) : Prop :=
  p.Offends taken j e ∧ ∀ i < j, ∀ e', ¬ p.Offends taken i e'

namespace Pass

variable {taken : Text → Place → Prop} {p : Pass} {j : Nat} {e : TableError}

theorem Offends.exists_line (h : p.Offends taken j e) : ∃ l, p.lines[j]? = some l := by
  cases h <;> exact ⟨_, ‹_›⟩

theorem Offends.lt_length (h : p.Offends taken j e) : j < p.lines.length := by
  obtain ⟨l, hl⟩ := h.exists_line
  exact (List.getElem?_eq_some_iff.1 hl).1

/-- Whether a line offends is decided by the lines up to it. -/
theorem Offends.congr {q : Pass} (h : p.Offends taken j e) (horigin : p.origin = q.origin)
    (hlines : ∀ i ≤ j, p.lines[i]? = q.lines[i]?) : q.Offends taken j e := by
  cases h with
  | unreadable hl h => exact .unreadable (hlines j le_rfl ▸ hl) h
  | reserved c hl h => exact horigin ▸ .reserved c (hlines j le_rfl ▸ hl) h
  | taken hl h hfirst => exact horigin ▸ .taken (hlines j le_rfl ▸ hl) h hfirst
  | repeated hl h hi hl' h' =>
    exact horigin ▸ .repeated (hlines j le_rfl ▸ hl) h hi (hlines _ (Nat.le_of_lt hi) ▸ hl') h'

/-- Where any line offends, there is a first one. -/
theorem Offends.exists_first (h : p.Offends taken j e) : ∃ i e', p.FirstOffence taken i e' := by
  classical
  have hex : ∃ i e', p.Offends taken i e' := ⟨j, e, h⟩
  obtain ⟨e', he'⟩ := Nat.find_spec hex
  exact ⟨_, e', he', fun i hi e'' h'' => Nat.find_min hex hi ⟨e'', h''⟩⟩

/-- Further lines do not change which of the lines before them offend. -/
theorem offends_append_iff (hj : j < p.lines.length) (ls : List Text) :
    Offends taken { p with lines := p.lines ++ ls } j e ↔ p.Offends taken j e := by
  have hlines : ∀ i ≤ j, (p.lines ++ ls)[i]? = p.lines[i]? := fun i hi =>
    List.getElem?_append_left (Nat.lt_of_le_of_lt hi hj)
  exact ⟨fun h => h.congr rfl hlines, fun h => h.congr rfl fun i hi => (hlines i hi).symm⟩

theorem firstOffence_append_iff (hj : j < p.lines.length) (ls : List Text) :
    FirstOffence taken { p with lines := p.lines ++ ls } j e ↔ p.FirstOffence taken j e := by
  have hbefore : (∀ i < j, ∀ e', ¬ Offends taken { p with lines := p.lines ++ ls } i e')
      ↔ ∀ i < j, ∀ e', ¬ p.Offends taken i e' :=
    forall₂_congr fun i hi => forall_congr' fun e' =>
      not_congr (offends_append_iff (Nat.lt_trans hi hj) ls)
  exact and_congr (offends_append_iff hj ls) hbefore

theorem FirstOffence.unique {j' : Nat} {e' : TableError} (h : p.FirstOffence taken j e)
    (h' : p.FirstOffence taken j' e') : j = j' := by
  rcases Nat.lt_trichotomy j j' with hlt | heq | hgt
  · exact absurd h.1 (h'.2 j hlt e)
  · exact heq
  · exact absurd h'.1 (h.2 j' hgt e')

theorem mem_declared_iff {p : Pass} {name : Text} {place : Place} :
    (name, place) ∈ p.declared ↔ p.DeclaresAt name place := by
  refine ⟨declaresAt_of_mem_declared, ?_⟩
  obtain ⟨origin, line⟩ := place
  rintro ⟨rfl, i, l, hl, rfl, hread⟩
  refine List.mem_filterMap.2 ⟨(l, i + 1), ?_, ?_⟩
  · exact List.mk_mem_zipIdx_iff_le_and_getElem?_sub.2 ⟨by omega, by simpa using hl⟩
  · rw [Entry.name?_eq_some_iff.2 hread]
    rfl

end Pass

namespace FunctionTable

/-! ## One more line -/

theorem lookup_eq_some_iff {seen : List (Text × Place)} {name : Text} {place : Place}
    (hkeys : (seen.map Prod.fst).Nodup) :
    seen.lookup name = some place ↔ (name, place) ∈ seen := by
  refine ⟨fun h => ?_, lookup_eq_some_of_mem hkeys⟩
  obtain ⟨l₁, l₂, rfl, -⟩ := List.lookup_eq_some_iff.1 h
  exact List.mem_append_right _ List.mem_cons_self

/-- Good items in front only add their names to those seen. -/
theorem check_append_eq_error_iff {origin : Text} {e : TableError} {more : List Item} :
    ∀ {seen : List (Text × Place)} {es : List Entry}, Fresh seen (es.map Entry.name) →
      (check origin seen (es.map .ok ++ more) = .error e
        ↔ check origin ((es.map fun e => (e.name, ⟨origin, e.line⟩)).reverse ++ seen) more
          = .error e)
  | _, [], _ => Iff.rfl
  | seen, entry :: es, h => by
      obtain ⟨hr, hs, hes⟩ := fresh_cons_iff.1 h
      rw [List.map_cons, List.map_cons, List.reverse_cons, List.append_assoc, List.singleton_append,
        ← check_append_eq_error_iff hes, List.cons_append]
      simp only [check, hr, lookup_eq_none_iff.2 hs, Bool.false_eq_true, if_false]
      cases check origin ((entry.name, ⟨origin, entry.line⟩) :: seen) (es.map .ok ++ more) <;> simp

/-- What the item of a single line is refused for. -/
theorem check_item_eq_error_iff {t : FunctionTable} (ht : t.Indexed) {origin l : Text} {n : Nat}
    {i : UInt32} {e : TableError} :
    check origin t.seen (Entry.itemsFrom i n [l]) = .error e
      ↔ (∃ fault, Entry.readLine l = some (.error fault) ∧ e = .parse ⟨n + 1, fault⟩)
        ∨ (∃ c : Control, Entry.readLine l = some (.ok c.name)
          ∧ e = .reserved c.name ⟨origin, n + 1⟩)
        ∨ ∃ name first, Entry.readLine l = some (.ok name) ∧ (name, first) ∈ t.seen
          ∧ e = .duplicate name ⟨origin, n + 1⟩ first := by
  have hkeys : (t.seen.map Prod.fst).Nodup := ht.keys.nodup_iff.2 ht.nodup
  rcases hline : Entry.readLine l with _ | fault | name
  · simp [Entry.itemsFrom, hline, check]
  · simp [Entry.itemsFrom, hline, check, eq_comm]
  · have hitems : Entry.itemsFrom i n [l] = [.ok ⟨name, i, n + 1⟩] := by
      simp only [Entry.itemsFrom, hline]
    rw [hitems]
    constructor
    · intro h
      dsimp only [check] at h
      split_ifs at h with hr
      · obtain ⟨c, rfl⟩ := Control.isReserved_iff.1 hr
        exact .inr (.inl ⟨c, rfl, (Except.error.inj h).symm⟩)
      rcases hseen : t.seen.lookup name with _ | first
      · rw [hseen] at h
        contradiction
      · rw [hseen] at h
        exact .inr (.inr ⟨name, first, rfl, (lookup_eq_some_iff hkeys).1 hseen,
          (Except.error.inj h).symm⟩)
    · rintro (⟨_, h, -⟩ | ⟨c, h, rfl⟩ | ⟨_, first, h, hm, rfl⟩)
      · have hok := Option.some.inj h
        contradiction
      · obtain rfl : name = c.name := Except.ok.inj (Option.some.inj h)
        simp only [check, Control.isReserved_iff.2 ⟨c, rfl⟩, if_true]
      · obtain rfl := Except.ok.inj (Option.some.inj h)
        have hfree : Control.isReserved name = false := Bool.eq_false_iff.2 fun hr => by
          obtain ⟨c, hc⟩ := Control.isReserved_iff.1 hr
          exact ht.unreserved name (ht.keys.mem_iff.1 (List.mem_map_of_mem hm)) c hc
        simp only [check, hfree, Bool.false_eq_true, if_false, (lookup_eq_some_iff hkeys).2 hm]

/-- The names that a table has taken, each with its place. -/
def Taken (t : FunctionTable) (name : Text) (place : Place) : Prop := (name, place) ∈ t.seen

theorem taken_grown_iff {t : FunctionTable} {p : Pass} {name : Text} {place : Place} :
    (t.grown p).Taken name place ↔ p.DeclaresAt name place ∨ t.Taken name place := by
  rw [Taken, grown, List.mem_append, List.mem_reverse, Pass.mem_declared_iff, Taken]

/-- **Behind lines that a table takes, one more line is refused exactly when it offends.** -/
theorem Indexed.extend_concat_eq_error_iff {t : FunctionTable} (ht : t.Indexed) {p : Pass}
    (hp : t.Admits p) (l : Text) {e : TableError} :
    t.extend { p with lines := p.lines ++ [l] } = .error e
      ↔ Pass.Offends t.Taken { p with lines := p.lines ++ [l] } p.lines.length e := by
  have hitems : Entry.itemsFrom t.nextIndex 0 p.lines
      = (Entry.entriesFrom t.nextIndex 0 p.lines).map .ok :=
    Entry.itemsFrom_eq_map_ok_iff.2 ⟨hp.readable, rfl⟩
  have hfresh : Fresh t.seen ((Entry.entriesFrom t.nextIndex 0 p.lines).map Entry.name) := by
    rw [Entry.map_name_entriesFrom]
    exact hp.fresh
  have hseen : ((Entry.entriesFrom t.nextIndex 0 p.lines).map
      fun e => (e.name, (⟨p.origin, e.line⟩ : Place))).reverse ++ t.seen = (t.grown p).seen := by
    rw [Entry.map_place_entriesFrom]
    rfl
  have hlast : (p.lines ++ [l])[p.lines.length]? = some l := List.getElem?_concat_length
  rw [extend_eq_error_iff, Entry.itemsFrom_append, hitems, check_append_eq_error_iff hfresh, hseen,
    check_item_eq_error_iff (ht.grown hp), Nat.zero_add]
  constructor
  · rintro (⟨fault, h, rfl⟩ | ⟨c, h, rfl⟩ | ⟨name, ⟨origin, line⟩, h, hm, rfl⟩)
    · exact .unreadable hlast h
    · exact .reserved c hlast h
    · rcases taken_grown_iff.1 hm with ⟨rfl, i, l', hl', rfl, h'⟩ | hm
      · have hi : i < p.lines.length := (List.getElem?_eq_some_iff.1 hl').1
        exact .repeated hlast h hi ((List.getElem?_append_left hi).trans hl') h'
      · exact .taken hlast h hm
  · intro h
    cases h with
    | unreadable hl h =>
      obtain rfl := Option.some.inj (hlast.symm.trans hl)
      exact .inl ⟨_, h, rfl⟩
    | reserved c hl h =>
      obtain rfl := Option.some.inj (hlast.symm.trans hl)
      exact .inr (.inl ⟨c, h, rfl⟩)
    | taken hl h hfirst =>
      obtain rfl := Option.some.inj (hlast.symm.trans hl)
      exact .inr (.inr ⟨_, _, h, taken_grown_iff.2 (.inr hfirst), rfl⟩)
    | repeated hl h hi hl' h' =>
      obtain rfl := Option.some.inj (hlast.symm.trans hl)
      have hl' := (List.getElem?_append_left hi).symm.trans hl'
      exact .inr (.inr ⟨_, _, h, taken_grown_iff.2 (.inl ⟨rfl, _, _, hl', rfl, h'⟩), rfl⟩)

/-! ## All lines -/

/-- **The error of a pass is that of its first offending line.** -/
theorem Indexed.extend_eq_error_iff_first {t : FunctionTable} (ht : t.Indexed) (p : Pass)
    (e : TableError) : t.extend p = .error e ↔ ∃ j, p.FirstOffence t.Taken j e := by
  obtain ⟨origin, lines, endMarker⟩ := p
  induction lines using List.reverseRecOn generalizing e with
  | nil =>
    refine iff_of_false (fun h => ?_) fun ⟨j, h, _⟩ => absurd h.lt_length (Nat.not_lt_zero j)
    rw [extend_eq_error_iff] at h
    contradiction
  | append_singleton ls l ih =>
    rcases hp : t.extend ⟨origin, ls, endMarker⟩ with e₀ | r
    -- The lines in front are refused: their first offence is that of all lines, too.
    · have hq : t.extend ⟨origin, ls ++ [l], endMarker⟩ = .error e₀ := extend_append_of_error hp [l]
      obtain ⟨j₀, hj₀⟩ := (ih e₀).1 hp
      have hlt : j₀ < ls.length := hj₀.1.lt_length
      have hfirst := (Pass.firstOffence_append_iff hlt [l]).2 hj₀
      rw [hq, Except.error.injEq]
      constructor
      · rintro rfl
        exact ⟨j₀, hfirst⟩
      · rintro ⟨j, hj⟩
        obtain rfl : j = j₀ := hj.unique hfirst
        have he := (ih e).2 ⟨j, (Pass.firstOffence_append_iff hlt [l]).1 hj⟩
        exact Except.error.inj (hp.symm.trans he)
    -- They are taken: none of them offends, and the last line decides.
    · have hclean : ∀ j e', ¬ Pass.Offends t.Taken ⟨origin, ls, endMarker⟩ j e' := fun j e' h => by
        obtain ⟨i, e'', hfirst⟩ := h.exists_first
        rw [(ih e'').2 ⟨i, hfirst⟩] at hp
        contradiction
      have hfront : ∀ j < ls.length, ∀ e',
          ¬ Pass.Offends t.Taken ⟨origin, ls ++ [l], endMarker⟩ j e' := fun j hj e' h =>
        hclean j e' ((Pass.offends_append_iff hj [l]).1 h)
      rw [ht.extend_concat_eq_error_iff (extend_eq_ok_iff.1 hp).1 l]
      constructor
      · exact fun h => ⟨ls.length, h, hfront⟩
      · rintro ⟨j, hj, -⟩
        have hlt : j < ls.length + 1 := by simpa using hj.lt_length
        obtain rfl : j = ls.length := by
          by_contra hne
          exact hfront j (by omega) e hj
        exact hj

/-- **A pass is taken exactly when no line offends.** -/
theorem Indexed.extend_isOk_iff {t : FunctionTable} (ht : t.Indexed) (p : Pass) :
    (∃ r, t.extend p = .ok r) ↔ ∀ j e, ¬ p.Offends t.Taken j e := by
  constructor
  · rintro ⟨r, hr⟩ j e h
    obtain ⟨i, e', hfirst⟩ := h.exists_first
    rw [(ht.extend_eq_error_iff_first p e').2 ⟨i, hfirst⟩] at hr
    contradiction
  · intro hclean
    rcases hp : t.extend p with e | r
    · obtain ⟨j, hj, -⟩ := (ht.extend_eq_error_iff_first p e).1 hp
      exact absurd hj (hclean j e)
    · exact ⟨r, rfl⟩

/-! ## Places in a history -/

/-- Where a history took a name: at a line of one of its accepted passes. -/
def AcceptedAt (ps : List Pass) (name : Text) (place : Place) : Prop :=
  ∃ c ∈ empty.history ps, c.accepted = true ∧ c.pass.DeclaresAt name place

/-- The names that a table has taken are those that its history accepted, with the same places. -/
theorem taken_after_iff {ps : List Pass} {name : Text} {place : Place} :
    (empty.after ps).Taken name place ↔ AcceptedAt ps name place := by
  rw [Taken, after_eq_foldl_grown, foldl_grown]
  simp only [empty, List.append_nil, List.mem_reverse, List.mem_flatMap, Pass.mem_declared_iff]
  constructor
  · rintro ⟨p, hp, hplace⟩
    obtain ⟨c, hc, rfl⟩ := List.mem_map.1 hp
    obtain ⟨hc, haccepted⟩ := List.mem_filter.1 hc
    exact ⟨c, hc, haccepted, hplace⟩
  · rintro ⟨c, hc, haccepted, hplace⟩
    exact ⟨c.pass, List.mem_map_of_mem (List.mem_filter.2 ⟨hc, haccepted⟩), hplace⟩

end FunctionTable

/-- What decides about a pass on the table behind a history. -/
structure FirstOffenceLaws (ps : List Pass) (p : Pass) : Prop where
  /-- The pass is taken exactly when none of its lines offends. -/
  accepted : (∃ r, (FunctionTable.empty.after ps).extend p = .ok r)
    ↔ ∀ j e, ¬ p.Offends (FunctionTable.AcceptedAt ps) j e
  /-- Its error is that of the first offending line, and of no later one. -/
  rejected : ∀ e, (FunctionTable.empty.after ps).extend p = .error e
    ↔ ∃ j, p.FirstOffence (FunctionTable.AcceptedAt ps) j e
  /-- A name that was taken before was taken at one place, in an accepted pass. -/
  place : ∀ name first first', FunctionTable.AcceptedAt ps name first →
    FunctionTable.AcceptedAt ps name first' → first = first'

/-- **The first offending line decides**, whatever passes were taken and refused before. -/
theorem first_offence_of_history (ps : List Pass) (p : Pass) : FirstOffenceLaws ps p := by
  have ht : (FunctionTable.empty.after ps).Indexed := FunctionTable.indexed_empty.after ps
  have htaken : (FunctionTable.empty.after ps).Taken = FunctionTable.AcceptedAt ps := by
    funext name place
    exact propext FunctionTable.taken_after_iff
  constructor
  case accepted => exact htaken ▸ ht.extend_isOk_iff p
  case rejected => exact htaken ▸ ht.extend_eq_error_iff_first p
  case place =>
    intro name first first' h h'
    have hkeys := ht.keys.nodup_iff.2 ht.nodup
    have hfirst := (FunctionTable.lookup_eq_some_iff hkeys).2 (FunctionTable.taken_after_iff.2 h)
    have hfirst' := (FunctionTable.lookup_eq_some_iff hkeys).2 (FunctionTable.taken_after_iff.2 h')
    exact Option.some.inj (hfirst.symm.trans hfirst')

end WireSchema
