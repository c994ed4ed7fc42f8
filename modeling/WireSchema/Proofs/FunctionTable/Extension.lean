import Mathlib.Tactic.Common
import WireSchema.FunctionTable

/-!
# Proofs/FunctionTable/Extension — what taking a pass does to a table

A pass **declares** the names on its good marker lines, each with its place.  A table **admits** a
pass when every marker line is good and the names are fresh: distinct, not reserved, not seen.
`extend_eq_ok_iff` is the whole of an accepted call — the table admits the pass, answers with the
number of its names, and becomes `grown`.

* `check_eq_ok_iff` — the check of the items is the freshness of their names.
* `itemsFrom_eq_map_ok_iff` — the items are all good exactly when every marker line is.
* `nextIndex_behind_drain` — a reading to the end moves the index on by the number of names.
-/

namespace WireSchema

/-! ## What lines declare -/

namespace Entry

/-- Whether a line contains the marker. -/
def isMarked (l : Text) : Bool := Text.occursIn marker l

/-- The name that a line declares: a good marker line has one. -/
def name? (l : Text) : Option Text := (readLine l).bind Except.toOption

/-- The names that lines declare, in line order. -/
def names (ls : List Text) : List Text := ls.filterMap name?

/-- Every marker line declares a name. -/
def Readable (ls : List Text) : Prop := ∀ l ∈ ls, isMarked l = true → (name? l).isSome = true

theorem readLine_eq_none_iff {l : Text} : readLine l = none ↔ isMarked l = false := by
  by_cases h : Text.occursIn marker l = true
  · simp [readLine, isMarked, h]
  · simp [readLine, isMarked, h]

theorem name?_eq_some_iff {l name : Text} : name? l = some name ↔ readLine l = some (.ok name) := by
  rw [name?, Option.bind_eq_some_iff]
  constructor
  · rintro ⟨r, hr, hn⟩
    cases r with
    | error f => simp [Except.toOption] at hn
    | ok s =>
      obtain rfl : s = name := by simpa [Except.toOption] using hn
      exact hr
  · exact fun h => ⟨_, h, rfl⟩

theorem isMarked_of_name? {l : Text} (h : (name? l).isSome = true) : isMarked l = true := by
  obtain ⟨s, hs⟩ := Option.isSome_iff_exists.1 h
  by_contra hm
  rw [name?, readLine_eq_none_iff.2 (by simpa using hm)] at hs
  exact absurd hs (by simp)

theorem names_cons_of_none {l : Text} {ls : List Text} (h : name? l = none) :
    names (l :: ls) = names ls := List.filterMap_cons_none h

theorem names_cons_of_some {l name : Text} {ls : List Text} (h : name? l = some name) :
    names (l :: ls) = name :: names ls := List.filterMap_cons_some h

/-- **Where all marker lines are good, there is one name for each.** -/
theorem length_names {ls : List Text} (h : Readable ls) :
    (names ls).length = ls.countP isMarked := by
  rw [names, List.length_filterMap_eq_countP]
  exact List.countP_congr fun l hl => ⟨isMarked_of_name?, h l hl⟩

theorem isIdentifier_of_readName {l name : Text} (h : readName l = .ok name) :
    isIdentifier name = true := by
  unfold readName at h
  split at h
  · contradiction
  split at h
  · contradiction
  dsimp only at h
  split_ifs at h with _ hi
  cases h
  exact hi

/-- No line declares more than one name. -/
theorem length_names_le (ls : List Text) : (names ls).length ≤ ls.countP isMarked := by
  rw [names, List.length_filterMap_eq_countP]
  exact List.countP_mono_left fun l _ => isMarked_of_name?

/-- A declared name is an identifier. -/
theorem isIdentifier_of_mem_names {ls : List Text} {name : Text} (h : name ∈ names ls) :
    isIdentifier name = true := by
  obtain ⟨l, -, hl⟩ := List.mem_filterMap.1 h
  have hr := name?_eq_some_iff.1 hl
  by_cases hm : Text.occursIn marker l = true
  · exact isIdentifier_of_readName (by simpa [readLine, hm] using hr)
  · exact absurd hr (by simp [readLine, hm])

end Entry

/-! ## The items of good lines -/

namespace Entry

/-- The entries that good lines give, numbered on from `index`; faulty lines are passed over. -/
def entriesFrom (index : UInt32) (line : Nat) : List Text → List Entry
  | [] => []
  | l :: ls =>
    match name? l with
    | none => entriesFrom index (line + 1) ls
    | some name => ⟨name, index, line + 1⟩ :: entriesFrom (index + 1) (line + 1) ls

/-- **All items are good exactly when every marker line is.** -/
theorem itemsFrom_eq_map_ok_iff {index : UInt32} {line : Nat} {ls : List Text} {es : List Entry} :
    itemsFrom index line ls = es.map .ok ↔ Readable ls ∧ es = entriesFrom index line ls := by
  induction ls generalizing index line es with
  | nil => cases es <;> simp [itemsFrom, entriesFrom, Readable]
  | cons l ls ih =>
    have hcons :
        Readable (l :: ls) ↔ (isMarked l = true → (name? l).isSome = true) ∧ Readable ls := by
      simp [Readable]
    rcases h : readLine l with _ | fault | name
    · have hm : isMarked l = false := readLine_eq_none_iff.1 h
      simp [itemsFrom, entriesFrom, name?, h, hcons, hm, ih]
    · have hm : isMarked l = true := by
        by_contra hf
        rw [readLine_eq_none_iff.2 (by simpa using hf)] at h
        contradiction
      cases es <;> simp [itemsFrom, name?, h, hcons, hm, Except.toOption]
    · cases es with
      | nil => simp [itemsFrom, entriesFrom, name?, h, Except.toOption]
      | cons e es =>
        simp only [itemsFrom, h, List.map_cons, List.cons.injEq, Except.ok.injEq, ih, hcons, name?,
          entriesFrom, Option.bind_some, Except.toOption, Option.isSome_some, imp_true_iff,
          true_and]
        tauto

@[simp] theorem map_name_entriesFrom (index : UInt32) (line : Nat) (ls : List Text) :
    (entriesFrom index line ls).map Entry.name = names ls := by
  induction ls generalizing index line with
  | nil => rfl
  | cons l ls ih =>
    cases h : name? l with
    | none => simp [entriesFrom, h, names_cons_of_none h, ih]
    | some name => simp [entriesFrom, h, names_cons_of_some h, ih]

end Entry

/-- A line of the enum's body before the members are numbered. -/
inductive OutlineLine
  | member (name : Text)
  | comment (text : Text)
  deriving DecidableEq, Repr

/-- The lines of an outline, its members numbered on from a first value. -/
def EnumLine.number (first : UInt32) : List OutlineLine → List EnumLine
  | [] => []
  | .member name :: os => .member name first :: number (first + 1) os
  | .comment text :: os => .comment text :: number first os

/-- The names that a pass declares. -/
def Pass.names (p : Pass) : List Text := Entry.names p.lines

/-- How many lines of a pass contain the marker. -/
def Pass.markerLines (p : Pass) : Nat := p.lines.countP Entry.isMarked

/-- How many lines of all passes together contain the marker. -/
def Pass.totalMarkerLines (ps : List Pass) : Nat := (ps.flatMap Pass.lines).countP Entry.isMarked

@[simp] theorem Pass.totalMarkerLines_cons (p : Pass) (ps : List Pass) :
    totalMarkerLines (p :: ps) = p.markerLines + totalMarkerLines ps := by
  rw [totalMarkerLines, List.flatMap_cons, List.countP_append, markerLines, totalMarkerLines]

theorem Pass.totalMarkerLines_append (ps qs : List Pass) :
    totalMarkerLines (ps ++ qs) = totalMarkerLines ps + totalMarkerLines qs := by
  rw [totalMarkerLines, List.flatMap_append, List.countP_append, totalMarkerLines, totalMarkerLines]

/-- What a pass puts into the enum: its names, then its closing comment. -/
def Pass.outline (p : Pass) : List OutlineLine := p.names.map .member ++ [.comment p.endMarker]

/-- The names that a pass declares, each with its place. -/
def Pass.declared (p : Pass) : List (Text × Place) :=
  (p.lines.zipIdx 1).filterMap fun l => (Entry.name? l.1).map fun name => (name, ⟨p.origin, l.2⟩)

namespace Entry

theorem map_member_entriesFrom (index : UInt32) (line : Nat) (ls : List Text) (endMarker : Text) :
    (entriesFrom index line ls).map (fun e => EnumLine.member e.name e.index)
        ++ [.comment endMarker]
      = EnumLine.number index ((names ls).map .member ++ [.comment endMarker]) := by
  induction ls generalizing index line with
  | nil => rfl
  | cons l ls ih =>
    cases h : name? l with
    | none => simp [entriesFrom, h, names_cons_of_none h, ih]
    | some name => simp [entriesFrom, h, names_cons_of_some h, EnumLine.number, ih]

theorem map_place_entriesFrom (origin : Text) (index : UInt32) (line : Nat) (ls : List Text) :
    (entriesFrom index line ls).map (fun e => (e.name, (⟨origin, e.line⟩ : Place)))
      = (ls.zipIdx (line + 1)).filterMap fun l =>
          (name? l.1).map fun name => (name, ⟨origin, l.2⟩) := by
  induction ls generalizing index line with
  | nil => rfl
  | cons l ls ih =>
    cases h : name? l <;> simp [entriesFrom, h, ih]

end Entry

theorem Pass.map_fst_declared (p : Pass) : p.declared.map Prod.fst = p.names := by
  rw [declared, ← Entry.map_place_entriesFrom p.origin 0 0, List.map_map]
  exact Entry.map_name_entriesFrom 0 0 p.lines

theorem Pass.declared_reverse_perm (p : Pass) :
    (p.declared.reverse.map Prod.fst).Perm p.names := by
  rw [List.map_reverse, map_fst_declared]
  exact List.reverse_perm _

/-! ## The index behind a reading -/

namespace Scan

/-- Of the scan that a reading began at, only the index can show. -/
theorem nextIndex_behind_congr (s s' : Scan) (h : s.nextIndex = s'.nextIndex)
    (read : List (Item × Scan)) : (s.behind read).nextIndex = (s'.behind read).nextIndex := by
  cases hr : read.getLast? <;> simp [behind, hr, h]

theorem nextIndex_behind_pull {k : Nat} {ls : List Text} {n : Nat} {i : UInt32}
    (hk : ls.length ≤ k) : ((⟨ls, n, i⟩ : Scan).behind (pull k ⟨ls, n, i⟩)).nextIndex
      = i + .ofNat (Entry.names ls).length := by
  induction ls generalizing k n i with
  | nil => cases k <;> simp [pull, next?, nextFrom, Entry.names, behind]
  | cons l ls ih =>
    obtain ⟨k, rfl⟩ : ∃ j, k = j + 1 := ⟨k - 1, by simp only [List.length_cons] at hk; omega⟩
    have hk' : ls.length ≤ k := by simpa using hk
    rcases h : Entry.readLine l with _ | fault | name
    · have hpull : pull (k + 1) ⟨l :: ls, n, i⟩ = pull (k + 1) ⟨ls, n + 1, i⟩ := by
        simp [pull, next?, nextFrom, h]
      rw [hpull, nextIndex_behind_congr ⟨l :: ls, n, i⟩ ⟨ls, n + 1, i⟩ rfl, ih (by omega),
        Entry.names_cons_of_none (by simp [Entry.name?, h])]
    · have hpull : pull (k + 1) ⟨l :: ls, n, i⟩
          = (.error ⟨n + 1, fault⟩, ⟨ls, n + 1, i⟩) :: pull k ⟨ls, n + 1, i⟩ := by
        simp [pull, next?, nextFrom, h]
      rw [hpull, behind_cons, ih hk',
        Entry.names_cons_of_none (by simp [Entry.name?, h, Except.toOption])]
    · have hpull : pull (k + 1) ⟨l :: ls, n, i⟩
          = (.ok ⟨name, i, n + 1⟩, ⟨ls, n + 1, i + 1⟩) :: pull k ⟨ls, n + 1, i + 1⟩ := by
        simp [pull, next?, nextFrom, h]
      rw [hpull, behind_cons, ih hk',
        Entry.names_cons_of_some (Entry.name?_eq_some_iff.2 h), List.length_cons,
        UInt32.ofNat_add, UInt32.add_assoc, UInt32.add_comm 1]
      rfl

/-- **A reading to the end moves the index on by the number of names.** -/
theorem nextIndex_behind_drain (ls : List Text) (n : Nat) (i : UInt32) :
    ((⟨ls, n, i⟩ : Scan).behind (drain ⟨ls, n, i⟩)).nextIndex
      = i + .ofNat (Entry.names ls).length :=
  nextIndex_behind_pull (Nat.le_refl _)

end Scan

/-! ## Accepted passes -/

/-- Names that a table can take: distinct, not reserved, and not among the names taken. -/
structure Fresh (seen : List (Text × Place)) (names : List Text) : Prop where
  nodup : names.Nodup
  unreserved : ∀ name ∈ names, Control.isReserved name = false
  unseen : ∀ name ∈ names, name ∉ seen.map Prod.fst

theorem fresh_nil (seen : List (Text × Place)) : Fresh seen [] := ⟨.nil, by simp, by simp⟩

/-- Names are taken one by one: each is fresh after those before it. -/
theorem fresh_cons_iff {seen : List (Text × Place)} {name : Text} {place : Place}
    {names : List Text} : Fresh seen (name :: names) ↔
      Control.isReserved name = false ∧ name ∉ seen.map Prod.fst
        ∧ Fresh ((name, place) :: seen) names := by
  constructor
  · rintro ⟨hd, hr, hs⟩
    obtain ⟨hn, hd⟩ := List.nodup_cons.1 hd
    refine ⟨hr _ (by simp), hs _ (by simp), hd, fun m hm => hr m (by simp [hm]), fun m hm => ?_⟩
    rw [List.map_cons, List.mem_cons, not_or]
    exact ⟨fun he : m = name => hn (he ▸ hm), hs m (by simp [hm])⟩
  · rintro ⟨hr, hs, hd, hr', hs'⟩
    refine ⟨List.nodup_cons.2 ⟨fun hm => hs' _ hm (by simp), hd⟩, fun m hm => ?_, fun m hm => ?_⟩
    · rcases List.mem_cons.1 hm with rfl | hm
      exacts [hr, hr' m hm]
    · rcases List.mem_cons.1 hm with rfl | hm
      · exact hs
      · exact fun he => hs' m hm (by simp [he])

namespace FunctionTable

theorem lookup_eq_none_iff {seen : List (Text × Place)} {name : Text} :
    seen.lookup name = none ↔ name ∉ seen.map Prod.fst := by
  simp only [List.lookup_eq_none_iff, List.mem_map, not_exists, not_and, bne_iff_ne]
  exact ⟨fun h p hp he => h p hp he.symm, fun h p hp he => h p hp he.symm⟩

/-- A good item passes the check when its name is free, and then counts as seen. -/
theorem check_ok_cons_iff {origin : Text} {seen : List (Text × Place)} {entry : Entry}
    {items : List Item} {read : List (Entry × Place)} :
    check origin seen (.ok entry :: items) = .ok read ↔
      Control.isReserved entry.name = false ∧ entry.name ∉ seen.map Prod.fst
        ∧ ∃ rest, check origin ((entry.name, ⟨origin, entry.line⟩) :: seen) items = .ok rest
          ∧ read = (entry, ⟨origin, entry.line⟩) :: rest := by
  rw [← lookup_eq_none_iff]
  dsimp only [check]
  split_ifs with hr
  · simp [hr]
  · cases seen.lookup entry.name with
    | some first => simp
    | none =>
      cases check origin ((entry.name, ⟨origin, entry.line⟩) :: seen) items with
      | error e => simp
      | ok rest => simp [hr, eq_comm]

/-- **The check of the items is the freshness of their names.** -/
theorem check_eq_ok_iff {origin : Text} {seen : List (Text × Place)} {items : List Item}
    {read : List (Entry × Place)} : check origin seen items = .ok read ↔
      ∃ es : List Entry, items = es.map .ok ∧ read = es.map (fun e => (e, ⟨origin, e.line⟩))
        ∧ Fresh seen (es.map Entry.name) := by
  induction items generalizing seen read with
  | nil =>
    constructor
    · intro h
      cases h
      exact ⟨[], rfl, rfl, fresh_nil seen⟩
    · rintro ⟨es, hes, rfl, -⟩
      obtain rfl := List.map_eq_nil_iff.1 hes.symm
      rfl
  | cons item items ih =>
    cases item with
    | error e =>
      refine iff_of_false (by simp [check]) ?_
      rintro ⟨es, hes, -, -⟩
      cases es <;> simp at hes
    | ok entry =>
      rw [check_ok_cons_iff]
      constructor
      · rintro ⟨hr, hs, rest, hrest, rfl⟩
        obtain ⟨es, rfl, rfl, hes⟩ := ih.1 hrest
        exact ⟨entry :: es, rfl, rfl, fresh_cons_iff.2 ⟨hr, hs, hes⟩⟩
      · rintro ⟨es, hes, rfl, hf⟩
        cases es with
        | nil => cases hes
        | cons e es =>
          cases hes
          obtain ⟨hr, hs, hf⟩ := fresh_cons_iff.1 hf
          exact ⟨hr, hs, _, ih.2 ⟨es, rfl, rfl, hf⟩, rfl⟩

/-- A table takes a pass when every marker line declares a name and the names are fresh. -/
structure Admits (t : FunctionTable) (p : Pass) : Prop where
  readable : Entry.Readable p.lines
  fresh : Fresh t.seen p.names

/-- Every marker line of an admitted pass declares a name. -/
theorem Admits.length_names {t : FunctionTable} {p : Pass} (h : t.Admits p) :
    p.names.length = p.markerLines := Entry.length_names h.readable

/-- The table behind a pass that was taken. -/
def grown (t : FunctionTable) (p : Pass) : FunctionTable where
  lines := t.lines ++ EnumLine.number t.nextIndex p.outline
  seen := p.declared.reverse ++ t.seen
  nextIndex := t.nextIndex + .ofNat p.names.length
  functions := t.functions + p.names.length

theorem extend_of_admits {t : FunctionTable} {p : Pass} (h : t.Admits p) :
    t.extend p = .ok (p.names.length, t.grown p) := by
  have hread : (Scan.ofLines p.lines t.nextIndex).drain.map Prod.fst
      = Entry.itemsFrom t.nextIndex 0 p.lines := Scan.map_fst_drain p.lines 0 t.nextIndex
  have hcheck : check p.origin t.seen (Entry.itemsFrom t.nextIndex 0 p.lines)
      = .ok ((Entry.entriesFrom t.nextIndex 0 p.lines).map fun e => (e, ⟨p.origin, e.line⟩)) :=
    check_eq_ok_iff.2 ⟨_, Entry.itemsFrom_eq_map_ok_iff.2 ⟨h.readable, rfl⟩, rfl,
      by simpa [Pass.names] using h.fresh⟩
  have hindex : ((Scan.ofLines p.lines t.nextIndex).behind
      (Scan.ofLines p.lines t.nextIndex).drain).nextIndex
      = t.nextIndex + .ofNat p.names.length := Scan.nextIndex_behind_drain p.lines 0 t.nextIndex
  have hlength : (Entry.entriesFrom t.nextIndex 0 p.lines).length = p.names.length := by
    rw [← List.length_map Entry.name, Entry.map_name_entriesFrom, Pass.names]
  simp only [extend, hread, hcheck, hindex, List.map_map, List.length_map, hlength,
    Function.comp_def, List.append_assoc, Entry.map_member_entriesFrom,
    Entry.map_place_entriesFrom]
  rfl

/-- **An accepted call, in full.** -/
theorem extend_eq_ok_iff {t : FunctionTable} {p : Pass} {r : Nat × FunctionTable} :
    t.extend p = .ok r ↔ t.Admits p ∧ r = (p.names.length, t.grown p) := by
  constructor
  · intro h
    have hadmits : t.Admits p := by
      dsimp only [extend] at h
      split at h
      · contradiction
      · rename_i read hcheck
        obtain ⟨es, hes, -, hfresh⟩ := check_eq_ok_iff.1 hcheck
        obtain ⟨hreadable, rfl⟩ := Entry.itemsFrom_eq_map_ok_iff.1
          ((Scan.map_fst_drain p.lines 0 t.nextIndex).symm.trans hes)
        exact ⟨hreadable, by simpa [Pass.names] using hfresh⟩
    rw [extend_of_admits hadmits] at h
    exact ⟨hadmits, (Except.ok.inj h).symm⟩
  · rintro ⟨h, rfl⟩
    exact extend_of_admits h

end FunctionTable

end WireSchema
