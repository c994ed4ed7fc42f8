import Mathlib.Tactic.Common
import WireSchema.Proofs.Entry.Grammar

/-!
# Proofs/Entry/Chaining — lists read one behind the other, each only in part

A **portion** is a list of lines with a bound on the items to pull.  Portions are chained: each is
read from the index that the one before it has reached, wherever that one was left.  `Counts i rs j`
says that a reading takes its indices from `i` up to `j`, one for each good entry; a single item
counts, and readings that meet at an index count together.

* `map_outcome_itemsFrom` — the items of a list: one for each line with the marker, by its number.
* `counts_pull` — whatever is pulled of a list counts from its index to the index behind it.
* `chained_readings` — the items and indices of portions in a chain.
-/

namespace WireSchema

/-! ## The items of a list -/

/-- What an item says of its line, the index apart: the line's number, and how the line was read. -/
def Item.outcome : Item → Nat × Except LineFault Text
  | .ok e => (e.line, .ok e.name)
  | .error e => (e.line, .error e.fault)

/-- The lines with the marker, each with its number and how it is read; `n` lines are before them. -/
def Entry.outcomesFrom (n : Nat) (ls : List Text) : List (Nat × Except LineFault Text) :=
  ((ls.zipIdx (n + 1)).filter fun l => Text.occursIn marker l.1).map fun l => (l.2, readName l.1)

/-- **There is one item for each line with the marker**, in line order, faulty ones included. -/
theorem Entry.map_outcome_itemsFrom : ∀ (i : UInt32) (n : Nat) (ls : List Text),
    (itemsFrom i n ls).map Item.outcome = outcomesFrom n ls
  | _, _, [] => rfl
  | i, n, l :: ls => by
      by_cases h : Text.occursIn marker l = true
      · have hread : readLine l = some (readName l) := if_pos h
        have hcons : outcomesFrom n (l :: ls) = (n + 1, readName l) :: outcomesFrom (n + 1) ls := by
          simp only [outcomesFrom, List.zipIdx_cons, List.filter_cons, h, if_true, List.map_cons]
        rw [hcons]
        rcases hname : readName l with fault | name
        · simp only [itemsFrom, hread, hname, List.map_cons, map_outcome_itemsFrom, Item.outcome]
        · simp only [itemsFrom, hread, hname, List.map_cons, map_outcome_itemsFrom, Item.outcome]
      · have hread : readLine l = none := if_neg h
        have hcons : outcomesFrom n (l :: ls) = outcomesFrom (n + 1) ls := by
          simp only [outcomesFrom, List.zipIdx_cons, List.filter_cons, h, Bool.false_eq_true,
            if_false]
        rw [hcons, itemsFrom, hread]
        exact map_outcome_itemsFrom i (n + 1) ls

namespace Scan

/-! ## Counting -/

/-- The good entries of a reading. -/
def entries (read : List (Item × Scan)) : List Entry := read.filterMap fun r => r.1.toOption

/-- A reading takes its indices from `i` up to `j`: an entry has the index that was next, and moves
the next one on; a fault leaves it. -/
inductive Counts : UInt32 → List (Item × Scan) → UInt32 → Prop
  | refl (i : UInt32) : Counts i [] i
  | entry {i j : UInt32} {name : Text} {line : Nat} {s : Scan} {read : List (Item × Scan)}
      (hs : s.nextIndex = i + 1) (h : Counts (i + 1) read j) :
      Counts i ((.ok ⟨name, i, line⟩, s) :: read) j
  | fault {i j : UInt32} {e : ParseError} {s : Scan} {read : List (Item × Scan)}
      (hs : s.nextIndex = i) (h : Counts i read j) : Counts i ((.error e, s) :: read) j

namespace Counts

variable {i j k : UInt32} {read more : List (Item × Scan)}

/-- Readings that meet at an index count together. -/
theorem trans (h : Counts i read j) (hmore : Counts j more k) : Counts i (read ++ more) k := by
  induction h with
  | refl => exact hmore
  | entry hs _ ih => exact .entry hs (ih hmore)
  | fault hs _ ih => exact .fault hs (ih hmore)

/-- A reading that counts does so up to any of its items and from there on. -/
theorem split : ∀ {i : UInt32} {read : List (Item × Scan)}, Counts i (read ++ more) k →
    ∃ j, Counts i read j ∧ Counts j more k
  | i, [], h => ⟨i, .refl i, h⟩
  | _, _ :: _, .entry hs h => by
      obtain ⟨j, hread, hmore⟩ := split h
      exact ⟨j, .entry hs hread, hmore⟩
  | _, _ :: _, .fault hs h => by
      obtain ⟨j, hread, hmore⟩ := split h
      exact ⟨j, .fault hs hread, hmore⟩

/-- **The indices go up one by one**, and the index reached is the first one plus their number, as
long as the numbers do not run out. -/
theorem indices (h : Counts i read j) (hsize : i.toNat + (entries read).length < UInt32.size) :
    (entries read).map (fun e => e.index.toNat) = List.range' i.toNat (entries read).length
      ∧ j.toNat = i.toNat + (entries read).length := by
  induction h with
  | refl i => exact ⟨rfl, rfl⟩
  | @entry i j name line s read hs h ih =>
    have hcons : entries ((.ok ⟨name, i, line⟩, s) :: read) = ⟨name, i, line⟩ :: entries read := rfl
    rw [hcons, List.length_cons] at hsize ⊢
    have hsucc : (i + 1).toNat = i.toNat + 1 := by
      rw [UInt32.toNat_add]
      exact Nat.mod_eq_of_lt (by change i.toNat + 1 < UInt32.size; omega)
    obtain ⟨hindices, hj⟩ := ih (by omega)
    rw [List.map_cons, List.range'_succ, hindices, hj, hsucc]
    exact ⟨rfl, by omega⟩
  | fault hs _ ih => exact ih hsize

/-- The index that a reading has reached is the one behind its last item. -/
theorem eq_nextIndex {r : Item × Scan} (h : Counts i (read ++ [r]) j) : j = r.2.nextIndex := by
  obtain ⟨_, -, hlast⟩ := h.split
  cases hlast with
  | entry hs h =>
    cases h
    exact hs.symm
  | fault hs h =>
    cases h
    exact hs.symm

end Counts

theorem entries_append (read more : List (Item × Scan)) :
    entries (read ++ more) = entries read ++ entries more := List.filterMap_append

/-- A single item counts: the index moves on behind an entry, and not behind a fault. -/
theorem counts_nextFrom {i : UInt32} {item : Item} {s : Scan} : ∀ {n : Nat} {ls : List Text},
    nextFrom i n ls = some (item, s) → Counts i [(item, s)] s.nextIndex
  | _, [], h => by contradiction
  | n, l :: ls, h => by
      unfold nextFrom at h
      split at h
      case h_1 => exact counts_nextFrom h
      case h_2 =>
        obtain ⟨rfl, rfl⟩ := Prod.mk.inj (Option.some.inj h)
        exact .entry rfl (.refl _)
      case h_3 =>
        obtain ⟨rfl, rfl⟩ := Prod.mk.inj (Option.some.inj h)
        exact .fault rfl (.refl _)

/-- **Whatever is pulled of a list counts**, from the index of its scan to the index behind it. -/
theorem counts_pull : ∀ (k : Nat) (s : Scan),
    Counts s.nextIndex (s.pull k) (s.behind (s.pull k)).nextIndex
  | 0, s => .refl _
  | k + 1, s => by
      rcases h : s.next? with _ | ⟨item, s'⟩
      · rw [pull, h]
        exact .refl _
      · have hpull : s.pull (k + 1) = (item, s') :: s'.pull k := by rw [pull, h]
        rw [hpull, behind_cons]
        exact (counts_nextFrom h).trans (counts_pull k s')

end Scan

/-! ## Portions in a chain -/

/-- A list of lines, and how many of its items to pull: all of them where there is no bound. -/
structure Portion where
  lines : List Text
  bound? : Option Nat
  deriving DecidableEq, Repr

namespace Portion

/-- What is pulled of a portion whose first entry gets the index `i`. -/
def read (i : UInt32) (p : Portion) : List (Item × Scan) :=
  match p.bound? with
  | none => (Scan.ofLines p.lines i).drain
  | some k => (Scan.ofLines p.lines i).pull k

/-- The index that the reading of a portion has reached. -/
def next (i : UInt32) (p : Portion) : UInt32 := ((Scan.ofLines p.lines i).behind (p.read i)).nextIndex

/-- The readings of portions, the first from the index `i`, each other from where the one before it
was left. -/
def readings (i : UInt32) : List Portion → List (List (Item × Scan))
  | [] => []
  | p :: ps => p.read i :: readings (p.next i) ps

/-- What the items of a portion say: one for each line with the marker, up to the bound. -/
def outcomes (p : Portion) : List (Nat × Except LineFault Text) :=
  match p.bound? with
  | none => Entry.outcomesFrom 0 p.lines
  | some k => (Entry.outcomesFrom 0 p.lines).take k

theorem map_outcome_read (i : UInt32) (p : Portion) :
    (p.read i).map (fun r => Item.outcome r.1) = p.outcomes := by
  have hmap : ∀ read : List (Item × Scan),
      read.map (fun r => Item.outcome r.1) = (read.map Prod.fst).map Item.outcome :=
    fun read => by rw [List.map_map]; rfl
  rw [hmap, read, outcomes, ← Entry.map_outcome_itemsFrom i 0 p.lines]
  cases p.bound? with
  | none => rw [Scan.ofLines, Scan.map_fst_drain]
  | some k => rw [Scan.ofLines, Scan.map_fst_pull, List.map_take]

theorem counts_read (i : UInt32) (p : Portion) : Scan.Counts i (p.read i) (p.next i) := by
  cases h : p.bound? <;> simp only [next, read, h] <;> exact Scan.counts_pull _ (.ofLines p.lines i)

theorem map_outcome_readings : ∀ (i : UInt32) (ps : List Portion),
    (readings i ps).map (List.map fun r => Item.outcome r.1) = ps.map outcomes
  | _, [] => rfl
  | i, p :: ps => by
      rw [readings, List.map_cons, List.map_cons, map_outcome_read, map_outcome_readings]

/-- **A chain counts as one reading.** -/
theorem counts_readings : ∀ (i : UInt32) (ps : List Portion),
    ∃ j, Scan.Counts i (readings i ps).flatten j
  | i, [] => ⟨i, .refl i⟩
  | i, p :: ps => by
      obtain ⟨j, hj⟩ := counts_readings (p.next i) ps
      exact ⟨j, (p.counts_read i).trans hj⟩

/-- What holds of portions in a chain whose first entry gets the index `i`. -/
structure Chained (i : UInt32) (ps : List Portion) : Prop where
  /-- Each portion gives, up to its bound, one item for each of its lines with the marker, with the
  number of that line; a fault does not end it. -/
  items : (readings i ps).map (List.map fun r => Item.outcome r.1) = ps.map outcomes
  /-- The good entries of all portions together have the indices from `i` on, in order. -/
  indices : (Scan.entries (readings i ps).flatten).map (fun e => e.index.toNat)
    = List.range' i.toNat (Scan.entries (readings i ps).flatten).length
  /-- Behind each item, the next index is as many above `i` as good entries were pulled so far. -/
  next : ∀ before r after, (readings i ps).flatten = before ++ r :: after →
    r.2.nextIndex.toNat = i.toNat + (Scan.entries (before ++ [r])).length

/-- **A chain of partial readings neither reuses an index nor skips one**, wherever its portions are
left, as long as the numbers do not run out. -/
theorem chained_readings {i : UInt32} {ps : List Portion}
    (hsize : i.toNat + (Scan.entries (readings i ps).flatten).length < UInt32.size) :
    Chained i ps where
  items := map_outcome_readings i ps
  indices := by
    obtain ⟨j, hj⟩ := counts_readings i ps
    exact (hj.indices hsize).1
  next before r after h := by
    obtain ⟨j, hj⟩ := counts_readings i ps
    rw [h, List.append_cons] at hj
    rw [h, List.append_cons, Scan.entries_append, List.length_append] at hsize
    obtain ⟨k, hread, -⟩ := hj.split
    rw [← hread.eq_nextIndex]
    exact (hread.indices (by omega)).2

/-- The first list is left at its second item, a fault that takes no index; the second goes on with
the index that the line behind the fault would have had. -/
theorem chained_readings_left :
    let ps : List Portion :=
      [⟨["API_ENTRY(glA)", "", "API_ENTRY(glB", "API_ENTRY(glC)"], some 2⟩,
       ⟨["", "API_ENTRY(glD)", "API_ENTRY(glE)"], none⟩]
    (5 : UInt32).toNat + (Scan.entries (readings 5 ps).flatten).length < UInt32.size
      ∧ Scan.entries (readings 5 ps).flatten = [⟨"glA", 5, 1⟩, ⟨"glD", 6, 2⟩, ⟨"glE", 7, 3⟩]
      ∧ Chained 5 ps :=
  ⟨by decide, by decide, chained_readings (by decide)⟩

end Portion

end WireSchema
