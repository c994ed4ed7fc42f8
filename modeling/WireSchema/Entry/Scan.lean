import WireSchema.Entry.Basic

/-!
# Entry/Scan — numbering the entries of a list of lines

A `Scan` stands between two lines and holds both counters: the number of the last line read and the
next free index. `Scan.next?` reads on to the next marker line and gives one item for it. A good line
takes the index, a faulty one takes none, and reading goes on after either. A scan may be left at any
item; the index it has reached starts the scan of the next list.
-/

namespace WireSchema

/-- An entry point, with the index it was given and its line. -/
structure Entry where
  name : Text
  index : UInt32
  /-- The line's number in its own list, from 1. -/
  line : Nat
  deriving DecidableEq, Repr

/-- A marker line that declares nothing, by its number and its fault. -/
structure ParseError where
  line : Nat
  fault : LineFault
  deriving DecidableEq, Repr

/-- What is said about a faulty line. -/
def ParseError.message (e : ParseError) : Text :=
  "line " ++ Text.decimal e.line ++ ": " ++
    match e.fault with
    | .missingCloseParen => "entry marker without closing parenthesis"
    | .emptyName => "entry marker with an empty function name"
    | .invalidName name => "`" ++ name ++ "` is not a valid schema identifier"

/-- What a marker line contributes. -/
abbrev Item := Except ParseError Entry

/-- A list of lines being read. -/
structure Scan where
  /-- The lines not read yet. -/
  rest : List Text
  /-- How many lines have been read. -/
  line : Nat
  /-- The index of the next good entry. -/
  nextIndex : UInt32
  deriving DecidableEq, Repr

namespace Scan

/-- A scan before the first of the lines. -/
def ofLines (lines : List Text) (start : UInt32) : Scan := ⟨lines, 0, start⟩

/-- The item of the next marker line and the scan behind that line. -/
def nextFrom (index : UInt32) : Nat → List Text → Option (Item × Scan)
  | _, [] => none
  | n, l :: ls =>
    match Entry.readLine l with
    | none => nextFrom index (n + 1) ls
    | some (.ok name) => some (.ok ⟨name, index, n + 1⟩, ⟨ls, n + 1, index + 1⟩)
    | some (.error fault) => some (.error ⟨n + 1, fault⟩, ⟨ls, n + 1, index⟩)

/-- Reads on to the next marker line. -/
def next? (s : Scan) : Option (Item × Scan) := nextFrom s.nextIndex s.line s.rest

/-- Reads at most `n` items; each comes with the scan right behind it. -/
def pull : Nat → Scan → List (Item × Scan)
  | 0, _ => []
  | n + 1, s =>
    match s.next? with
    | none => []
    | some (item, s') => (item, s') :: pull n s'

/-- Reads to the end: there are no more items than lines. -/
def drain (s : Scan) : List (Item × Scan) := s.pull s.rest.length

/-- The scan behind the last item of a reading that began at `s`. -/
def behind (s : Scan) (read : List (Item × Scan)) : Scan :=
  (read.getLast?.map Prod.snd).getD s

end Scan

/-- The items of a list of lines, the lines numbered on from `line`, the entries from `index`. -/
def Entry.itemsFrom (index : UInt32) (line : Nat) : List Text → List Item
  | [] => []
  | l :: ls =>
    match Entry.readLine l with
    | none => itemsFrom index (line + 1) ls
    | some (.ok name) => .ok ⟨name, index, line + 1⟩ :: itemsFrom (index + 1) (line + 1) ls
    | some (.error fault) => .error ⟨line + 1, fault⟩ :: itemsFrom index (line + 1) ls

namespace Scan

theorem behind_cons (s s' : Scan) (item : Item) (read : List (Item × Scan)) :
    s.behind ((item, s') :: read) = s'.behind read := by
  rw [behind, behind, List.getLast?_cons]
  cases read.getLast? <;> rfl

/-- **A bound cuts the items short, and changes none of them.** -/
theorem map_fst_pull (k : Nat) (ls : List Text) (n : Nat) (i : UInt32) :
    (pull k ⟨ls, n, i⟩).map Prod.fst = (Entry.itemsFrom i n ls).take k := by
  induction ls generalizing k n i with
  | nil => cases k <;> simp [pull, next?, nextFrom, Entry.itemsFrom]
  | cons l ls ih =>
    rcases k with _ | k
    · rfl
    rcases h : Entry.readLine l with _ | _ | _
    · simpa [pull, next?, nextFrom, Entry.itemsFrom, h] using ih (k + 1) (n + 1) i
    · simpa [pull, next?, nextFrom, Entry.itemsFrom, h] using ih k (n + 1) i
    · simpa [pull, next?, nextFrom, Entry.itemsFrom, h] using ih k (n + 1) (i + 1)

/-- There are no more items than lines. -/
theorem length_itemsFrom_le (i : UInt32) (n : Nat) (ls : List Text) :
    (Entry.itemsFrom i n ls).length ≤ ls.length := by
  induction ls generalizing n i with
  | nil => exact Nat.le_refl 0
  | cons l ls ih =>
    rcases h : Entry.readLine l with _ | _ | _
    · simpa [Entry.itemsFrom, h] using Nat.le_succ_of_le (ih i (n + 1))
    · simpa [Entry.itemsFrom, h] using ih i (n + 1)
    · simpa [Entry.itemsFrom, h] using ih (i + 1) (n + 1)

/-- **Reading to the end gives one item per marker line**, in line order. -/
theorem map_fst_drain (ls : List Text) (n : Nat) (index : UInt32) :
    (drain ⟨ls, n, index⟩).map Prod.fst = Entry.itemsFrom index n ls := by
  rw [drain, map_fst_pull, List.take_of_length_le (length_itemsFrom_le index n ls)]

end Scan

end WireSchema
