import Mathlib.Tactic.Common
import WireSchema.FileSystem.Basic

/-!
# Proofs/FileSystem/Write — trees, walks, and what writing a file changes

A file system is a **tree** when whatever it holds stands in directories.  The **spot** of a path is
the location of its last name, whether or not something stands there; writing and renaming change
the tree at spots only.

* `walk_mono` — a walk survives in a file system that keeps the directories and loses no node.
* `written_of_write` — writing puts the content at the spot and touches nothing else.
* `read_of_write` — the written content is read back under the same path, however it is spelled.
-/

namespace WireSchema.FileSystem

/-! ## Trees -/

/-- Whatever stands in a tree stands in a directory. -/
def IsTree (fs : FileSystem) : Prop :=
  ∀ (l : Location) (name : Text), fs.node? (l ++ [name]) ≠ none → fs.node? l = some .directory

/-- Everything above a node is a directory. -/
theorem IsTree.node?_of_append {fs : FileSystem} (h : fs.IsTree) :
    ∀ {l r : Location}, r ≠ [] → fs.node? (l ++ r) ≠ none → fs.node? l = some .directory
  | _, [], hr, _ => absurd rfl hr
  | l, [name], _, hn => h l name hn
  | l, name :: next :: r, _, hn => by
      rw [List.append_cons] at hn
      have hup : fs.node? (l ++ [name]) = some .directory :=
        h.node?_of_append (List.cons_ne_nil next r) hn
      exact h l name (by rw [hup]; exact Option.some_ne_none _)

/-- A file system is a tree when the parent of every entry is a directory. -/
theorem isTree_of_nodes {fs : FileSystem}
    (h : ∀ e ∈ fs.nodes, fs.node? e.1.dropLast = some .directory) : fs.IsTree := by
  intro l name hn
  rw [node?, if_neg (List.concat_ne_nil name l)] at hn
  obtain ⟨e, he, hkey⟩ : ∃ e ∈ fs.nodes, l ++ [name] = e.1 := by
    simpa [List.lookup_eq_none_iff] using hn
  have hup := h e he
  rwa [← hkey, List.dropLast_concat] at hup

/-! ## Walks -/

theorem walk_cons_eq_ok {fs : FileSystem} {here l : Location} {name : Text} {names : List Text}
    (h : fs.walk here (name :: names) = .ok l) : fs.node? here = some .directory := by
  rw [walk] at h
  split at h
  · contradiction
  · contradiction
  · assumption

/-- Walking a list of names is walking its parts one after the other. -/
theorem walk_append {fs : FileSystem} : ∀ {here : Location} {xs ys : List Text},
    fs.walk here (xs ++ ys) = (fs.walk here xs).bind fun l => fs.walk l ys
  | _, [], _ => rfl
  | here, name :: xs, ys => by
      rw [List.cons_append, walk, walk]
      rcases fs.node? here with _ | _ | content
      · rfl
      · simp only [@walk_append fs _ xs ys]
        split_ifs
        · rfl
        · rfl
        · rfl
        · rcases fs.node? (here ++ [name]) with _ | n
          · rfl
          · rfl
      · rfl

/-- A walk that ends with `.` ends in a directory. -/
theorem walk_dot_eq_ok_iff {fs : FileSystem} {here l : Location} {names : List Text} :
    fs.walk here (names ++ [['.']]) = .ok l
      ↔ fs.walk here names = .ok l ∧ fs.node? l = some .directory := by
  rw [walk_append]
  constructor
  · intro h
    rcases hw : fs.walk here names with e | m
    · rw [hw] at h
      contradiction
    · rw [hw] at h
      have hdir : fs.node? m = some .directory := walk_cons_eq_ok h
      have hstay : fs.walk m [['.']] = .ok m := by simp [walk, hdir]
      obtain rfl : m = l := Except.ok.inj (hstay.symm.trans h)
      exact ⟨rfl, hdir⟩
  · rintro ⟨hw, hdir⟩
    rw [hw]
    exact (by simp [walk, hdir] : fs.walk l [['.']] = .ok l)

/-- **A walk survives where directories stay directories and no node is lost.** -/
theorem walk_mono {fs gs : FileSystem}
    (hdir : ∀ l, fs.node? l = some .directory → gs.node? l = some .directory)
    (hnode : ∀ l, fs.node? l ≠ none → gs.node? l ≠ none) :
    ∀ {here l : Location} {names : List Text}, fs.walk here names = .ok l →
      gs.walk here names = .ok l
  | _, _, [], h => h
  | here, l, name :: names, h => by
      have hhere : fs.node? here = some .directory := walk_cons_eq_ok h
      rw [walk, hhere] at h
      rw [walk, hdir here hhere]
      dsimp only at h ⊢
      split_ifs at h ⊢
      · exact walk_mono hdir hnode h
      · exact walk_mono hdir hnode h
      · rcases hn : fs.node? (here ++ [name]) with _ | n
        · rw [hn] at h
          contradiction
        rw [hn] at h
        have hkept : gs.node? (here ++ [name]) ≠ none :=
          hnode _ (by rw [hn]; exact Option.some_ne_none n)
        obtain ⟨m, hm⟩ := Option.ne_none_iff_exists'.1 hkept
        rw [hm]
        exact walk_mono hdir hnode h

/-! ## Where walks begin -/

/-- A path that can be walked holds no NUL character. -/
theorem not_nul_of_startOf {fs : FileSystem} {p : FilePath} {start : Location}
    (h : fs.startOf p = .ok start) : '\x00' ∉ p.text := by
  intro hnul
  rw [startOf, if_pos hnul] at h
  contradiction

theorem exists_startOf_of_locate {fs : FileSystem} {p : FilePath} {l : Location}
    (h : fs.locate p = .ok l) :
    ∃ start, fs.startOf p = .ok start ∧ fs.walk start (namesOf p.text) = .ok l := by
  rw [locate] at h
  split at h
  · contradiction
  · rename_i start hstart
    exact ⟨start, hstart, h⟩

/-- Directories stay directories, and files stay files, whatever they hold. -/
structure Keeps (fs gs : FileSystem) : Prop where
  directory : ∀ l, fs.node? l = some .directory → gs.node? l = some .directory
  file : ∀ l x, fs.node? l = some (.file x) → ∃ y, gs.node? l = some (.file y)

theorem Keeps.node?_ne_none {fs gs : FileSystem} (h : Keeps fs gs) {l : Location}
    (hl : fs.node? l ≠ none) : gs.node? l ≠ none := by
  rcases Option.ne_none_iff_exists'.1 hl with ⟨_ | x, hl⟩
  · rw [h.directory l hl]
    exact Option.some_ne_none _
  · obtain ⟨y, hy⟩ := h.file l x hl
    rw [hy]
    exact Option.some_ne_none _

/-- **An absolute path leads to the same place from every directory.** -/
theorem Keeps.locate {fs gs : FileSystem} (h : Keeps fs gs) {p : FilePath} {l : Location}
    (hp : p.isAbsolute = true) (hl : fs.locate p = .ok l) : gs.locate p = .ok l := by
  obtain ⟨start, hstart, hwalk⟩ := exists_startOf_of_locate hl
  have hbegin : gs.startOf p = fs.startOf p := by rw [startOf, startOf, if_pos hp, if_pos hp]
  rw [FileSystem.locate, hbegin, hstart]
  exact walk_mono h.directory (fun _ => h.node?_ne_none) hwalk

/-! ## Slots and spots -/

/-- The location of a path's last name, whether or not something stands there. -/
def spot? (fs : FileSystem) (p : FilePath) : Option Location :=
  match fs.slot p with
  | .ok ⟨directory, .plain name, _⟩ => some (directory ++ [name])
  | _ => none

theorem spot?_of_slot {fs : FileSystem} {p : FilePath} {directory : Location} {name : Text}
    {closed : Bool} (h : fs.slot p = .ok ⟨directory, .plain name, closed⟩) :
    fs.spot? p = some (directory ++ [name]) := by rw [spot?, h]

/-- **A path with a slot**: its names but the last lead to a directory, and the last is a name that
the directory can hold. -/
theorem of_slot_eq_ok {fs : FileSystem} {p : FilePath} {directory : Location} {name : Text}
    {closed : Bool} (h : fs.slot p = .ok ⟨directory, .plain name, closed⟩) :
    ∃ start names, fs.startOf p = .ok start
      ∧ (Text.split '/' p.text).filter (· ≠ []) = names ++ [name]
      ∧ name ≠ ['.'] ∧ name ≠ ['.', '.']
      ∧ fs.walk start names = .ok directory ∧ fs.node? directory = some .directory
      ∧ closed = decide (p.text.getLast? = some '/') := by
  rw [slot] at h
  split at h
  · contradiction
  rename_i start hstart
  dsimp only at h
  split at h
  · contradiction
  rename_i l hwalk
  obtain ⟨hw, hdir⟩ := walk_dot_eq_ok_iff.1 hwalk
  split at h
  · cases h
  rename_i n hlast
  split_ifs at h with hdots
  · cases h
  obtain ⟨rfl, rfl, rfl⟩ : l = directory ∧ n = name ∧ _ = closed := by simpa using h
  obtain ⟨hdot, hdots⟩ := not_or.1 hdots
  obtain ⟨names, hnames⟩ := List.getLast?_eq_some_iff.1 hlast
  rw [hnames, List.dropLast_concat] at hw
  exact ⟨start, names, hstart, hnames, hdot, hdots, hw, hdir, rfl⟩

/-! ## Writing -/

/-- What writing a file changes: the content at one location, where no directory was. -/
structure Written (before after : FileSystem) (l : Location) (content : Bytes) : Prop where
  current : after.current = before.current
  replaced : before.node? l ≠ some .directory
  content : after.node? l = some (.file content)
  rest : ∀ m, m ≠ l → after.node? m = before.node? m

/-- **What can be written**: a plain name, not too long, in a directory, where no directory is. -/
theorem of_write_eq_ok {fs after : FileSystem} {p : FilePath} {content : Bytes}
    (h : fs.write p content = .ok after) :
    ∃ directory name, fs.slot p = .ok ⟨directory, .plain name, false⟩
      ∧ Utf8.length name ≤ maxNameLength
      ∧ fs.node? (directory ++ [name]) ≠ some .directory
      ∧ after = fs.put (directory ++ [name]) (.file content) := by
  rw [write] at h
  split at h
  · contradiction
  · contradiction
  · contradiction
  rename_i directory name hslot
  split_ifs at h with hlength hfree
  obtain rfl := Except.ok.inj h
  exact ⟨directory, name, hslot, Nat.not_lt.1 hlength, hfree, rfl⟩

/-- Whether a file can be written does not depend on what is written. -/
theorem write_eq_error {fs : FileSystem} {p : FilePath} {x : Bytes} {e : SystemError}
    (h : fs.write p x = .error e) (y : Bytes) : fs.write p y = .error e := by
  rw [write] at h ⊢
  split at h
  · exact h
  · exact h
  · exact h
  split_ifs at h ⊢
  · exact h
  · exact h

theorem written_put {fs : FileSystem} {l : Location} {content : Bytes} (hl : l ≠ [])
    (h : fs.node? l ≠ some .directory) : Written fs (fs.put l (.file content)) l content where
  current := rfl
  replaced := h
  content := node?_put_self hl
  rest _ hm := node?_put_of_ne hm

/-- **Writing changes the spot of the path and nothing else.** -/
theorem written_of_write {fs after : FileSystem} {p : FilePath} {content : Bytes}
    (h : fs.write p content = .ok after) :
    ∃ l, fs.spot? p = some l ∧ Written fs after l content := by
  obtain ⟨directory, name, hslot, -, hfree, rfl⟩ := of_write_eq_ok h
  exact ⟨directory ++ [name], spot?_of_slot hslot, written_put (by simp) hfree⟩

namespace Written

variable {before after : FileSystem} {l : Location} {content : Bytes}

/-- No directory is lost. -/
theorem node?_directory (h : Written before after l content) {m : Location}
    (hm : before.node? m = some .directory) : after.node? m = some .directory := by
  rw [h.rest m (by rintro rfl; exact h.replaced hm), hm]

/-- No file is lost, and so no node. -/
theorem keeps (h : Written before after l content) : Keeps before after where
  directory _ := h.node?_directory
  file m x hm := by
    by_cases he : m = l
    · exact ⟨content, he ▸ h.content⟩
    · exact ⟨x, by rw [h.rest m he, hm]⟩

/-- Walks survive. -/
theorem walk (h : Written before after l content) {here m : Location} {names : List Text}
    (hw : before.walk here names = .ok m) : after.walk here names = .ok m :=
  walk_mono h.keeps.directory (fun _ => h.keeps.node?_ne_none) hw

theorem startOf (h : Written before after l content) (p : FilePath) :
    after.startOf p = before.startOf p := by
  rw [FileSystem.startOf, FileSystem.startOf, h.current]

/-- Slots survive. -/
theorem slot (h : Written before after l content) {p : FilePath} {s : Slot}
    (hs : before.slot p = .ok s) : after.slot p = .ok s := by
  rw [FileSystem.slot] at hs
  rw [FileSystem.slot, h.startOf]
  split at hs
  · contradiction
  dsimp only at hs ⊢
  split at hs
  · contradiction
  · rename_i hw
    rw [h.walk hw]
    exact hs

end Written

/-- **What was written is read back under the same path** — the walk to it passes directories only,
so it never meets the file. -/
theorem read_of_write {fs after : FileSystem} {p : FilePath} {content : Bytes}
    (h : fs.write p content = .ok after) : after.read p = .ok content := by
  obtain ⟨directory, name, hslot, hlength, hfree, rfl⟩ := of_write_eq_ok h
  obtain ⟨start, names, hstart, hnames, hdot, hdots, hw, hdir, hclosed⟩ := of_slot_eq_ok hslot
  have hwritten : Written fs _ (directory ++ [name]) content := written_put (by simp) hfree
  have hopen : p.text.getLast? ≠ some '/' := of_decide_eq_false hclosed.symm
  have hall : namesOf p.text = names ++ [name] := by
    rw [namesOf, hnames, if_neg hopen, List.append_nil]
  have hlast : (fs.put (directory ++ [name]) (.file content)).walk directory [name]
      = .ok (directory ++ [name]) := by
    simp [FileSystem.walk, hwritten.node?_directory hdir, hdot, hdots, hwritten.content,
      Nat.not_lt.2 hlength]
  have hlocate : (fs.put (directory ++ [name]) (.file content)).locate p
      = .ok (directory ++ [name]) := by
    have hbegin : (fs.put (directory ++ [name]) (.file content)).startOf p = .ok start := hstart
    rw [locate, hbegin, hall]
    exact walk_append.trans (by rw [hwritten.walk hw]; exact hlast)
  rw [read, lookup, hlocate]
  dsimp only
  rw [hwritten.content]

theorem put_put (fs : FileSystem) (l : Location) (n : Node) : (fs.put l n).put l n = fs.put l n := by
  simp [put, List.filter_filter]

/-- **Writing the same content again changes nothing.** -/
theorem write_write {fs after : FileSystem} {p : FilePath} {content : Bytes}
    (h : fs.write p content = .ok after) : after.write p content = .ok after := by
  obtain ⟨directory, name, hslot, hlength, hfree, rfl⟩ := of_write_eq_ok h
  have hwritten : Written fs _ (directory ++ [name]) content := written_put (by simp) hfree
  have hfile : (fs.put (directory ++ [name]) (.file content)).node? (directory ++ [name])
      ≠ some .directory := by
    rw [hwritten.content]
    exact fun he => nomatch Option.some.inj he
  rw [write, hwritten.slot hslot]
  dsimp only
  rw [if_neg (Nat.not_lt.2 hlength), if_neg hfile, put_put]

/-- Writing keeps a tree a tree. -/
theorem IsTree.write {fs after : FileSystem} {p : FilePath} {content : Bytes} (ht : fs.IsTree)
    (h : fs.write p content = .ok after) : after.IsTree := by
  obtain ⟨directory, name, hslot, -, hfree, rfl⟩ := of_write_eq_ok h
  obtain ⟨-, -, -, -, -, -, -, hdir, -⟩ := of_slot_eq_ok hslot
  have hwritten : Written fs _ (directory ++ [name]) content := written_put (by simp) hfree
  intro l x hx
  by_cases he : l ++ [x] = directory ++ [name]
  · obtain ⟨rfl, -⟩ := List.append_inj' he rfl
    exact hwritten.node?_directory hdir
  · rw [hwritten.rest _ he] at hx
    exact hwritten.node?_directory (ht l x hx)

end WireSchema.FileSystem
