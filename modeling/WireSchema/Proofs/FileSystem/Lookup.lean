import Mathlib.Tactic.Common
import WireSchema.FileSystem.Basic

/-!
# Proofs/FileSystem/Lookup — what a path leads to

A path **leads** to the node at the location that its walk ends at.  The tests for files and
directories, and the two ways of reading, are told apart by the node alone: a path that leads to a
regular file is one that can be read, and reading it as text never misses it.
-/

namespace WireSchema.FileSystem

variable {fs : FileSystem} {p : FilePath}

/-- The walk of a path ends at a node. -/
def Leads (fs : FileSystem) (p : FilePath) (n : Node) : Prop :=
  ∃ l, fs.locate p = .ok l ∧ fs.node? l = some n

/-- A path leads to a regular file. -/
def IsRegular (fs : FileSystem) (p : FilePath) : Prop := ∃ content, fs.Leads p (.file content)

/-- **Looking up a path gives the node it leads to.** -/
theorem lookup_eq_ok_iff {n : Node} : fs.lookup p = .ok n ↔ fs.Leads p n := by
  rw [lookup, Leads]
  cases fs.locate p with
  | error e => exact iff_of_false (fun h => nomatch h) fun ⟨_, h, _⟩ => nomatch h
  | ok l =>
    dsimp only
    constructor
    · intro h
      refine ⟨l, rfl, ?_⟩
      split at h
      · contradiction
      · rename_i hn
        rw [hn, Except.ok.inj h]
    · rintro ⟨m, hm, hn⟩
      obtain rfl := Except.ok.inj hm
      rw [hn]

theorem read_eq_ok_iff {content : Bytes} :
    fs.read p = .ok content ↔ fs.Leads p (.file content) := by
  rw [← lookup_eq_ok_iff, read]
  rcases fs.lookup p with e | _ | bytes
  · simp
  · simp
  · simp

theorem isFile_iff : fs.isFile p = true ↔ fs.IsRegular p := by
  simp only [IsRegular, ← lookup_eq_ok_iff, isFile]
  rcases fs.lookup p with e | _ | bytes
  · simp
  · simp
  · simp

theorem isDirectory_iff : fs.isDirectory p = true ↔ fs.Leads p .directory := by
  rw [← lookup_eq_ok_iff, isDirectory]
  rcases fs.lookup p with e | _ | bytes
  · simp
  · simp
  · simp

/-- What was read as text is a regular file. -/
theorem isRegular_of_readText {t : Text} (h : fs.readText p = .ok t) : fs.IsRegular p := by
  rw [readText] at h
  rcases hread : fs.read p with e | content
  · rw [hread] at h
    contradiction
  · exact ⟨content, read_eq_ok_iff.1 hread⟩

/-- **What is read as text is decided by the content that the path leads to.** -/
theorem readText_eq_of_leads {gs : FileSystem} {q : FilePath} {content : Bytes}
    (hp : fs.Leads p (.file content)) (hq : gs.Leads q (.file content)) :
    fs.readText p = gs.readText q := by
  rw [readText, readText, read_eq_ok_iff.2 hp, read_eq_ok_iff.2 hq]

/-- **Reading never misses a regular file**, whatever bytes it holds. -/
theorem readText_ne_notFound (h : fs.IsRegular p) : fs.readText p ≠ .error .notFound := by
  obtain ⟨content, hcontent⟩ := h
  rw [readText, read_eq_ok_iff.2 hcontent]
  dsimp only
  split
  · exact fun h => nomatch h
  · exact fun h => nomatch h

/-! ## Another content

A walk asks what is a directory and what is there at all, so it does not see the content of a file. -/

section PutFile

variable {l : Location} {a : Bytes}

theorem ne_nil_of_file (hl : fs.node? l = some (.file a)) : l ≠ [] := by
  rintro rfl
  have hroot : fs.node? [] = some .directory := if_pos rfl
  exact absurd (hroot.symm.trans hl) (by simp)

theorem walk_put_file (hl : fs.node? l = some (.file a)) (b : Bytes) :
    ∀ (here : Location) (names : List Text),
      (fs.put l (.file b)).walk here names = fs.walk here names
  | _, [] => rfl
  | here, name :: names => by
      have hput : (fs.put l (.file b)).node? l = some (.file b) := node?_put_self (ne_nil_of_file hl)
      rw [walk, walk]
      by_cases hhere : here = l
      · rw [hhere, hl, hput]
      simp only [node?_put_of_ne hhere, walk_put_file hl b _ names]
      by_cases hnext : here ++ [name] = l
      · rw [hnext, hl, hput]
      · rw [node?_put_of_ne hnext]

theorem locate_put_file (hl : fs.node? l = some (.file a)) (b : Bytes) (p : FilePath) :
    (fs.put l (.file b)).locate p = fs.locate p := by
  have hstart : (fs.put l (.file b)).startOf p = fs.startOf p := rfl
  simp only [locate, hstart, walk_put_file hl b]

/-- **Another content is read where the file was**, and nothing else changes. -/
theorem read_put_file (hl : fs.node? l = some (.file a)) (b : Bytes) (p : FilePath) :
    (fs.put l (.file b)).read p = fs.read p
      ∨ fs.read p = .ok a ∧ (fs.put l (.file b)).read p = .ok b := by
  rcases hp : fs.locate p with e | m
  · left
    simp only [read, lookup, locate_put_file hl, hp]
  · by_cases hm : m = l
    · right
      have hput : (fs.put l (.file b)).node? l = some (.file b) :=
        node?_put_self (ne_nil_of_file hl)
      subst hm
      exact ⟨read_eq_ok_iff.2 ⟨m, hp, hl⟩, read_eq_ok_iff.2 ⟨m, locate_put_file hl b p ▸ hp, hput⟩⟩
    · left
      simp only [read, lookup, locate_put_file hl, hp, node?_put_of_ne hm]

end PutFile

end WireSchema.FileSystem
