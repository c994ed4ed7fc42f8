import WireSchema.Generation.Run
import WireSchema.Proofs.Entry.Endings
import WireSchema.Proofs.FileSystem.Lookup

/-!
# Proofs/Generation/Endings — the enum does not depend on the line endings of the lists

Files are **converted** when a carriage return is put before each line feed, and **closed** when a line
feed is put behind their last line.  Either leaves the entries of a list as they are (Entry/Endings),
and a file that is no text stays none, so a table takes the list as before, or refuses it at the same
line.

* `readPasses_put_file` — one file with the same readings, whichever lists it is behind.
* `buildEnum_of_reended` — any number of files, converted or closed in any order.
* `endings_ignored` — lines, their entries, and the enum.
-/

namespace WireSchema

/-- Bytes that are a text with the same items and the same index reached, or no text, as others. -/
def Bytes.SameEntries (a b : Bytes) : Prop :=
  (Utf8.decode? b).map (fun t => Scan.extract t.lines)
    = (Utf8.decode? a).map fun t => Scan.extract t.lines

theorem Bytes.sameEntries_crlf (a : Bytes) : Bytes.SameEntries a (Bytes.crlf a) := by
  rw [SameEntries, Utf8.decode?_crlf, Option.map_map]
  exact congrArg (Option.map · _) (funext fun t => funext (Scan.extract_crlf t))

theorem Bytes.sameEntries_concat_newline (a : Bytes) : Bytes.SameEntries a (a ++ [0x0A]) := by
  rw [SameEntries, Utf8.decode?_concat_newline, Option.map_map]
  exact congrArg (Option.map · _) (funext fun t => funext (Scan.extract_concat_newline t))

/-- A file system some of whose files are converted or closed. -/
inductive FileSystem.Reended (fs : FileSystem) : FileSystem → Prop
  | refl : Reended fs fs
  | converted {gs : FileSystem} {l : Location} {a : Bytes} (h : Reended fs gs)
      (hl : gs.node? l = some (.file a)) : Reended fs (gs.put l (.file (Bytes.crlf a)))
  | closed {gs : FileSystem} {l : Location} {a : Bytes} (h : Reended fs gs)
      (hl : gs.node? l = some (.file a)) : Reended fs (gs.put l (.file (a ++ [0x0A])))

namespace Config

variable {c : Config} {fs gs : FileSystem} {l : Location} {a b : Bytes}

/-! ## One file -/

/-- Of a list, its items and the index reached are all that shows. -/
theorem readPass_congr {p : InputPass} (ha : fs.read (c.resolve p.path) = .ok a)
    (hb : gs.read (c.resolve p.path) = .ok b) (h : a.SameEntries b) (t : FunctionTable) :
    c.readPass gs t p = c.readPass fs t p := by
  rw [Bytes.SameEntries] at h
  simp only [readPass, FileSystem.readText, ha, hb]
  cases hta : Utf8.decode? a with
  | none =>
    rw [hta, Option.map_none, Option.map_eq_none_iff] at h
    rw [h]
  | some u =>
    rw [hta, Option.map_some, Option.map_eq_some_iff] at h
    obtain ⟨v, htb, hextract⟩ := h
    rw [htb]
    simp only [FunctionTable.extend_congr (congrFun hextract t.nextIndex)]

theorem readPass_put_file (hl : fs.node? l = some (.file a)) (h : a.SameEntries b)
    (t : FunctionTable) (p : InputPass) :
    c.readPass (fs.put l (.file b)) t p = c.readPass fs t p := by
  rcases FileSystem.read_put_file hl b (c.resolve p.path) with hread | ⟨ha, hb⟩
  · simp only [readPass, FileSystem.readText, hread]
  · exact readPass_congr ha hb h t

/-- **A file with the same entries** may stand behind any of the lists, and behind several. -/
theorem readPasses_put_file (hl : fs.node? l = some (.file a)) (h : a.SameEntries b) :
    ∀ (t : FunctionTable) (ps : List InputPass),
      c.readPasses (fs.put l (.file b)) t ps = c.readPasses fs t ps
  | _, [] => rfl
  | t, p :: ps => by
      rw [readPasses, readPasses, readPass_put_file hl h]
      cases c.readPass fs t p with
      | error e => rfl
      | ok r => simp only [readPasses_put_file hl h r.2 ps]

theorem buildEnum_put_file (hl : fs.node? l = some (.file a)) (h : a.SameEntries b) :
    c.buildEnum (fs.put l (.file b)) = c.buildEnum fs := by
  rw [buildEnum, buildEnum, readPasses_put_file hl h]

/-! ## Any files -/

/-- **Converting and closing files does not change the enum**, nor the error in its place. -/
theorem buildEnum_of_reended (h : fs.Reended gs) : c.buildEnum gs = c.buildEnum fs := by
  induction h with
  | refl => rfl
  | converted _ hl ih => exact (buildEnum_put_file hl (Bytes.sameEntries_crlf _)).trans ih
  | closed _ hl ih => exact (buildEnum_put_file hl (Bytes.sameEntries_concat_newline _)).trans ih

/-- What does not depend on line endings, for the text of a list and for files of lists. -/
structure EndingsIgnored (t : Text) (start : UInt32) (c : Config) (fs gs : FileSystem) : Prop where
  /-- The lines are the parts between line feeds: those that a line feed ends, without one return
  directly before it, and the last part as it is, unless it is empty. -/
  lines : ∀ ended last, Text.split '\n' t = ended ++ [last] →
    t.lines = ended.map Text.dropReturn ++ if last = [] then [] else [last]
  /-- With returns before its line feeds, the text gives the same items and reaches the same index. -/
  converted : Scan.extract t.crlf.lines start = Scan.extract t.lines start
  /-- So it does with a line feed behind it. -/
  closed : Scan.extract (t ++ ['\n']).lines start = Scan.extract t.lines start
  /-- Converted and closed files give the same enum, or the same error, and the same reports. -/
  enum : c.buildEnum gs = c.buildEnum fs

/-- **Line endings do not matter**: not to the entries of a text, and not to the enum. -/
theorem endings_ignored (h : fs.Reended gs) (c : Config) (t : Text) (start : UInt32) :
    EndingsIgnored t start c fs gs where
  lines _ _ := Text.lines_eq
  converted := Scan.extract_crlf t start
  closed := Scan.extract_concat_newline t start
  enum := buildEnum_of_reended h

/-- Two lists, the first converted, the second closed and then converted: the duplicate is found on the
same lines of both. -/
theorem endings_ignored_duplicate :
    let c : Config :=
      { default with passes := [⟨⟨"/a"⟩, baseEndMarker⟩, ⟨⟨"/b"⟩, extensionEndMarker⟩] }
    let t : Text := "API_ENTRY(glA\r)\r\nAPI_ENTRY(glB"
    let fs : FileSystem :=
      ⟨[(["a"], .file (Utf8.encode "API_ENTRY(glA)\n\nAPI_ENTRY(glB)\n")),
        (["b"], .file (Utf8.encode "\nAPI_ENTRY(glB)"))], []⟩
    ∃ gs, fs.Reended gs
      ∧ gs.read ⟨"/a"⟩ = .ok (Utf8.encode "API_ENTRY(glA)\r\n\r\nAPI_ENTRY(glB)\r\n")
      ∧ gs.read ⟨"/b"⟩ = .ok (Utf8.encode "\r\nAPI_ENTRY(glB)\r\n")
      ∧ (c.buildEnum gs).1 = .error (.duplicateEntry "glB" ⟨"/b", 2⟩ ⟨"/a", 3⟩)
      ∧ EndingsIgnored t 7 c fs gs := by
  intro c t fs
  have h : fs.Reended _ := .converted (l := ["b"]) (.closed (l := ["b"])
    (.converted (l := ["a"]) .refl rfl) rfl) rfl
  exact ⟨_, h, by decide +kernel, by decide +kernel, by decide +kernel, endings_ignored h c t 7⟩

end Config

end WireSchema
