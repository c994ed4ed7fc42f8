import WireSchema.FilePath.Basic
import WireSchema.SystemError
import WireSchema.Text.Utf8

/-!
# FileSystem/Basic — directories and files, found by walking a path

A file system holds directories and regular files at **locations**, the lists of names from the root,
and one of its directories is the current one. A path is walked name by name from the root or from
the current directory: every name but the last must lead to a directory, `.` stays, `..` goes up, and
a closing separator asks for a directory. There are no links and no permissions, so a walk depends on
the tree alone.
-/

namespace WireSchema

/-- The names from the root to a node. -/
abbrev Location := List Text

/-- What stands at a location. -/
inductive Node
  | directory
  | file (content : Bytes)
  deriving DecidableEq, Repr

/-- The directories and files below the root, and the current directory. -/
structure FileSystem where
  nodes : List (Location × Node)
  current : Location
  deriving DecidableEq, Repr

namespace FileSystem

/-- The node at a location; the root is always a directory. -/
def node? (fs : FileSystem) (l : Location) : Option Node :=
  if l = [] then some .directory else fs.nodes.lookup l

/-- Puts a node at a location, in place of what stood there. -/
def put (fs : FileSystem) (l : Location) (n : Node) : FileSystem :=
  { fs with nodes := (l, n) :: fs.nodes.filter fun e => e.1 ≠ l }

/-- The longest name that a directory can hold, in bytes. -/
def maxNameLength : Nat := 255

/-- The longest path that can be walked, in bytes. -/
def maxPathLength : Nat := 4095

/-! ## Walking -/

/-- The names of a path; a closing separator reads as a last `.`. -/
def namesOf (t : Text) : List Text :=
  (Text.split '/' t).filter (· ≠ []) ++ if t.getLast? = some '/' then [['.']] else []

/-- Walks names from a location. -/
def walk (fs : FileSystem) : Location → List Text → Except SystemError Location
  | here, [] => .ok here
  | here, name :: names =>
    match fs.node? here with
    | none => .error .notFound
    | some (.file _) => .error .notDirectory
    | some .directory =>
      if name = ['.'] then walk fs here names
      else if name = ['.', '.'] then walk fs here.dropLast names
      else if Utf8.length name > maxNameLength then .error .nameTooLong
      else match fs.node? (here ++ [name]) with
        | none => .error .notFound
        | some _ => walk fs (here ++ [name]) names

/-- Where walking a path begins, for a path that can be walked at all. -/
def startOf (fs : FileSystem) (p : FilePath) : Except SystemError Location :=
  if '\x00' ∈ p.text then .error .nulInPath
  else if p.text = [] then .error .notFound
  else if Utf8.length p.text > maxPathLength then .error .nameTooLong
  else .ok (if p.isAbsolute then [] else fs.current)

/-- The location of what a path names. -/
def locate (fs : FileSystem) (p : FilePath) : Except SystemError Location :=
  match fs.startOf p with
  | .error e => .error e
  | .ok start => fs.walk start (namesOf p.text)

/-- The node that a path names. -/
def lookup (fs : FileSystem) (p : FilePath) : Except SystemError Node :=
  match fs.locate p with
  | .error e => .error e
  | .ok l =>
    match fs.node? l with
    | none => .error .notFound
    | some n => .ok n

/-- Whether a path names a regular file. -/
def isFile (fs : FileSystem) (p : FilePath) : Bool :=
  match fs.lookup p with
  | .ok (.file _) => true
  | _ => false

/-- Whether a path names a directory. -/
def isDirectory (fs : FileSystem) (p : FilePath) : Bool :=
  match fs.lookup p with
  | .ok .directory => true
  | _ => false

/-- The content of a file. -/
def read (fs : FileSystem) (p : FilePath) : Except SystemError Bytes :=
  match fs.lookup p with
  | .error e => .error e
  | .ok .directory => .error .isDirectory
  | .ok (.file content) => .ok content

/-- The content of a file as text. -/
def readText (fs : FileSystem) (p : FilePath) : Except SystemError Text :=
  match fs.read p with
  | .error e => .error e
  | .ok content =>
    match Utf8.decode? content with
    | none => .error .invalidText
    | some t => .ok t

/-! ## Changing -/

/-- The last name of a path, as a change of its directory sees it. -/
inductive LastName
  /-- A name that the directory holds or could hold. -/
  | plain (name : Text)
  /-- The root, `.` or `..`. -/
  | fixed
  deriving DecidableEq, Repr

/-- A path at its last name: the directory that holds it, the name, and whether separators follow. -/
structure Slot where
  directory : Location
  last : LastName
  closed : Bool
  deriving DecidableEq, Repr

/-- The slot of a path; everything before the last name must lead to a directory. -/
def slot (fs : FileSystem) (p : FilePath) : Except SystemError Slot :=
  match fs.startOf p with
  | .error e => .error e
  | .ok start =>
    let names := (Text.split '/' p.text).filter (· ≠ [])
    match fs.walk start (names.dropLast ++ [['.']]) with
    | .error e => .error e
    | .ok directory =>
      let last : LastName := match names.getLast? with
        | none => .fixed
        | some n => if n = ['.'] ∨ n = ['.', '.'] then .fixed else .plain n
      .ok ⟨directory, last, p.text.getLast? = some '/'⟩

/-- Writes a file: creates it, or replaces its whole content. -/
def write (fs : FileSystem) (p : FilePath) (content : Bytes) : Except SystemError FileSystem :=
  match fs.slot p with
  | .error e => .error e
  | .ok ⟨_, .fixed, _⟩ => .error .isDirectory
  | .ok ⟨_, .plain _, true⟩ => .error .isDirectory
  | .ok ⟨directory, .plain name, false⟩ =>
    if Utf8.length name > maxNameLength then .error .nameTooLong
    else if fs.node? (directory ++ [name]) = some .directory then .error .isDirectory
    else .ok (fs.put (directory ++ [name]) (.file content))

/-- Moves what stands at `source`, with all below it, to `target`, in place of what stands there. -/
def move (fs : FileSystem) (source target : Location) : FileSystem :=
  { fs with nodes := (fs.nodes.filter fun e => e.1 ≠ target).map fun e =>
      if source.isPrefixOf e.1 then (target ++ e.1.drop source.length, e.2) else e }

/-- Whether nothing stands below a location. -/
def isEmptyBelow (fs : FileSystem) (l : Location) : Bool :=
  fs.nodes.all fun e => e.1 == l || !l.isPrefixOf e.1

/-- Renames a file or directory. A file replaces a file; a directory replaces an empty directory. -/
def rename (fs : FileSystem) (source target : FilePath) : Except SystemError FileSystem :=
  if '\x00' ∈ source.text ∨ '\x00' ∈ target.text then .error .nulInPath
  else match fs.slot source, fs.slot target with
  | .error e, _ => .error e
  | .ok _, .error e => .error e
  | .ok ⟨_, .fixed, _⟩, .ok _ => .error .busy
  | .ok _, .ok ⟨_, .fixed, _⟩ => .error .busy
  | .ok ⟨fromDir, .plain fromName, fromClosed⟩, .ok ⟨toDir, .plain toName, toClosed⟩ =>
    let a := fromDir ++ [fromName]
    let b := toDir ++ [toName]
    if Utf8.length fromName > maxNameLength then .error .nameTooLong
    else match fs.node? a with
    | none => .error .notFound
    | some node =>
      if Utf8.length toName > maxNameLength then .error .nameTooLong
      else if node ≠ .directory ∧ (fromClosed ∨ toClosed) then .error .notDirectory
      else if a.isPrefixOf toDir then .error .invalidArgument
      else if b.isPrefixOf fromDir then .error .notEmpty
      else if a = b then .ok fs
      else match node, fs.node? b with
        | .directory, some (.file _) => .error .notDirectory
        | .file _, some .directory => .error .isDirectory
        | .directory, some .directory =>
          if fs.isEmptyBelow b then .ok (fs.move a b) else .error .notEmpty
        | _, _ => .ok (fs.move a b)

/-! ## Laws -/

@[simp] theorem node?_put_self {fs : FileSystem} {l : Location} {n : Node} (h : l ≠ []) :
    (fs.put l n).node? l = some n := by
  simp [node?, put, h]

theorem lookup_filter_ne {k l : Location} (h : k ≠ l) : ∀ {es : List (Location × Node)},
    (es.filter fun e => e.1 ≠ l).lookup k = es.lookup k
  | [] => rfl
  | (m, n) :: es => by
      by_cases hm : m = l
      · have hk : (k == m) = false := by simpa [hm] using h
        rw [List.filter_cons_of_neg (by simp [hm]), lookup_filter_ne h, List.lookup_cons, hk]
      · rw [List.filter_cons_of_pos (by simp [hm]), List.lookup_cons, List.lookup_cons,
          lookup_filter_ne h]

/-- **Putting a node leaves every other location alone.** -/
theorem node?_put_of_ne {fs : FileSystem} {l m : Location} {n : Node} (h : m ≠ l) :
    (fs.put l n).node? m = fs.node? m := by
  by_cases hm : m = []
  · simp [node?, hm]
  · have hb : (m == l) = false := by simpa using h
    simp only [node?, put, hm, if_false, List.lookup_cons, hb]
    exact lookup_filter_ne h

end FileSystem

end WireSchema
