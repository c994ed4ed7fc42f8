import WireSchema.FileSystem.Basic

/-!
# FileSystem/Tree — whole trees

Operations that take a location and make what they need: directories with all their parents, files
with the directories above them, removal with everything below. The listing shows a tree as texts in
the order of their bytes, a directory with a closing separator.

No run uses these operations. `spelled` tells Main which locations to load; the others are for tests,
which set up a tree, change it between runs and list what is left.
-/

namespace WireSchema.FileSystem

/-- Makes every directory that is missing on the way down the given names; a file in the way ends
it. -/
def makeDirectories (fs : FileSystem) (above : Location) : List Text → FileSystem
  | [] => fs
  | name :: names =>
    let here := above ++ [name]
    match fs.node? here with
    | some (.file _) => fs
    | some .directory => makeDirectories fs here names
    | none => makeDirectories (fs.put here .directory) here names

/-- Stores a file, with the directories above it, where no file is in the way and no directory in its
place. -/
def store (fs : FileSystem) (l : Location) (content : Bytes) : FileSystem :=
  let fs := fs.makeDirectories [] l.dropLast
  if fs.node? l.dropLast = some .directory ∧ fs.node? l ≠ some .directory then
    fs.put l (.file content)
  else fs

/-- Removes what stands at a location, with everything below it. -/
def remove (fs : FileSystem) (l : Location) : FileSystem :=
  { fs with nodes := fs.nodes.filter fun e => !l.isPrefixOf e.1 }

/-- The location that a path spells from the current directory, whether or not anything is there. -/
def spelled (fs : FileSystem) (p : FilePath) : Location :=
  (Text.split '/' p.text).foldl
    (fun l part =>
      if part = [] ∨ part = ['.'] then l
      else if part = ['.', '.'] then l.dropLast
      else l ++ [part])
    (if p.isAbsolute then [] else fs.current)

/-- Whether one text comes before another in the order of their bytes, or is the same. -/
def bytesLe : Bytes → Bytes → Bool
  | [], _ => true
  | _ :: _, [] => false
  | a :: as, b :: bs => a < b || (a == b && bytesLe as bs)

/-- Everything below a location: the path from there, and the content of a file. -/
def listing (fs : FileSystem) (l : Location) : List (Text × Option Bytes) :=
  let below := fs.nodes.filter fun e => l.isPrefixOf e.1 && e.1 ≠ l
  let entries := below.map fun e =>
    let path : Text := ['/'].intercalate (e.1.drop l.length)
    match e.2 with
    | .directory => (path ++ ['/'], none)
    | .file content => (path, some content)
  entries.mergeSort fun a b => bytesLe (Utf8.encode a.1) (Utf8.encode b.1)

end WireSchema.FileSystem
