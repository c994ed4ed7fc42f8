import WireSchema.Text.Basic

/-!
# FilePath/Basic — paths as they are written

A path is its text and is never normalised. Its **components** are what the text says: a leading `/`
is the root, `..` is the parent, and an empty part or a `.` says nothing, except a `.` that begins a
relative path. Joining, stripping a prefix and replacing the extension work on the text, so inner
separators and dots survive; the parts at the end of the text that say nothing are its **tail**.
-/

namespace WireSchema

/-- A path, as it is written. -/
structure FilePath where
  text : Text
  deriving DecidableEq, Repr

namespace FilePath

/-- What one part of a path says. -/
inductive Component
  | root
  | current
  | parent
  | name (text : Text)
  deriving DecidableEq, Repr

/-- The component that a part between separators stands for, if it says anything. -/
def Component.ofPart? : Text → Option Component
  | [] => none
  | ['.'] => none
  | ['.', '.'] => some .parent
  | part => some (.name part)

/-- The part that a component is written as. -/
def Component.text : Component → Text
  | .root => ['/']
  | .current => ['.']
  | .parent => ['.', '.']
  | .name text => text

/-- The components of a text in which neither a leading `/` nor a leading `.` says anything. -/
def bodyComponents (t : Text) : List Component := (Text.split '/' t).filterMap Component.ofPart?

/-- The components of a path. -/
def components (p : FilePath) : List Component :=
  match p.text with
  | '/' :: rest => .root :: bodyComponents rest
  | t => if (Text.split '/' t).head? = some ['.'] then .current :: bodyComponents t
         else bodyComponents t

/-- Whether the path begins at the root. -/
def isAbsolute (p : FilePath) : Bool := p.text.head? == some '/'

/-- `p` as seen from `base`: an absolute path stands for itself, and a separator is put between the
two texts where it is missing. -/
def join (base p : FilePath) : FilePath :=
  if p.isAbsolute then p
  else if base.text.isEmpty || base.text.getLast? == some '/' then ⟨base.text ++ p.text⟩
  else ⟨base.text ++ '/' :: p.text⟩

/-- Joining keeps the text of the path that is joined. -/
theorem mem_join {base p : FilePath} {x : Char} (h : x ∈ p.text) : x ∈ (base.join p).text := by
  rw [join]
  split
  · exact h
  · split
    · exact List.mem_append_right _ h
    · exact List.mem_append_right _ (List.mem_cons_of_mem _ h)

/-! ## The tail and the file name -/

/-- A reversed text without its tail: closing `/`, and `.` parts behind a `/`. -/
def dropTail : Text → Text
  | '/' :: r => dropTail r
  | '.' :: '/' :: r => dropTail ('/' :: r)
  | r => r

/-- The text before the last part that is not in the tail, and that part. -/
def splitLast (p : FilePath) : Text × Text :=
  let back := dropTail p.text.reverse
  ((back.dropWhile (· ≠ '/')).reverse, (back.takeWhile (· ≠ '/')).reverse)

/-- The file name with the text before it, where the last component is a plain name. -/
def splitFileName? (p : FilePath) : Option (Text × Text) :=
  let (before, part) := p.splitLast
  match Component.ofPart? part with
  | some (.name n) => some (before, n)
  | _ => none

/-- The last component, where it is a plain name. -/
def fileName? (p : FilePath) : Option Text := p.splitFileName?.map Prod.snd

/-- A file name at its last dot: the stem and the extension. A dot that begins the name is part of
the stem. -/
def splitExtension (name : Text) : Text × Option Text :=
  match Text.cut '.' name.reverse with
  | none => (name, none)
  | some (_, []) => (name, none)
  | some (ext, stem) => (stem.reverse, some ext.reverse)

/-- The file name without its extension. -/
def stem? (p : FilePath) : Option Text := p.fileName?.map fun n => (splitExtension n).1

/-- The part of the file name behind its last dot. -/
def extension? (p : FilePath) : Option Text := p.fileName?.bind fun n => (splitExtension n).2

/-- A reversed text less the given number of bytes. A character that the count cuts through stays, as
its first byte does, which is neither a dot nor a separator. -/
def dropBytes : Nat → Text → Text
  | _, [] => []
  | k, c :: r => if c.utf8Size ≤ k then dropBytes (k - c.utf8Size) r else c :: r

/-- The path less as many bytes at the end of its text as its extension has. -/
def dropExtension (p : FilePath) : FilePath :=
  match p.extension? with
  | none => p
  | some ext =>
    ⟨(dropBytes (ext.foldr (fun c k => c.utf8Size + k) 0) p.text.reverse).reverse⟩

/-- The path with another extension: the old one is taken off the end of the text, then the new one
put behind the stem of what is left. A path without a file name then stays as it is. -/
def withExtension (p : FilePath) (ext : Text) : FilePath :=
  let bare := p.dropExtension
  match bare.splitFileName? with
  | none => bare
  | some (before, name) => ⟨before ++ (splitExtension name).1 ++ '.' :: ext⟩

/-! ## Stripping a prefix -/

/-- The text without the parts at its beginning that say nothing. -/
def dropSilent : Text → Text
  | '/' :: r => dropSilent r
  | ['.'] => []
  | '.' :: '/' :: r => dropSilent r
  | t => t

/-- What follows the given parts in a text. -/
def stripParts : List Text → Text → Option Text
  | [], t => some t
  | part :: parts, t =>
    let t := dropSilent t
    if t.takeWhile (· ≠ '/') = part then stripParts parts (t.dropWhile (· ≠ '/')) else none

/-- The path without its tail; its root stays. -/
def trimTail (p : FilePath) : FilePath :=
  match p.text with
  | '/' :: rest =>
    let rest := (dropTail rest.reverse).reverse
    ⟨'/' :: if rest = ['.'] then [] else rest⟩
  | t => ⟨(dropTail t.reverse).reverse⟩

/-- What is left of a path behind the components of another: the text from the first remaining
component on, without its tail. -/
def stripPrefix? (p base : FilePath) : Option FilePath :=
  match base.components with
  | [] => some p.trimTail
  | c :: cs =>
    if p.components.head? = some c then
      let rest := match c with
        | .root | .current => stripParts (cs.map Component.text) p.text.tail
        | _ => stripParts ((c :: cs).map Component.text) p.text
      rest.map fun t => ⟨(dropTail (dropSilent t).reverse).reverse⟩
    else none

end FilePath

end WireSchema
