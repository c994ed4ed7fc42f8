/-!
# Text/Basic — text as a list of characters

Every text of the library (a line, a path, a name, a message) is a list of characters, so that
cutting, trimming and joining are the list's own operations and their laws are those of lists.
String literals coerce. The operations here are the ones that every reader shares:

* `Text.occursIn` — the needle stands somewhere in the text (`occursIn_iff`);
* `Text.cut` — the text before and after the first occurrence of a character (`cut_eq_some_iff`);
* `Text.split` — the parts between all occurrences of a character, never an empty list;
* `Text.lines` — the lines, without their endings, and `Text.unlines`, which closes each again;
* `Text.decimal` — a number in decimal digits;
* `Text.le` — the order of texts by their characters.
-/

namespace WireSchema

/-- A text, as the list of its characters. -/
abbrev Text := List Char

instance : Coe String Text := ⟨String.toList⟩

namespace Text

/-- The decimal digits of a number, without leading zeros. -/
def decimal (n : Nat) : Text := Nat.toDigits 10 n

/-- ASCII capitals become small letters; every other character stays. -/
def lower (t : Text) : Text := t.map Char.toLower

/-- Whether `needle` stands somewhere in the text. -/
def occursIn (needle : Text) : Text → Bool
  | [] => needle.isEmpty
  | c :: cs => needle.isPrefixOf (c :: cs) || occursIn needle cs

/-- The text before the first `c` and the text after it. -/
def cut (c : Char) : Text → Option (Text × Text)
  | [] => none
  | d :: ds => if d = c then some ([], ds) else (cut c ds).map fun p => (d :: p.1, p.2)

/-- The parts between the occurrences of `c`: one more than there are occurrences. -/
def split (c : Char) : Text → List Text
  | [] => [[]]
  | d :: ds =>
    if d = c then [] :: split c ds
    else match split c ds with
      | [] => [[d]]
      | p :: ps => (d :: p) :: ps

/-- The lines of a text, without their endings. One carriage return directly before a line feed belongs
to the ending. The last line may lack its ending, in which case a trailing carriage return is text, and
there is no empty line after a final line feed. -/
def lines : Text → List Text
  | [] => []
  | '\n' :: cs => [] :: lines cs
  | '\r' :: '\n' :: cs => [] :: lines cs
  | c :: cs =>
    match lines cs with
    | [] => [[c]]
    | l :: ls => (c :: l) :: ls

/-- The lines as they are written, each closed by a line feed. -/
def unlines (ls : List Text) : Text := ls.flatMap (· ++ ['\n'])

/-- Whether a text comes before another in the order of their characters, or is the same. -/
def le : Text → Text → Bool
  | [], _ => true
  | _ :: _, [] => false
  | c :: cs, d :: ds => c.toNat < d.toNat || (c == d && le cs ds)

/-! ## Laws -/

theorem occursIn_iff {needle t : Text} : occursIn needle t = true ↔ needle <:+: t := by
  induction t with
  | nil => simp [occursIn]
  | cons c cs ih => simp [occursIn, ih, List.infix_cons_iff]

theorem cut_eq_none_iff {c : Char} {t : Text} : cut c t = none ↔ c ∉ t := by
  induction t with
  | nil => simp [cut]
  | cons d ds ih =>
    by_cases h : d = c
    · simp [cut, h]
    · simp [cut, h, ih, Ne.symm h]

/-- **The cut is at the first occurrence** — nothing is lost but that one character. -/
theorem cut_eq_some_iff {c : Char} {t a b : Text} :
    cut c t = some (a, b) ↔ t = a ++ c :: b ∧ c ∉ a := by
  induction t generalizing a with
  | nil => simp [cut]
  | cons d ds ih =>
    by_cases h : d = c
    · subst h
      cases a with
      | nil => simp [cut, eq_comm]
      | cons e es =>
        simp only [cut, if_pos, Option.some.injEq, Prod.mk.injEq, List.cons_append,
          List.cons.injEq, List.mem_cons, not_or]
        constructor
        · rintro ⟨h, -⟩; cases h
        · rintro ⟨⟨rfl, -⟩, hne, -⟩; exact absurd rfl hne
    · cases a with
      | nil =>
        simp only [cut, h, if_false, Option.map_eq_some_iff, Prod.mk.injEq, List.nil_append,
          List.cons.injEq, false_and, iff_false]
        rintro ⟨_, _, h', _⟩
        cases h'
      | cons e es =>
        simp only [cut, if_neg h, Option.map_eq_some_iff, Prod.mk.injEq, List.cons_append,
          List.cons.injEq, List.mem_cons, not_or]
        constructor
        · rintro ⟨⟨x, y⟩, hxy, ⟨rfl, rfl⟩, rfl⟩
          have := ih.1 hxy
          exact ⟨⟨rfl, this.1⟩, Ne.symm h, this.2⟩
        · rintro ⟨⟨rfl, rfl⟩, -, hc⟩
          exact ⟨(es, b), ih.2 ⟨rfl, hc⟩, ⟨rfl, rfl⟩, rfl⟩

@[simp] theorem split_ne_nil {c : Char} {t : Text} : split c t ≠ [] := by
  cases t with
  | nil => simp [split]
  | cons d ds =>
    unfold split
    split
    · simp
    · split <;> simp

end Text

end WireSchema
