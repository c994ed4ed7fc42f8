import WireSchema.Proofs.Text.Basic
import WireSchema.Proofs.Text.Malformed

/-!
# Proofs/Text/Line — the lines of a text, and other endings for them

A text is a line without a line feed, or such a line, a line feed and a text.  `lines` reads it in
that way, and rewriting the endings of a text, or of its bytes, puts a carriage return before each
line feed.

* `lines_eq` — the lines of a text by its split at the line feeds.
* `decode?_crlf`, `decode?_concat_newline` — bytes and their text have the same endings rewritten.
-/

namespace WireSchema

/-- **A list is taken apart at the occurrences of an element**, the first one first. -/
@[elab_as_elim] theorem list_rec_at {α : Type} [DecidableEq α] (stop : α) {motive : List α → Prop}
    (last : ∀ a, stop ∉ a → motive a)
    (line : ∀ a t, stop ∉ a → motive t → motive (a ++ stop :: t)) (t : List α) : motive t := by
  induction hn : t.length using Nat.strongRecOn generalizing t with
  | ind n ih =>
    by_cases h : stop ∈ t
    · obtain ⟨a, rest, rfl, ha⟩ := List.eq_append_cons_of_mem h
      refine line a rest ha (ih rest.length ?_ rest rfl)
      simp only [List.length_append, List.length_cons] at hn
      omega
    · exact last t h

/-- Puts an element before each occurrence of another. -/
def putBefore {α : Type} [DecidableEq α] (lead stop : α) (t : List α) : List α :=
  t.flatMap fun c => if c = stop then [lead, stop] else [c]

section PutBefore

variable {α : Type} [DecidableEq α] {lead stop : α}

theorem putBefore_append_cons (a t : List α) :
    putBefore lead stop (a ++ stop :: t) = putBefore lead stop a ++ lead :: stop :: putBefore lead stop t := by
  simp [putBefore]

theorem putBefore_of_not_mem {a : List α} (h : stop ∉ a) : putBefore lead stop a = a := by
  induction a with
  | nil => rfl
  | cons c a ih =>
    obtain ⟨hc, ha⟩ := not_or.1 (fun hm => h (List.mem_cons.2 hm))
    have hcons : putBefore lead stop (c :: a) = c :: putBefore lead stop a := by
      simp [putBefore, Ne.symm hc]
    rw [hcons, ih ha]

end PutBefore

namespace Text

/-- A line without the carriage return at its end, if it has one. -/
def dropReturn : Text → Text
  | [] => []
  | ['\r'] => []
  | c :: cs => c :: dropReturn cs

/-- The text with a carriage return put before each line feed. -/
def crlf (t : Text) : Text := putBefore '\r' '\n' t

/-- A line is what it is without its return, or has one behind that. -/
theorem dropReturn_cases (l : Text) : dropReturn l = l ∨ l = dropReturn l ++ ['\r'] := by
  fun_induction dropReturn l with
  | case1 => exact .inl rfl
  | case2 => exact .inr rfl
  | case3 c cs _ ih =>
    rcases ih with h | h
    · exact .inl (congrArg (c :: ·) h)
    · exact .inr (congrArg (c :: ·) h)

/-- One return is dropped, whatever stands before it. -/
@[simp] theorem dropReturn_concat (l : Text) : dropReturn (l ++ ['\r']) = l := by
  induction l with
  | nil => rfl
  | cons c l ih =>
    rw [List.cons_append, dropReturn, ih]
    simp

/-! ## Lines -/

/-- A character that ends no line belongs to the line behind it. -/
theorem lines_cons {c : Char} {cs : Text} (hc : c ≠ '\n') (hcs : c = '\r' → cs.head? ≠ some '\n') :
    lines (c :: cs) = match lines cs with
      | [] => [[c]]
      | l :: ls => (c :: l) :: ls := by
  refine lines.eq_4 c cs hc ?_
  rintro ds rfl rfl
  exact hcs rfl rfl

/-- **The first line ends at the first line feed**, with a return before that dropped. -/
theorem lines_append_cons {a : Text} (h : '\n' ∉ a) (t : Text) :
    lines (a ++ '\n' :: t) = dropReturn a :: lines t := by
  fun_induction dropReturn a with
  | case1 => rfl
  | case2 => rfl
  | case3 c cs hne ih =>
    obtain ⟨hc, hcs⟩ := not_or.1 (fun hm => h (List.mem_cons.2 hm))
    rw [List.cons_append, lines_cons (Ne.symm hc), ih hcs]
    rintro rfl hhead
    cases cs with
    | nil => exact hne rfl rfl
    | cons d ds => exact hcs (List.mem_cons.2 (.inl (Option.some.inj hhead).symm))

/-- The last line is kept whole, if there is anything in it. -/
theorem lines_of_not_mem {a : Text} (h : '\n' ∉ a) : lines a = if a = [] then [] else [a] := by
  induction a with
  | nil => rfl
  | cons c a ih =>
    obtain ⟨hc, ha⟩ := not_or.1 (fun hm => h (List.mem_cons.2 hm))
    rw [lines_cons (Ne.symm hc) fun _ hhead => ha (List.mem_of_head? hhead), ih ha]
    cases a <;> rfl

/-- **The lines of a text** are its parts between line feeds: those that a line feed ends, without
one return before it, and the last part as it is, unless it is empty. -/
theorem lines_eq {t last : Text} {ended : List Text} (h : split '\n' t = ended ++ [last]) :
    lines t = ended.map dropReturn ++ if last = [] then [] else [last] := by
  induction t using list_rec_at '\n' generalizing ended with
  | last a ha =>
    rw [split_of_not_mem ha] at h
    obtain ⟨rfl, hlast⟩ := List.append_eq_singleton_iff.1 h.symm |>.resolve_right (by simp)
    obtain rfl := (List.cons.inj hlast).1
    exact lines_of_not_mem ha
  | line a t ha ih =>
    rw [split_append_cons ha] at h
    cases ended with
    | nil => exact absurd (List.cons.inj h).2 split_ne_nil
    | cons l ended =>
      obtain ⟨rfl, ht⟩ := List.cons.inj h
      rw [lines_append_cons ha, ih ht, List.map_cons, List.cons_append]

end Text

/-! ## Bytes -/

/-- The bytes with a carriage return put before each line feed. -/
def Bytes.crlf (bs : Bytes) : Bytes := putBefore 0x0D 0x0A bs

namespace Utf8

/-- A text with a line feed has the byte of it. -/
theorem newline_not_mem {bs : Bytes} {t : Text} (h : decode? bs = some t) (hbs : 0x0A ∉ bs) :
    '\n' ∉ t := by
  intro hm
  rw [decode?_eq_some_iff_encode.1 h] at hbs
  exact hbs (List.mem_flatMap.2 ⟨'\n', hm, by decide⟩)

/-- **Bytes with other endings are the text with other endings**, or no text at all. -/
theorem decode?_crlf (bs : Bytes) : decode? bs.crlf = (decode? bs).map Text.crlf := by
  induction bs using list_rec_at (0x0A : UInt8) with
  | last a ha =>
    rw [Bytes.crlf, putBefore_of_not_mem ha]
    cases h : decode? a with
    | none => rfl
    | some t => rw [Option.map_some, Text.crlf, putBefore_of_not_mem (newline_not_mem h ha)]
  | line a bs ha ih =>
    rw [Bytes.crlf] at ih ⊢
    rw [putBefore_append_cons, putBefore_of_not_mem ha, decode?_append_ascii (by decide),
      decode?_cons_ascii (by decide), ih, decode?_append_ascii (by decide)]
    cases h : decode? a with
    | none => rfl
    | some t =>
      cases decode? bs with
      | none => rfl
      | some u =>
        have hcrlf : Text.crlf (t ++ '\n' :: u) = t ++ '\r' :: '\n' :: Text.crlf u := by
          rw [Text.crlf, putBefore_append_cons, putBefore_of_not_mem (newline_not_mem h ha), Text.crlf]
        exact congrArg some hcrlf.symm

/-- A line feed at the end of bytes is one at the end of their text. -/
theorem decode?_concat_newline (bs : Bytes) :
    decode? (bs ++ [0x0A]) = (decode? bs).map fun t => t ++ ['\n'] := by
  rw [decode?_append_ascii (by decide)]
  cases decode? bs <;> rfl

end Utf8

end WireSchema
