import WireSchema.Proofs.Entry.Grammar
import WireSchema.Proofs.FunctionTable.Extension
import WireSchema.Proofs.Text.Line

/-!
# Proofs/Entry/Endings — the entries of a text do not depend on its line endings

A carriage return at the end of a line stands behind everything that decides how the line is read:
the marker holds none, and the name is between two parentheses.  So lines may differ in such returns,
and one line without a marker may stand behind the last, and the **readings** are the same.

* `readLine_concat_return` — a return at the end of a line does not show.
* `extract_of_sameReadings` — the same readings give the same items and reach the same index.
* `extract_crlf`, `extract_concat_newline` — other endings, and a last one added.
-/

namespace WireSchema

namespace Entry

/-! ## A return at the end of a line -/

/-- The shape of a line is that of the line with a return at its end. -/
theorem Reads.concat_return {l : Text} {o : Except LineFault Text} (h : Reads l o) :
    Reads (l ++ ['\r']) o := by
  cases h with
  | @name p u s v r hp hu hv hs =>
    simpa only [List.append_assoc, List.cons_append] using Reads.name (r := r ++ ['\r']) hp hu hv hs
  | @blank p u r hp hu =>
    simpa only [List.append_assoc, List.cons_append] using Reads.blank (r := r ++ ['\r']) hp hu
  | @unclosed p r hp hr =>
    have hclose : ')' ∉ r ++ ['\r'] := by simp [hr]
    simpa only [List.append_assoc, List.cons_append] using Reads.unclosed hp hclose
  | @other p u s v r hp hu hv hclose htrimmed hne hs =>
    simpa only [List.append_assoc, List.cons_append] using
      Reads.other (r := r ++ ['\r']) hp hu hv hclose htrimmed hne hs

/-- The marker does not reach over a return. -/
theorem marked_concat_return {l : Text} : marker <:+: l ++ ['\r'] ↔ marker <:+: l := by
  refine ⟨fun h => ?_, fun h => h.trans (List.prefix_append l ['\r']).isInfix⟩
  rcases List.infix_concat_iff.1 h with hsuffix | h
  · have hlast : '\r' ∈ marker := by
      rcases List.suffix_concat_iff.1 hsuffix with hnil | ⟨t, ht, -⟩
      · exact absurd hnil (by decide)
      · rw [ht]
        exact List.mem_append_right t (List.mem_singleton_self _)
    exact absurd hlast (by decide)
  · exact h

/-- **A return at the end of a line does not show.** -/
theorem readLine_concat_return (l : Text) : readLine (l ++ ['\r']) = readLine l := by
  by_cases h : marker <:+: l
  · obtain ⟨o, ho⟩ := exists_reads (mem_of_marked h)
    rw [readLine, if_pos (Text.occursIn_iff.2 (marked_concat_return.2 h)),
      readLine, if_pos (Text.occursIn_iff.2 h), ho.readName_eq, ho.concat_return.readName_eq]
  · rw [readLine, if_neg (mt (fun hm => marked_concat_return.1 (Text.occursIn_iff.1 hm)) h),
      readLine, if_neg (mt Text.occursIn_iff.1 h)]

theorem readLine_dropReturn (l : Text) : readLine (Text.dropReturn l) = readLine l := by
  rcases Text.dropReturn_cases l with h | h
  · rw [h]
  · rw [h, readLine_concat_return, Text.dropReturn_concat]

/-! ## The same readings -/

/-- Lines that are read alike one by one; behind the last may stand one that declares nothing. -/
inductive SameReadings : List Text → List Text → Prop
  | nil : SameReadings [] []
  | silent {l : Text} (h : readLine l = none) : SameReadings [] [l]
  | cons {l m : Text} {ls ms : List Text} (h : readLine l = readLine m) (hs : SameReadings ls ms) :
    SameReadings (l :: ls) (m :: ms)

theorem sameReadings_refl : ∀ ls : List Text, SameReadings ls ls
  | [] => .nil
  | _ :: ls => .cons rfl (sameReadings_refl ls)

theorem SameReadings.itemsFrom_eq {ls ms : List Text} (h : SameReadings ls ms) (i : UInt32) (n : Nat) :
    itemsFrom i n ms = itemsFrom i n ls := by
  induction h generalizing i n with
  | nil => rfl
  | silent h => simp only [itemsFrom, h]
  | cons h _ ih => simp only [itemsFrom, h, ih]

theorem SameReadings.names_eq {ls ms : List Text} (h : SameReadings ls ms) : names ms = names ls := by
  induction h with
  | nil => rfl
  | silent h => simp only [names, List.filterMap_cons, List.filterMap_nil, name?, h, Option.bind_none]
  | cons h _ ih =>
    rw [names] at ih ⊢
    simp only [List.filterMap_cons, name?, h, ih, names]

/-- Other endings of the same text. -/
theorem sameReadings_crlf (t : Text) : SameReadings t.lines t.crlf.lines := by
  induction t using list_rec_at '\n' with
  | last a ha =>
    rw [Text.crlf, putBefore_of_not_mem ha]
    exact sameReadings_refl _
  | line a t ha ih =>
    have hreturn : '\n' ∉ a ++ ['\r'] := by simp [ha]
    have hcrlf : Text.crlf (a ++ '\n' :: t) = a ++ ['\r'] ++ '\n' :: Text.crlf t := by
      rw [Text.crlf, putBefore_append_cons, putBefore_of_not_mem ha, Text.crlf, ← List.append_cons]
    rw [hcrlf, Text.lines_append_cons ha, Text.lines_append_cons hreturn, Text.dropReturn_concat]
    exact .cons (readLine_dropReturn a) ih

/-- An ending for the last line, or an empty line behind it. -/
theorem sameReadings_concat_newline (t : Text) : SameReadings t.lines (t ++ ['\n']).lines := by
  induction t using list_rec_at '\n' with
  | last a ha =>
    rw [Text.lines_append_cons ha, Text.lines_of_not_mem ha]
    split_ifs with hempty
    · rw [hempty]
      exact .silent rfl
    · exact .cons (readLine_dropReturn a).symm .nil
  | line a t ha ih =>
    rw [List.append_assoc, List.cons_append, Text.lines_append_cons ha, Text.lines_append_cons ha]
    exact .cons rfl ih

end Entry

/-! ## What is extracted -/

namespace Scan

/-- What comes of lines that are read to the end, the first entry with the given index: the items,
and the index reached. -/
def extract (ls : List Text) (start : UInt32) : List Item × UInt32 :=
  let read := (ofLines ls start).drain
  (read.map Prod.fst, ((ofLines ls start).behind read).nextIndex)

theorem extract_eq (ls : List Text) (start : UInt32) :
    extract ls start = (Entry.itemsFrom start 0 ls, start + .ofNat (Entry.names ls).length) :=
  Prod.ext (map_fst_drain ls 0 start) (nextIndex_behind_drain ls 0 start)

/-- **Lines with the same readings give the same items and reach the same index.** -/
theorem extract_of_sameReadings {ls ms : List Text} (h : Entry.SameReadings ls ms) (start : UInt32) :
    extract ms start = extract ls start := by
  rw [extract_eq, extract_eq, h.itemsFrom_eq, h.names_eq]

theorem extract_crlf (t : Text) (start : UInt32) :
    extract t.crlf.lines start = extract t.lines start :=
  extract_of_sameReadings (Entry.sameReadings_crlf t) start

theorem extract_concat_newline (t : Text) (start : UInt32) :
    extract (t ++ ['\n']).lines start = extract t.lines start :=
  extract_of_sameReadings (Entry.sameReadings_concat_newline t) start

end Scan

/-- **A table sees of the lines of a pass what is extracted from them.** -/
theorem FunctionTable.extend_congr {t : FunctionTable} {ls ms : List Text}
    (h : Scan.extract ms t.nextIndex = Scan.extract ls t.nextIndex) (origin endMarker : Text) :
    t.extend ⟨origin, ms, endMarker⟩ = t.extend ⟨origin, ls, endMarker⟩ := by
  obtain ⟨hitems, hindex⟩ := Prod.mk.inj h
  simp only [extend, hitems, hindex]

end WireSchema
