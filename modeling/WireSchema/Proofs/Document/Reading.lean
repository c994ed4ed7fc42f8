import WireSchema.Document
import WireSchema.Proofs.Config.Settings
import WireSchema.Proofs.Entry.Grammar
import WireSchema.Proofs.FunctionTable.History
import WireSchema.Proofs.Text.Basic
import WireSchema.Proofs.Text.Utf8

/-!
# Proofs/Document/Reading — the enum, read back from the document

`Document.read?` reads an enum from the text of a schema alone: it splits the text at its line
feeds, takes the fixed lines off both ends, and reads what is left line by line.  A line of the enum
is **legible** when its name is an identifier or its comment has no line feed.

* `readLine?_line` — a legible line reads back as itself.
* `body?_render` — a document of legible lines falls apart into those lines.
* `legible_of_mem_ofPasses` — passes whose comments have no line feed give legible lines only.
* `render_lossless` — so the document of such passes determines their enum.
-/

namespace WireSchema

theorem Control.isIdentifier_name (c : Control) : Entry.isIdentifier c.name = true := by
  rcases c <;> decide

/-! ## The reader -/

namespace Document

/-- The lines of a document between its fixed beginning and its fixed end. -/
def body? (document : Text) : Option (List Text) :=
  (opening.isPrefixOf? (Text.split '\n' document)).bind (closing ++ [[]]).isSuffixOf?

/-- Reads a member: a name up to the first space, and a number between the sign and the
semicolon. -/
def readMember? (l : Text) : Option EnumLine :=
  ("\t\t".toList.isPrefixOf? l).bind fun t =>
    (Text.cut ' ' t).bind fun p =>
      ("= ".toList.isPrefixOf? p.2).bind fun value =>
        ([';'].isSuffixOf? value).bind fun digits =>
          (Text.readDecimal? digits).map fun n => .member p.1 (.ofNat n)

/-- Reads a line of the enum's body: a comment by its lead, and a member else. -/
def readLine? (l : Text) : Option EnumLine :=
  match "\t\t// ".toList.isPrefixOf? l with
  | some text => some (.comment text)
  | none => readMember? l

end Document

/-- The enum with the given lines: the last four members are the controls. -/
def FunctionEnum.ofLines (lines : List EnumLine) : FunctionEnum :=
  let values := (lines.filterMap EnumLine.member?).map Prod.snd
  let functions := values.length - Control.all.length
  ⟨lines, functions, values[functions]?.getD 0⟩

namespace Document

/-- Reads the enum from a document. -/
def read? (document : Text) : Option FunctionEnum :=
  ((body? document).bind fun ls => ls.mapM readLine?).map FunctionEnum.ofLines

end Document

/-! ## Legible lines -/

/-- A line that can be read back, whatever its number. -/
def OutlineLine.Legible : OutlineLine → Prop
  | .member name => Entry.isIdentifier name = true
  | .comment text => '\n' ∉ text

/-- A numbered line that can be read back. -/
def EnumLine.Legible (l : EnumLine) : Prop := l.outline.Legible

theorem EnumLine.line_member (name : Text) (value : UInt32) : (EnumLine.member name value).line
    = "\t\t".toList ++ (name ++ ' ' :: ("= ".toList ++ (Text.decimal value.toNat ++ [';']))) := by
  change "\t\t".toList ++ name ++ " = ".toList ++ Text.decimal value.toNat ++ ";".toList = _
  simp only [List.append_assoc]
  rfl

theorem EnumLine.line_comment (text : Text) :
    (EnumLine.comment text).line = "\t\t// ".toList ++ text := rfl

/-- A legible line is one line of text. -/
theorem EnumLine.Legible.not_mem {l : EnumLine} (h : l.Legible) : '\n' ∉ l.line := by
  rcases l with ⟨name, value⟩ | text
  · have hname : '\n' ∉ name := Entry.not_mem_of_isIdentifier h (by decide)
    have hvalue : '\n' ∉ Text.decimal value.toNat := fun hm =>
      absurd (Text.isDigit_of_mem_decimal hm) (by decide)
    rw [line_member]
    simp [hname, hvalue]
  · have htext : '\n' ∉ text := h
    rw [line_comment]
    simp [htext]

namespace Document

/-- **A member reads back as itself**: its name ends at the first space. -/
theorem readMember?_line {name : Text} (value : UInt32) (h : Entry.isIdentifier name = true) :
    readMember? (EnumLine.member name value).line = some (.member name value) := by
  have hspace : ' ' ∉ name := Entry.not_mem_of_isIdentifier h (by decide)
  rw [EnumLine.line_member, readMember?, Text.isPrefixOf?_append, Option.bind_some,
    Text.cut_eq_some_iff.2 ⟨rfl, hspace⟩, Option.bind_some, Text.isPrefixOf?_append,
    Option.bind_some, Text.isSuffixOf?_append, Option.bind_some, Text.readDecimal?_decimal,
    Option.map_some, UInt32.ofNat_toNat]

/-- The lead of a comment is not the beginning of a member: a name begins with no slash. -/
theorem isPrefixOf?_lead_member {name : Text} (value : UInt32)
    (h : Entry.isIdentifier name = true) :
    "\t\t// ".toList.isPrefixOf? (EnumLine.member name value).line = none := by
  have hslash : '/' ∉ name := Entry.not_mem_of_isIdentifier h (by decide)
  rcases name with _ | ⟨c, cs⟩
  · contradiction
  have hc : '/' ≠ c := (not_or.1 (mt List.mem_cons.2 hslash)).1
  rw [EnumLine.line_member]
  exact (Text.isPrefixOf?_append_append "\t\t".toList "// ".toList _).trans
    (Text.isPrefixOf?_cons_of_ne hc _ _)

/-- **A legible line reads back as itself.** -/
theorem readLine?_line {l : EnumLine} (h : l.Legible) : readLine? l.line = some l := by
  rcases l with ⟨name, value⟩ | text
  · rw [readLine?, isPrefixOf?_lead_member value h]
    exact readMember?_line value h
  · rw [readLine?, EnumLine.line_comment, Text.isPrefixOf?_append]

theorem not_mem_of_mem_opening : ∀ l ∈ opening, '\n' ∉ l := by decide +kernel

theorem not_mem_of_mem_closing : ∀ l ∈ closing, '\n' ∉ l := by decide +kernel

theorem mapM_readLine?_line : ∀ {ls : List EnumLine}, (∀ l ∈ ls, l.Legible) →
    (ls.map EnumLine.line).mapM readLine? = some ls
  | [], _ => rfl
  | l :: ls, h => by
      have hl : l.Legible := h l List.mem_cons_self
      have hls : ∀ m ∈ ls, EnumLine.Legible m := fun m hm => h m (List.mem_cons_of_mem _ hm)
      rw [List.map_cons, List.mapM_cons, readLine?_line hl, mapM_readLine?_line hls]
      rfl

/-- A document of legible lines has no line feed inside a line. -/
theorem not_mem_of_mem_lines {e : FunctionEnum} (h : ∀ l ∈ e.lines, l.Legible) :
    ∀ l ∈ lines e, '\n' ∉ l := by
  intro l hl
  rw [lines, List.append_assoc, List.mem_append, List.mem_append, List.mem_map] at hl
  rcases hl with hl | ⟨m, hm, rfl⟩ | hl
  · exact not_mem_of_mem_opening l hl
  · exact (h m hm).not_mem
  · exact not_mem_of_mem_closing l hl

/-- **A document of legible lines falls apart into those lines**, between its fixed ends. -/
theorem body?_render {e : FunctionEnum} (h : ∀ l ∈ e.lines, l.Legible) :
    body? (render e) = some (e.lines.map EnumLine.line) := by
  rw [body?, render, Text.split_unlines (not_mem_of_mem_lines h), lines, List.append_assoc,
    List.append_assoc, Text.isPrefixOf?_append, Option.bind_some, Text.isSuffixOf?_append]

/-- **An enum of legible lines reads back from its document**, when its counts are those of its
lines. -/
theorem read?_render {e : FunctionEnum} (h : ∀ l ∈ e.lines, l.Legible)
    (he : FunctionEnum.ofLines e.lines = e) : read? (render e) = some e := by
  rw [read?, body?_render h, Option.bind_some, mapM_readLine?_line h, Option.map_some, he]

end Document

/-! ## The enums of passes -/

namespace FunctionEnum

/-- **The counts of an enum are those of its lines**: behind its functions stand the controls. -/
theorem ofLines_ofPasses (ps : List Pass) : ofLines (ofPasses ps).lines = ofPasses ps := by
  have hmembers : (ofPasses ps).lines.filterMap EnumLine.member?
      = (ps.flatMap Pass.names ++ Control.all.map Control.name).mapIdx
          fun k name => (name, .ofNat k) := members_ofPasses ps
  have hfirst : (ps.flatMap Pass.names ++ Control.all.map Control.name)[
      (ps.flatMap Pass.names).length]? = some Control.acknowledge.name := by
    rw [List.getElem?_append_right (Nat.le_refl _), Nat.sub_self]
    rfl
  simp only [ofLines, hmembers, List.length_map, List.length_mapIdx, List.length_append,
    Nat.add_sub_cancel, List.getElem?_map, List.getElem?_mapIdx, hfirst, Option.map_some,
    Option.getD_some]
  rfl

/-- **Passes with one-line comments give legible lines only** — every name in the table was checked
when its line was read. -/
theorem legible_of_mem_outlineOf {ps : List Pass} (h : ∀ p ∈ ps, '\n' ∉ p.endMarker)
    {o : OutlineLine} (ho : o ∈ outlineOf ps) : o.Legible := by
  rcases List.mem_append.1 ho with ho | ho
  · obtain ⟨p, hp, ho⟩ := List.mem_flatMap.1 ho
    rcases List.mem_append.1 ho with ho | ho
    · obtain ⟨name, hname, rfl⟩ := List.mem_map.1 ho
      exact Entry.isIdentifier_of_mem_names hname
    · obtain rfl := List.mem_singleton.1 ho
      exact h p hp
  · obtain ⟨c, -, rfl⟩ := List.mem_map.1 ho
    exact c.isIdentifier_name

theorem legible_of_mem_ofPasses {ps : List Pass} (h : ∀ p ∈ ps, '\n' ∉ p.endMarker) {l : EnumLine}
    (hl : l ∈ (ofPasses ps).lines) : l.Legible := by
  refine legible_of_mem_outlineOf h ?_
  rw [← EnumLine.map_outline_number 0 (outlineOf ps)]
  exact List.mem_map_of_mem hl

/-- The document of one-line passes gives their enum back. -/
theorem read?_render_ofPasses {ps : List Pass} (h : ∀ p ∈ ps, '\n' ∉ p.endMarker) :
    Document.read? (Document.render (ofPasses ps)) = some (ofPasses ps) :=
  Document.read?_render (fun _ => legible_of_mem_ofPasses h) (ofLines_ofPasses ps)

end FunctionEnum

/-- The comments of every configuration are one line each. -/
theorem Config.not_mem_endMarker_of_ofLookup {lookup : Text → Option Text} {c : Config}
    (h : ofLookup lookup = .ok c) : ∀ p ∈ c.passes, '\n' ∉ p.endMarker := by
  have hbase : '\n' ∉ baseEndMarker := by decide
  have hextension : '\n' ∉ extensionEndMarker := by decide
  obtain ⟨base, hpasses | ⟨extension, hpasses⟩⟩ := hasLists_of_ofLookup h
  · simpa [hpasses] using hbase
  · simpa [hpasses] using ⟨hbase, hextension⟩

/-- **Rendering loses nothing.**  Between the fixed lines of the document stands one line of text
for each line of the enum, in order; from them the whole enum reads back, its counts included; and
so no two enums have the same bytes.  The comments may hold anything but a line feed, which those of
a configuration never do. -/
theorem render_lossless (ps : List Pass) (h : ∀ p ∈ ps, '\n' ∉ p.endMarker) :
    Document.body? (Document.render (FunctionTable.empty.after ps).finish)
        = some ((FunctionTable.empty.after ps).finish.lines.map EnumLine.line)
      ∧ Document.read? (Document.render (FunctionTable.empty.after ps).finish)
        = some (FunctionTable.empty.after ps).finish
      ∧ (∀ qs : List Pass, (∀ q ∈ qs, '\n' ∉ q.endMarker) →
          Utf8.encode (Document.render (FunctionTable.empty.after ps).finish)
              = Utf8.encode (Document.render (FunctionTable.empty.after qs).finish) →
            (FunctionTable.empty.after ps).finish = (FunctionTable.empty.after qs).finish)
      ∧ ∀ lookup c, Config.ofLookup lookup = .ok c → ∀ p ∈ c.passes, '\n' ∉ p.endMarker := by
  have hread : ∀ qs : List Pass, (∀ q ∈ qs, '\n' ∉ q.endMarker) →
      ∀ q ∈ FunctionTable.empty.taken qs, '\n' ∉ q.endMarker := fun qs hqs q hq =>
    hqs q (FunctionTable.mem_of_mem_taken hq)
  simp only [FunctionTable.finish_after]
  refine ⟨Document.body?_render fun _ => FunctionEnum.legible_of_mem_ofPasses (hread ps h),
    FunctionEnum.read?_render_ofPasses (hread ps h), fun qs hqs he => ?_,
    fun _ _ => Config.not_mem_endMarker_of_ofLookup⟩
  have hps := FunctionEnum.read?_render_ofPasses (hread ps h)
  rw [Utf8.encode_injective he, FunctionEnum.read?_render_ofPasses (hread qs hqs)] at hps
  exact (Option.some.inj hps).symm

/-- A comment that looks like a member, and like the end of the enum, still reads back as one. -/
theorem render_lossless_mimicry :
    let ps : List Pass :=
      [⟨"gl2_api.in", ["API_ENTRY(glA)", "\tglC"], "\t\tglB = 1;"⟩, ⟨"gl2ext_api.in", [], "\t\x7d"⟩]
    (∀ p ∈ ps, '\n' ∉ p.endMarker)
      ∧ Document.read? (Document.render (FunctionTable.empty.after ps).finish)
        = some (FunctionTable.empty.after ps).finish := by
  intro ps
  have h : ∀ p ∈ ps, '\n' ∉ p.endMarker := by decide
  exact ⟨h, (render_lossless ps h).2.1⟩

end WireSchema
