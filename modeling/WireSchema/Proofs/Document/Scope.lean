import Mathlib.Data.List.Nodup
import WireSchema.Proofs.Document.Reading
import WireSchema.Proofs.FunctionTable.Names

/-!
# Proofs/Document/Scope — the names that the document declares

The members of an enum stand in the scope *around* it, so the message declares in one scope its
fields, the type of the enum, and all members.  A table rejects a function that is named like
another one or like a control, but not one that is named like a field or like the enum's type.

* `declarations_render` — the names read off a document are those of its scope.
* `Indexed.nodup_scope_iff` — they are distinct exactly when no function takes a name of the
  message's own.
* `nodup_scope_iff_of_history` — so the document of a history can declare a name twice, and
  `not_nodup_declarations_of_field` is one that does.
-/

namespace WireSchema

/-- The names that the message declares by itself: its fields and the type of its enum. -/
def Message.names : List Text := contextField.name :: "Function" :: fields.map Field.name

namespace Document

/-- The names in the scope of the message, in document order: the first field, the enum's type, its
members, and the other fields. -/
def scope (e : FunctionEnum) : List Text :=
  Message.contextField.name :: "Function" ::
    (e.members.map Prod.fst ++ Message.fields.map Field.name)

/-! ## Reading declarations -/

/-- The name that words declare: the third word of a field, the second of an enum. -/
def declaredBy? : List Text → Option Text
  | _ :: _ :: name :: ['='] :: _ => some name
  | [keyword, name] => if keyword = "enum".toList then some name else none
  | _ => none

/-- The name that a line declares in the scope of the message: a member behind two tabs, a field or
the enum behind one. -/
def declaredOn? (l : Text) : Option Text :=
  match "\t\t".toList.isPrefixOf? l with
  | some _ => ((readLine? l).bind EnumLine.member?).map Prod.fst
  | none => ("\t".toList.isPrefixOf? l).bind fun t => declaredBy? (Text.split ' ' t)

/-- The names that a document declares in the scope of its message. -/
def declarations (document : Text) : List Text := (Text.split '\n' document).filterMap declaredOn?

/-- A legible line of the enum declares the name of its member. -/
theorem declaredOn?_line {l : EnumLine} (h : l.Legible) :
    declaredOn? l.line = l.member?.map Prod.fst := by
  have htabs : ∃ t, l.line = "\t\t".toList ++ t := by
    rcases l with ⟨name, value⟩ | text
    · exact ⟨_, EnumLine.line_member name value⟩
    · exact ⟨"// ".toList ++ text, rfl⟩
  obtain ⟨t, ht⟩ := htabs
  rw [declaredOn?, readLine?_line h, Option.bind_some, ht, Text.isPrefixOf?_append]

theorem filterMap_declaredOn?_line : ∀ {ls : List EnumLine}, (∀ l ∈ ls, l.Legible) →
    (ls.map EnumLine.line).filterMap declaredOn? = (ls.filterMap EnumLine.member?).map Prod.fst
  | [], _ => rfl
  | l :: ls, h => by
      have hl : l.Legible := h l List.mem_cons_self
      have hls : ∀ m ∈ ls, EnumLine.Legible m := fun m hm => h m (List.mem_cons_of_mem _ hm)
      rw [List.map_cons, List.filterMap_cons, declaredOn?_line hl, filterMap_declaredOn?_line hls,
        List.filterMap_cons]
      cases l.member? <;> rfl

theorem filterMap_declaredOn?_opening :
    opening.filterMap declaredOn? = [Message.contextField.name, "Function".toList] := by
  decide +kernel

theorem filterMap_declaredOn?_closing :
    (closing ++ [[]]).filterMap declaredOn? = Message.fields.map Field.name := by
  decide +kernel

/-- **The names read off a document are those of its scope.** -/
theorem declarations_render {e : FunctionEnum} (h : ∀ l ∈ e.lines, l.Legible) :
    declarations (render e) = scope e := by
  rw [declarations, render, Text.split_unlines (not_mem_of_mem_lines h), lines, List.append_assoc,
    List.append_assoc, List.filterMap_append, List.filterMap_append, filterMap_declaredOn?_opening,
    filterMap_declaredOn?_line h, filterMap_declaredOn?_closing]
  rfl

/-! ## Clashes -/

/-- The scope holds the names of the message and those of the members. -/
theorem scope_perm (e : FunctionEnum) :
    (scope e).Perm (Message.names ++ e.members.map Prod.fst) :=
  (List.perm_append_comm.cons _).cons _

end Document

theorem Message.nodup_names : Message.names.Nodup := by decide

theorem Control.name_not_mem_names (c : Control) : c.name ∉ Message.names := by
  cases c <;> decide

/-- **The names in scope are distinct exactly when no function takes a name of the message's own.**
A closed table has seen to all other clashes. -/
theorem FunctionTable.Indexed.nodup_scope_iff {t : FunctionTable} (h : t.Indexed) :
    (Document.scope t.finish).Nodup
      ↔ ∀ name ∈ t.members.map Prod.fst, name ∉ Message.names := by
  have hnames := t.map_fst_members_finish
  rw [(Document.scope_perm _).nodup_iff, List.nodup_append']
  constructor
  · rintro ⟨-, -, hdisjoint⟩ name hm hname
    exact hdisjoint hname (hnames ▸ List.mem_append_left _ hm)
  · intro hclash
    refine ⟨Message.nodup_names, h.nodup_finish, fun name hname hm => ?_⟩
    rw [hnames] at hm
    rcases List.mem_append.1 hm with hm | hm
    · exact hclash name hm hname
    · obtain ⟨c, -, rfl⟩ := List.mem_map.1 hm
      exact c.name_not_mem_names hname

/-- **The document of a history declares no name twice exactly when no function in its table takes
the name of a field or of the enum's type** — clashes between functions, and with controls, were
rejected on the way.  Where the comments are one line each, these are the names that the text of the
document declares. -/
theorem nodup_scope_iff_of_history (ps : List Pass) :
    ((Document.scope (FunctionTable.empty.after ps).finish).Nodup
        ↔ ∀ name ∈ (FunctionTable.empty.after ps).members.map Prod.fst, name ∉ Message.names)
      ∧ ((∀ p ∈ ps, '\n' ∉ p.endMarker) →
        Document.declarations (Document.render (FunctionTable.empty.after ps).finish)
          = Document.scope (FunctionTable.empty.after ps).finish) := by
  refine ⟨(FunctionTable.indexed_empty.after ps).nodup_scope_iff, fun h => ?_⟩
  rw [FunctionTable.finish_after]
  exact Document.declarations_render fun _ => FunctionEnum.legible_of_mem_ofPasses fun p hp =>
    h p (FunctionTable.mem_of_mem_taken hp)

/-- A function named like a field is taken, and its document declares `data` twice. -/
theorem not_nodup_declarations_of_field :
    let ps : List Pass := [⟨"gl2_api.in", ["API_ENTRY(data)"], "end of GL functions"⟩]
    (∀ c ∈ FunctionTable.empty.history ps, c.accepted = true)
      ∧ ¬ (Document.declarations
        (Document.render (FunctionTable.empty.after ps).finish)).Nodup := by
  decide +kernel

end WireSchema
