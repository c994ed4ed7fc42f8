import Mathlib.Data.List.Basic
import WireSchema.Proofs.Compiler.Answer
import WireSchema.Proofs.Text.Basic

/-!
# Proofs/Compiler/Arguments — what a schema compiler is told by its arguments

A schema compiler takes `--cpp_out=` and `--java_out=` for outputs, whatever directory follows, every
other argument that begins with a dash for an option, and the rest for input files.  The directories of
a request stand behind their flags, so they are told as they are.  The schema stands alone: it is told
as the one input file, unless its own text begins with a dash.

* `read_argument`, `read_cases` — the outputs are the arguments of targets.
* `orders_arguments` — the orders that the arguments of a request give.
* `told_arguments` — when these are the request, and what they are when they are not.
-/

namespace WireSchema

/-! ## Reading arguments -/

/-- An argument, as a schema compiler takes it. -/
inductive Argument
  | output (target : BindingTarget)
  | option (text : Text)
  | input (file : Text)
  deriving DecidableEq, Repr

namespace Argument

/-- What stands before the output directory of a language. -/
def lead : Language → Text
  | .cpp => "--cpp_out="
  | .java => "--java_out="

/-- How an argument is taken. -/
def read (a : Text) : Argument :=
  match (lead .cpp).isPrefixOf? a with
  | some dir => .output ⟨.cpp, ⟨dir⟩⟩
  | none =>
    match (lead .java).isPrefixOf? a with
    | some dir => .output ⟨.java, ⟨dir⟩⟩
    | none => if a.head? = some '-' then .option a else .input a

/-- The output that an argument asks for. -/
def output? : Argument → Option BindingTarget
  | .output target => some target
  | _ => none

/-- The option that an argument is. -/
def option? : Argument → Option Text
  | .option text => some text
  | _ => none

/-- The input file that an argument names. -/
def input? : Argument → Option Text
  | .input file => some file
  | _ => none

end Argument

/-- What a schema compiler is told to do. -/
structure Orders where
  outputs : List BindingTarget
  options : List Text
  inputs : List Text
  deriving DecidableEq, Repr

/-- The orders that arguments give. -/
def Orders.ofArguments (args : List Text) : Orders where
  outputs := args.filterMap fun a => (Argument.read a).output?
  options := args.filterMap fun a => (Argument.read a).option?
  inputs := args.filterMap fun a => (Argument.read a).input?

namespace Argument

open BindingTarget (argument)

/-- **The argument of a target is taken for that target**, whatever its directory. -/
@[simp] theorem read_argument (t : BindingTarget) : read (argument t) = .output t := by
  obtain ⟨_ | _, ⟨dir⟩⟩ := t
  · have hcpp : (lead .cpp).isPrefixOf? (argument ⟨.cpp, ⟨dir⟩⟩) = some dir :=
      Text.isPrefixOf?_append (lead .cpp) dir
    rw [read, hcpp]
  · have hcpp : (lead .cpp).isPrefixOf? (argument ⟨.java, ⟨dir⟩⟩) = none := rfl
    have hjava : (lead .java).isPrefixOf? (argument ⟨.java, ⟨dir⟩⟩) = some dir :=
      Text.isPrefixOf?_append (lead .java) dir
    rw [read, hcpp, hjava]

theorem argument_injective {t t' : BindingTarget} (h : argument t = argument t') : t = t' := by
  have hread := congrArg read h
  rw [read_argument, read_argument] at hread
  exact Argument.output.inj hread

/-- An argument is that of a target, or is told by its first character. -/
theorem read_cases (a : Text) : (∃ t, a = argument t)
    ∨ read a = if a.head? = some '-' then .option a else .input a := by
  rw [read]
  split
  · rename_i dir hdir
    exact .inl ⟨⟨.cpp, ⟨dir⟩⟩, (List.append_eq_of_isPrefixOf?_eq_some hdir).symm⟩
  split
  · rename_i dir hdir
    exact .inl ⟨⟨.java, ⟨dir⟩⟩, (List.append_eq_of_isPrefixOf?_eq_some hdir).symm⟩
  · exact .inr rfl

/-- What does not begin with a dash is an input file, by its own text. -/
theorem read_of_ne_dash {a : Text} (h : a.head? ≠ some '-') : read a = .input a := by
  rcases read_cases a with ⟨⟨l, dir⟩, rfl⟩ | hread
  · cases l <;> exact absurd rfl h
  · rw [hread, if_neg h]

/-- What begins with a dash is an output, for a target, or an option. -/
theorem read_of_dash {a : Text} (h : a.head? = some '-') :
    (∃ t, a = argument t ∧ read a = .output t) ∨ read a = .option a := by
  rcases read_cases a with ⟨t, rfl⟩ | hread
  · exact .inl ⟨t, rfl, read_argument t⟩
  · exact .inr (by rw [hread, if_pos h])

end Argument

/-! ## Telling a request -/

/-- **What the arguments of a request tell**: its targets in order, and how its schema is taken. -/
theorem orders_arguments (r : BindingRequest) : Orders.ofArguments r.arguments =
    ⟨r.targets ++ (Argument.read r.schema.text).output?.toList,
      (Argument.read r.schema.text).option?.toList, (Argument.read r.schema.text).input?.toList⟩ := by
  have hsingle : ∀ {α : Type} (f : Text → Option α) (a : Text), [a].filterMap f = (f a).toList :=
    fun f a => by cases h : f a <;> simp [h]
  simp only [Orders.ofArguments, BindingRequest.arguments, List.filterMap_append, List.filterMap_map,
    Function.comp_def, Argument.read_argument, Argument.output?, Argument.option?, Argument.input?,
    hsingle, List.filterMap_some, List.filterMap_none, List.nil_append]

/-- The orders of a request. -/
def BindingRequest.orders (r : BindingRequest) : Orders := ⟨r.targets, [], [r.schema.text]⟩

/-- How a request is told to the program of a host. -/
structure BindingRequest.Told (r : BindingRequest) (h : Host) (program : Text) (fs : FileSystem) :
    Prop where
  /-- A child that is started gets the arguments of the request. -/
  passed : ∀ child, (Compiler.external h program r fs).child? = some child →
    child.args = r.arguments
  /-- They tell the request exactly when the schema does not begin with a dash. -/
  told_iff : Orders.ofArguments r.arguments = r.orders ↔ r.schema.text.head? ≠ some '-'
  /-- A schema that does is no input file: it is one more output, or an option. -/
  taken : r.schema.text.head? = some '-' →
    (∃ t, r.schema.text = t.argument ∧ Orders.ofArguments r.arguments = ⟨r.targets ++ [t], [], []⟩)
      ∨ Orders.ofArguments r.arguments = ⟨r.targets, [r.schema.text], []⟩
  /-- The directories are told as they are in any case. -/
  outputs : r.targets <+: (Orders.ofArguments r.arguments).outputs
  /-- Requests with the same arguments ask for the same. -/
  distinct : ∀ r' : BindingRequest, r'.arguments = r.arguments →
    r'.targets = r.targets ∧ r'.schema = r.schema

theorem arguments_injective {r r' : BindingRequest} (h : r'.arguments = r.arguments) :
    r'.targets = r.targets ∧ r'.schema = r.schema := by
  obtain ⟨htargets, hschema⟩ := List.append_inj' h rfl
  exact ⟨(List.map_injective_iff.2 fun _ _ => Argument.argument_injective) htargets,
    congrArg FilePath.mk (List.cons.inj hschema).1⟩

/-- **A request is told as it is unless its schema begins with a dash.** -/
theorem told_arguments (r : BindingRequest) (h : Host) (program : Text) (fs : FileSystem) :
    r.Told h program fs where
  passed _ hchild := by
    obtain ⟨_, -, hstarted⟩ := Host.exists_exit_of_child hchild
    exact hstarted.args
  told_iff := by
    rw [orders_arguments]
    refine ⟨fun horders hdash => ?_, fun h => ?_⟩
    · rcases Argument.read_of_dash hdash with ⟨t, -, hread⟩ | hread
      all_goals
        rw [hread] at horders
        exact absurd (congrArg Orders.inputs horders) (List.cons_ne_nil _ _).symm
    · rw [Argument.read_of_ne_dash h, BindingRequest.orders]
      simp [Argument.output?, Argument.option?, Argument.input?]
  taken hdash := by
    rw [orders_arguments]
    rcases Argument.read_of_dash hdash with ⟨t, ht, hread⟩ | hread
    · exact .inl ⟨t, ht, by rw [hread]; rfl⟩
    · exact .inr (by rw [hread]; simp [Argument.output?, Argument.option?, Argument.input?])
  outputs := by
    rw [orders_arguments]
    exact List.prefix_append _ _
  distinct r' := arguments_injective

/-- A schema named like an option is not generated from: it is told as an option, with no input. -/
theorem not_told_of_dash :
    let r : BindingRequest :=
      ⟨⟨"."⟩, ⟨"-v.proto"⟩, [⟨.cpp, ⟨"src"⟩⟩, ⟨.java, ⟨"client/src"⟩⟩]⟩
    let host : Host := ⟨[("protoc", .runs fun _ fs => (⟨⟨0⟩, []⟩, fs))], []⟩
    let fs : FileSystem := ⟨[], []⟩
    ∃ child, (Compiler.external host "protoc" r fs).child? = some child
      ∧ Orders.ofArguments child.args = ⟨r.targets, ["-v.proto"], []⟩
      ∧ Orders.ofArguments child.args ≠ r.orders
      ∧ (Compiler.external host "protoc" r fs).result = .ok () := by
  intro r host fs
  exact ⟨⟨.known "protoc", [], r.arguments⟩, by rfl, by decide, by decide, by rfl⟩

end WireSchema
