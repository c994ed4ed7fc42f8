import WireSchema.Text.Basic

/-!
# Control — the flow-control values of the debugger protocol

Every message of the protocol carries a function or one of four control values. Their names are
reserved, and their order is part of the protocol: the enum lists them after all functions.
-/

namespace WireSchema

/-- A flow-control value. -/
inductive Control
  | acknowledge
  | negative
  | resume
  | skip
  deriving DecidableEq, Repr

namespace Control

/-- The control values in the order in which the enum lists them. -/
def all : List Control := [.acknowledge, .negative, .resume, .skip]

/-- The name under which the enum lists the value. -/
def name : Control → Text
  | .acknowledge => "ACK"
  | .negative => "NEG"
  | .resume => "CONTINUE"
  | .skip => "SKIP"

/-- Whether a name belongs to a control value. -/
def isReserved (t : Text) : Bool := all.any fun c => c.name == t

theorem mem_all (c : Control) : c ∈ all := by cases c <;> decide

theorem isReserved_iff {t : Text} : isReserved t = true ↔ ∃ c : Control, c.name = t := by
  simp only [isReserved, List.any_eq_true, beq_iff_eq]
  exact ⟨fun ⟨c, _, h⟩ => ⟨c, h⟩, fun ⟨c, h⟩ => ⟨c, mem_all c, h⟩⟩

end Control

end WireSchema
