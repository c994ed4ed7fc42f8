import Mathlib.Tactic.Common
import WireSchema.Process.Status

/-!
# Proofs/Process/Ending — the ends of processes, packed and told apart

A process ends by itself, with a code, or a signal kills it, and then its memory may be dumped.  The
system packs either into one word; the codes fill the second byte, the signals the seven bits below,
where `0` and `0x7F` are none.

* `code?_status`, `signal?_status`, `dumped_status` — an end is read back from its word.
* `isSuccess_status_iff` — the word of success is that of the code zero, and of no other end.
-/

namespace WireSchema

/-- A number that a signal can have. -/
structure Signal where
  number : Nat
  pos : 0 < number
  lt : number < 0x7F
  deriving DecidableEq, Repr

/-- The end of a process. -/
inductive Ending
  | exited (code : UInt8)
  | killed (signal : Signal) (dumped : Bool)
  deriving DecidableEq, Repr

namespace Ending

/-- The word that the system packs an end into. -/
def status : Ending → WaitStatus
  | .exited code => .ofCode code
  | .killed signal dumped => ⟨.ofNat (signal.number + if dumped then 0x80 else 0)⟩

theorem toNat_raw_exited (code : UInt8) : (exited code).status.raw.toNat = code.toNat * 0x100 := by
  have hlt := code.toNat_lt
  have hshift : (code.toUInt32 <<< 8).toNat = code.toNat * 0x100 % 2 ^ 32 := by
    simp [Nat.shiftLeft_eq]
  exact hshift.trans (Nat.mod_eq_of_lt (by omega))

theorem toNat_raw_killed (signal : Signal) (dumped : Bool) :
    (killed signal dumped).status.raw.toNat = signal.number + if dumped then 0x80 else 0 := by
  have hlt := signal.lt
  refine UInt32.toNat_ofNat_of_lt' ?_
  cases dumped <;> simp [UInt32.size] <;> omega

/-- The code of a process that ended by itself is read back. -/
theorem code?_status (e : Ending) : e.status.code? = match e with
    | .exited code => some code.toNat
    | .killed _ _ => none := by
  cases e with
  | exited code =>
    have hlt := code.toNat_lt
    have hlow : code.toNat * 0x100 % 0x80 = 0 := by omega
    have hcode : code.toNat * 0x100 / 0x100 % 0x100 = code.toNat := by omega
    simp only [WaitStatus.code?, WaitStatus.secondByte, toNat_raw_exited, hlow, hcode, if_true]
  | killed signal dumped =>
    have hpos := signal.pos
    have hlt := signal.lt
    have hlow : (signal.number + if dumped then 0x80 else 0) % 0x80 ≠ 0 := by
      cases dumped <;> simp <;> omega
    simp only [WaitStatus.code?, toNat_raw_killed, if_neg hlow]

/-- The signal that killed a process is read back. -/
theorem signal?_status (e : Ending) : e.status.signal? = match e with
    | .exited _ => none
    | .killed signal _ => some signal.number := by
  cases e with
  | exited code =>
    have hlow : code.toNat * 0x100 % 0x80 = 0 := by omega
    simp only [WaitStatus.signal?, toNat_raw_exited, hlow, true_or, if_true]
  | killed signal dumped =>
    have hpos := signal.pos
    have hlt := signal.lt
    have hlow : (signal.number + if dumped then 0x80 else 0) % 0x80 = signal.number := by
      cases dumped <;> simp <;> omega
    simp only [WaitStatus.signal?, toNat_raw_killed, hlow]
    exact if_neg (by omega)

/-- So is the dump of its memory. -/
theorem dumped_status (e : Ending) : e.status.dumped = match e with
    | .exited _ => false
    | .killed _ dumped => dumped := by
  cases e with
  | exited code =>
    have hbit : code.toNat * 0x100 / 0x80 % 2 = 0 := by omega
    simp only [WaitStatus.dumped, toNat_raw_exited, hbit]
    rfl
  | killed signal dumped =>
    have hlt := signal.lt
    have hbit : (signal.number + if dumped then 0x80 else 0) / 0x80 % 2
        = if dumped then 1 else 0 := by
      cases dumped <;> simp <;> omega
    simp only [WaitStatus.dumped, toNat_raw_killed, hbit]
    cases dumped <;> rfl

/-- Different ends have different words. -/
theorem status_injective {e e' : Ending} (h : e.status = e'.status) : e = e' := by
  have hcode := (code?_status e).symm.trans (h ▸ code?_status e')
  have hsignal := (signal?_status e).symm.trans (h ▸ signal?_status e')
  have hdumped := (dumped_status e).symm.trans (h ▸ dumped_status e')
  rcases e with code | ⟨⟨n, hpos, hlt⟩, dumped⟩ <;> rcases e' with code' | ⟨⟨n', hpos', hlt'⟩, dumped'⟩
  · exact congrArg exited (UInt8.toNat_inj.1 (Option.some.inj hcode))
  · contradiction
  · contradiction
  · obtain rfl := Option.some.inj hsignal
    exact congrArg (killed _) hdumped

/-- **Success is the end with the code zero.** -/
theorem isSuccess_status_iff {e : Ending} : e.status.isSuccess = true ↔ e = .exited 0 := by
  have hzero : (exited 0).status = ⟨0⟩ := rfl
  rw [WaitStatus.isSuccess, beq_iff_eq]
  refine ⟨fun h => status_injective ?_, fun h => h ▸ rfl⟩
  rw [hzero, ← h]

end Ending

end WireSchema
