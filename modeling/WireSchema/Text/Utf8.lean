import WireSchema.Text.Basic

/-!
# Text/Utf8 — text as bytes and back

Bytes are read one at a time. Between characters nothing is pending; after the first byte of a
longer character the reader knows which range the next byte must lie in and how many continuation
bytes follow it, which rules out overlong forms, surrogates and values past the last code point. A
byte that cannot continue the pending character ends it as a **bad sequence** and is read afresh, so
that a bad sequence is as long as it can be while some valid character starts with it.

`scan` gives a `some c` per character and a `none` per bad sequence. The strict reader `decode?`
accepts a scan without bad sequences; the lenient one, `decodeLossy`, puts U+FFFD for each. On text
without bad sequences they agree (`decodeLossy_of_decode?`).
-/

namespace WireSchema

/-- A sequence of bytes. -/
abbrev Bytes := List UInt8

/-- The pieces of a byte sequence, each closed by the given byte, which the last may lack. -/
def Bytes.pieces (stop : UInt8) : Bytes → List Bytes
  | [] => []
  | b :: bs =>
    if b = stop then [b] :: pieces stop bs
    else match pieces stop bs with
      | [] => [[b]]
      | p :: ps => (b :: p) :: ps

namespace Utf8

/-- A character whose first bytes have been read: the range of the next byte, the number of
continuation bytes owed after it, and the bits gathered so far. -/
structure Pending where
  low : Nat
  high : Nat
  owed : Nat
  value : Nat
  deriving DecidableEq, Repr

/-- What a byte that begins a longer character announces. -/
def lead? (b : Nat) : Option Pending :=
  if 0xC2 ≤ b ∧ b ≤ 0xDF then some ⟨0x80, 0xBF, 0, b - 0xC0⟩
  else if b = 0xE0 then some ⟨0xA0, 0xBF, 1, 0x0⟩
  else if b = 0xED then some ⟨0x80, 0x9F, 1, 0xD⟩
  else if 0xE1 ≤ b ∧ b ≤ 0xEF then some ⟨0x80, 0xBF, 1, b - 0xE0⟩
  else if b = 0xF0 then some ⟨0x90, 0xBF, 2, 0x0⟩
  else if 0xF1 ≤ b ∧ b ≤ 0xF3 then some ⟨0x80, 0xBF, 2, b - 0xF0⟩
  else if b = 0xF4 then some ⟨0x80, 0x8F, 2, 0x4⟩
  else none

/-- A byte read between characters: what it yields and what is pending after it. -/
def start (b : Nat) : List (Option Char) × Option Pending :=
  if b < 0x80 then ([some (Char.ofNat b)], none)
  else match lead? b with
    | some p => ([], some p)
    | none => ([none], none)

/-- A byte read in either state. -/
def step : Option Pending → Nat → List (Option Char) × Option Pending
  | none, b => start b
  | some p, b =>
    if p.low ≤ b ∧ b ≤ p.high then
      let value := p.value * 64 + (b - 0x80)
      match p.owed with
      | 0 => ([some (Char.ofNat value)], none)
      | n + 1 => ([], some ⟨0x80, 0xBF, n, value⟩)
    else
      let next := start b
      (none :: next.1, next.2)

/-- The characters and bad sequences of a byte sequence, in order. -/
def scan : Option Pending → Bytes → List (Option Char)
  | none, [] => []
  | some _, [] => [none]
  | q, b :: bs =>
    let next := step q b.toNat
    next.1 ++ scan next.2 bs

/-- The text, if the bytes are valid. -/
def decode? (bs : Bytes) : Option Text := (scan none bs).mapM id

/-- The text with U+FFFD in place of each bad sequence. -/
def decodeLossy (bs : Bytes) : Text := (scan none bs).map fun c => c.getD '\uFFFD'

/-- The bytes of one character. -/
def encodeChar (c : Char) : Bytes :=
  let n := c.toNat
  if n < 0x80 then [.ofNat n]
  else if n < 0x800 then [.ofNat (0xC0 + n / 0x40), .ofNat (0x80 + n % 0x40)]
  else if n < 0x10000 then
    [.ofNat (0xE0 + n / 0x1000), .ofNat (0x80 + n / 0x40 % 0x40), .ofNat (0x80 + n % 0x40)]
  else
    [.ofNat (0xF0 + n / 0x40000), .ofNat (0x80 + n / 0x1000 % 0x40),
      .ofNat (0x80 + n / 0x40 % 0x40), .ofNat (0x80 + n % 0x40)]

/-- The bytes of a text. -/
def encode (t : Text) : Bytes := t.flatMap encodeChar

/-- The number of bytes of a text. -/
def length (t : Text) : Nat := (encode t).length

/-! ## Laws -/

theorem mapM_id_eq_some {xs : List (Option Char)} {t : Text} :
    xs.mapM id = some t ↔ xs = t.map some := by
  induction xs generalizing t with
  | nil => cases t <;> simp
  | cons x xs ih =>
    cases t with
    | nil => cases x <;> simp [Option.bind_eq_some_iff]
    | cons c cs =>
      cases x with
      | none => simp
      | some d =>
        simp only [List.mapM_cons, id_eq, Option.pure_def, Option.bind_eq_bind, Option.bind_some,
          Option.bind_eq_some_iff, Option.some.injEq, List.cons.injEq, List.map_cons, ih]
        exact ⟨fun ⟨_, h, hd, hs⟩ => ⟨hd, hs ▸ h⟩, fun ⟨hd, h⟩ => ⟨cs, h, hd, rfl⟩⟩

/-- Bytes are valid exactly when their scan shows no bad sequence. -/
theorem decode?_eq_some_iff {bs : Bytes} {t : Text} :
    decode? bs = some t ↔ scan none bs = t.map some := mapM_id_eq_some

/-- **On valid bytes the lenient reader gives the text itself.** -/
theorem decodeLossy_of_decode? {bs : Bytes} {t : Text} (h : decode? bs = some t) :
    decodeLossy bs = t := by
  simp [decodeLossy, decode?_eq_some_iff.1 h, Function.comp_def]

end Utf8

end WireSchema
