import Mathlib.Tactic.Common
import WireSchema.Text.Utf8

/-!
# Proofs/Text/Utf8 — written text reads back

`decode?_encode` — the strict reader gives a text back from its bytes, so `encode` is injective.

The reader is followed byte by byte: `scan_pending_last` and `scan_pending_more` are its two moves
inside a character, and `scan_encodeChar` goes through the four lengths that a character can have.
-/

namespace WireSchema.Utf8

theorem toNat_ofNat {n : Nat} (h : n < 0x100) : (UInt8.ofNat n).toNat = n :=
  UInt8.toNat_ofNat_of_lt' h

/-- A byte in range ends a character that owes no more. -/
theorem scan_pending_last {low high value b : Nat} (bs : Bytes) (hb : b < 0x100) (hl : low ≤ b)
    (hh : b ≤ high) : scan (some ⟨low, high, 0, value⟩) (.ofNat b :: bs)
      = some (Char.ofNat (value * 64 + (b - 0x80))) :: scan none bs := by
  simp [scan, step, toNat_ofNat hb, hl, hh]

/-- A byte in range goes on with a character that owes more. -/
theorem scan_pending_more {low high owed value b : Nat} (bs : Bytes) (hb : b < 0x100) (hl : low ≤ b)
    (hh : b ≤ high) : scan (some ⟨low, high, owed + 1, value⟩) (.ofNat b :: bs)
      = scan (some ⟨0x80, 0xBF, owed, value * 64 + (b - 0x80)⟩) bs := by
  simp [scan, step, toNat_ofNat hb, hl, hh]

/-- A byte that begins a longer character is pending behind it. -/
theorem scan_lead {b : Nat} {p : Pending} (bs : Bytes) (hb : b < 0x100) (hn : 0x80 ≤ b)
    (hp : lead? b = some p) : scan none (.ofNat b :: bs) = scan (some p) bs := by
  simp [scan, step, start, toNat_ofNat hb, hp, Nat.not_lt.2 hn]

/-- A character is no surrogate and within the code space. -/
theorem toNat_valid (c : Char) : c.toNat < 0xD800 ∨ (0xDFFF < c.toNat ∧ c.toNat < 0x110000) :=
  c.valid

/-- The first byte of a three-byte character allows the second one that belongs to it. -/
theorem lead?_of_three {n : Nat} (h : 0x800 ≤ n) (hn : n < 0x10000)
    (hv : n < 0xD800 ∨ 0xDFFF < n) : ∃ low high,
      lead? (0xE0 + n / 0x1000) = some ⟨low, high, 1, n / 0x1000⟩
        ∧ low ≤ 0x80 + n / 0x40 % 0x40 ∧ 0x80 + n / 0x40 % 0x40 ≤ high := by
  by_cases h0 : n / 0x1000 = 0
  · exact ⟨0xA0, 0xBF, by rw [h0]; rfl, by omega, by omega⟩
  by_cases hD : n / 0x1000 = 0xD
  · exact ⟨0x80, 0x9F, by rw [hD]; rfl, by omega, by omega⟩
  refine ⟨0x80, 0xBF, ?_, by omega, by omega⟩
  rw [lead?, if_neg (by omega), if_neg (by omega), if_neg (by omega), if_pos (by omega),
    Nat.add_sub_cancel_left]

/-- The first byte of a four-byte character allows the second one that belongs to it. -/
theorem lead?_of_four {n : Nat} (h : 0x10000 ≤ n) (hn : n < 0x110000) : ∃ low high,
    lead? (0xF0 + n / 0x40000) = some ⟨low, high, 2, n / 0x40000⟩
      ∧ low ≤ 0x80 + n / 0x1000 % 0x40 ∧ 0x80 + n / 0x1000 % 0x40 ≤ high := by
  by_cases h0 : n / 0x40000 = 0
  · exact ⟨0x90, 0xBF, by rw [h0]; rfl, by omega, by omega⟩
  by_cases h4 : n / 0x40000 = 4
  · exact ⟨0x80, 0x8F, by rw [h4]; rfl, by omega, by omega⟩
  refine ⟨0x80, 0xBF, ?_, by omega, by omega⟩
  rw [lead?, if_neg (by omega), if_neg (by omega), if_neg (by omega), if_neg (by omega),
    if_neg (by omega), if_pos (by omega), Nat.add_sub_cancel_left]

/-- **The bytes of a character are read as that character**, whatever follows them. -/
theorem scan_encodeChar (c : Char) (bs : Bytes) :
    scan none (encodeChar c ++ bs) = some c :: scan none bs := by
  have hc : Char.ofNat c.toNat = c := Char.ofNat_toNat c
  have hv := toNat_valid c
  dsimp only [encodeChar]
  generalize c.toNat = n at hc hv ⊢
  split_ifs with h1 h2 h3
  · simp [scan, step, start, toNat_ofNat (show n < 0x100 by omega), h1, hc]
  · have hlead : lead? (0xC0 + n / 0x40) = some ⟨0x80, 0xBF, 0, n / 0x40⟩ := by
      rw [lead?, if_pos (by omega), Nat.add_sub_cancel_left]
    have hn : n / 0x40 * 64 + (0x80 + n % 0x40 - 0x80) = n := by omega
    rw [List.cons_append, List.singleton_append, scan_lead _ (by omega) (by omega) hlead,
      scan_pending_last bs (by omega) (by omega) (by omega), hn, hc]
  · obtain ⟨low, high, hlead, hl, hh⟩ := lead?_of_three (n := n) (by omega) h3 (by omega)
    have hn : (n / 0x1000 * 64 + (0x80 + n / 0x40 % 0x40 - 0x80)) * 64 + (0x80 + n % 0x40 - 0x80)
        = n := by omega
    simp only [List.cons_append, List.nil_append]
    rw [scan_lead _ (by omega) (by omega) hlead, scan_pending_more _ (by omega) hl hh,
      scan_pending_last bs (by omega) (by omega) (by omega), hn, hc]
  · obtain ⟨low, high, hlead, hl, hh⟩ := lead?_of_four (n := n) (by omega) (by omega)
    have hn : ((n / 0x40000 * 64 + (0x80 + n / 0x1000 % 0x40 - 0x80)) * 64
        + (0x80 + n / 0x40 % 0x40 - 0x80)) * 64 + (0x80 + n % 0x40 - 0x80) = n := by omega
    simp only [List.cons_append, List.nil_append]
    rw [scan_lead _ (by omega) (by omega) hlead, scan_pending_more _ (by omega) hl hh,
      scan_pending_more _ (by omega) (by omega) (by omega),
      scan_pending_last bs (by omega) (by omega) (by omega), hn, hc]

theorem scan_encode : ∀ t : Text, scan none (encode t) = t.map some
  | [] => rfl
  | c :: cs => by
      rw [encode, List.flatMap_cons, scan_encodeChar, ← encode, scan_encode cs, List.map_cons]

/-- **A text reads back from its bytes.** -/
@[simp] theorem decode?_encode (t : Text) : decode? (encode t) = some t :=
  decode?_eq_some_iff.2 (scan_encode t)

/-- Different texts have different bytes. -/
theorem encode_injective {s t : Text} (h : encode s = encode t) : s = t :=
  Option.some.inj ((decode?_encode s).symm.trans ((congrArg decode? h).trans (decode?_encode t)))

end WireSchema.Utf8
