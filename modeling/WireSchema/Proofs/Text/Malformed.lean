import WireSchema.Proofs.Text.Utf8

/-!
# Proofs/Text/Malformed — what is read where bytes are no text

The reader of `Text/Utf8` moves one byte at a time.  What it finds is said here of the bytes
themselves: a sequence is **bad** (`BadSequence`) where no character stands, and it reaches as far as
some character begins with it, but is one byte long at least.  Any bytes are in one way a sequence of
characters and bad sequences (`Scans`), and this is what the reader gives.

* `Reached.more` — what is true of the bytes of a pending character is true after one more.
* `scan_eq_iff` — the reader gives the characters and the bad sequences, in order.
* `decode?_eq_some_iff_encode` — bytes are accepted as a text exactly when they are its bytes.
* `decode?_append_ascii` — bytes are a text when those on both sides of an ASCII character are.
-/

namespace WireSchema.Utf8

variable {bs s rest : Bytes} {xs : List (Option Char)} {c : Char} {b : UInt8} {p : Pending}

/-- Some character begins with these bytes. -/
def Begins (s : Bytes) : Prop := ∃ c, s <+: encodeChar c

/-- The bytes `s` are a bad sequence in front of `rest`. -/
structure BadSequence (s rest : Bytes) : Prop where
  nonempty : s ≠ []
  /-- No character stands there. -/
  noChar : ∀ c, ¬ encodeChar c <+: s ++ rest
  /-- Some character begins with all of its bytes, if they are more than one. -/
  begins : s.length = 1 ∨ Begins s
  /-- No character begins with its bytes and the next one. -/
  longest : ∀ b more, rest = b :: more → ¬ Begins (s ++ [b])

/-- Bytes as characters and bad sequences. -/
inductive Scans : Bytes → List (Option Char) → Prop
  | nil : Scans [] []
  | char {rest : Bytes} {xs : List (Option Char)} (c : Char) (h : Scans rest xs) :
    Scans (encodeChar c ++ rest) (some c :: xs)
  | bad {s rest : Bytes} {xs : List (Option Char)} (hs : BadSequence s rest) (h : Scans rest xs) :
    Scans (s ++ rest) (none :: xs)

/-! ## Pending characters -/

/-- The leading bits of a code point, without the last `k` groups of six. -/
def leading (n : Nat) : Nat → Nat
  | 0 => n
  | k + 1 => leading n k / 64

/-- The last `k` bytes of a character of several bytes, by its code point. -/
def continuation (n : Nat) : Nat → Bytes
  | 0 => []
  | k + 1 => .ofNat (0x80 + leading n k % 64) :: continuation n k

theorem exists_leading (m : Nat) : ∀ k, ∃ n, leading n k = m
  | 0 => ⟨m, rfl⟩
  | k + 1 => by
      obtain ⟨n, hn⟩ := exists_leading (m * 64) k
      exact ⟨n, by rw [leading, hn, Nat.mul_div_cancel m (by decide)]⟩

/-- What a first byte announces, by the length of its characters. -/
theorem lead?_cases {b : Nat} (h : lead? b = some p) :
    (p.owed = 0 ∧ 0xC2 ≤ b ∧ b ≤ 0xDF ∧ p.value = b - 0xC0 ∧ p.low = 0x80 ∧ p.high = 0xBF) ∨
    (p.owed = 1 ∧ 0xE0 ≤ b ∧ b ≤ 0xEF ∧ p.value = b - 0xE0
      ∧ p.low = (if b = 0xE0 then 0xA0 else 0x80) ∧ p.high = (if b = 0xED then 0x9F else 0xBF)) ∨
    (p.owed = 2 ∧ 0xF0 ≤ b ∧ b ≤ 0xF4 ∧ p.value = b - 0xF0
      ∧ p.low = (if b = 0xF0 then 0x90 else 0x80) ∧ p.high = (if b = 0xF4 then 0x8F else 0xBF)) := by
  rw [lead?] at h
  split_ifs at h <;> obtain rfl := Option.some.inj h <;> grind

/-- A continuation byte is owed, and there is one that will do. -/
theorem range_of_lead? {b : Nat} (h : lead? b = some p) :
    0x80 ≤ p.low ∧ p.low ≤ p.high ∧ p.high ≤ 0xBF := by
  rcases lead?_cases h with h | h | h <;> grind

theorem toNat_charOfNat {n : Nat} (h : n < 0xD800 ∨ 0xDFFF < n ∧ n < 0x110000) :
    (Char.ofNat n).toNat = n := by
  rw [Char.ofNat, dif_pos h]
  rfl

/-- A code point whose leading bits a first byte gives, and whose next six it allows, is that of a
character with this first byte. -/
theorem encodeChar_of_lead? (h : lead? b.toNat = some p) {n : Nat}
    (hvalue : leading n (p.owed + 1) = p.value) (hlow : p.low ≤ 0x80 + leading n p.owed % 64)
    (hhigh : 0x80 + leading n p.owed % 64 ≤ p.high) :
    encodeChar (Char.ofNat n) = b :: continuation n (p.owed + 1) := by
  have hb : b = UInt8.ofNat b.toNat := UInt8.ofNat_toNat.symm
  rcases lead?_cases h with ⟨ho, h1, h2, hv, hl, hh⟩ | ⟨ho, h1, h2, hv, hl, hh⟩ |
    ⟨ho, h1, h2, hv, hl, hh⟩ <;>
    simp only [ho, hv, hl, hh, leading, Nat.div_div_eq_div_mul, Nat.reduceMul]
      at hvalue hlow hhigh
  · have hn : n < 0x800 ∧ 0x80 ≤ n := by omega
    have hfirst : b.toNat = 0xC0 + n / 0x40 := by omega
    simp only [encodeChar, toNat_charOfNat (show n < 0xD800 ∨ 0xDFFF < n ∧ n < 0x110000 by omega)]
    rw [if_neg (by omega), if_pos (by omega), hb, hfirst, ho]
    rfl
  · have hn : n < 0x10000 ∧ 0x800 ≤ n ∧ (n < 0xD800 ∨ 0xDFFF < n) := by
      split_ifs at hlow hhigh <;> omega
    have hfirst : b.toNat = 0xE0 + n / 0x1000 := by omega
    simp only [encodeChar, toNat_charOfNat (show n < 0xD800 ∨ 0xDFFF < n ∧ n < 0x110000 by omega)]
    rw [if_neg (by omega), if_neg (by omega), if_pos (by omega), hb, hfirst, ho]
    rfl
  · have hn : n < 0x110000 ∧ 0x10000 ≤ n := by split_ifs at hlow hhigh <;> omega
    have hfirst : b.toNat = 0xF0 + n / 0x40000 := by omega
    simp only [encodeChar, toNat_charOfNat (show n < 0xD800 ∨ 0xDFFF < n ∧ n < 0x110000 by omega)]
    rw [if_neg (by omega), if_neg (by omega), if_neg (by omega), hb, hfirst, ho]
    simp only [continuation, leading, Nat.div_div_eq_div_mul, Nat.reduceMul]

/-- The reader has read the bytes `s` of a character, and `p` is pending. -/
structure Reached (s : Bytes) (p : Pending) : Prop where
  nonempty : s ≠ []
  scan_append : ∀ bs, scan none (s ++ bs) = scan (some p) bs
  low : 0x80 ≤ p.low
  range : p.low ≤ p.high
  high : p.high ≤ 0xBF
  /-- Whatever is in range is owed: the code points that agree with the bits gathered so far and
  with the range of the next byte are those of characters that begin with these bytes. -/
  completes : ∀ n, leading n (p.owed + 1) = p.value → p.low ≤ 0x80 + leading n p.owed % 64 →
    0x80 + leading n p.owed % 64 ≤ p.high → encodeChar (Char.ofNat n) = s ++ continuation n (p.owed + 1)

/-- A first byte is a beginning of each of its characters. -/
theorem Reached.lead (h : lead? b.toNat = some p) : Reached [b] p where
  nonempty := List.cons_ne_nil b []
  scan_append bs := by
    have hb : 0x80 ≤ b.toNat := by rcases lead?_cases h with h | h | h <;> omega
    have hscan := scan_lead bs b.toNat_lt hb h
    rwa [UInt8.ofNat_toNat] at hscan
  low := (range_of_lead? h).1
  range := (range_of_lead? h).2.1
  high := (range_of_lead? h).2.2
  completes _ hvalue hlow hhigh := encodeChar_of_lead? h hvalue hlow hhigh

namespace Reached

/-- **A byte in range belongs to some character** that begins with the bytes read. -/
theorem exists_encodeChar (h : Reached s p) (hl : p.low ≤ b.toNat) (hh : b.toNat ≤ p.high) :
    ∃ n, leading n p.owed = p.value * 64 + (b.toNat - 0x80)
      ∧ encodeChar (Char.ofNat n) = s ++ b :: continuation n p.owed := by
  have hlow := h.low
  have hhigh := h.high
  obtain ⟨n, hn⟩ := exists_leading (p.value * 64 + (b.toNat - 0x80)) p.owed
  have hvalue : leading n (p.owed + 1) = p.value := by
    rw [leading, hn]
    omega
  have hnext : 0x80 + leading n p.owed % 64 = b.toNat := by omega
  refine ⟨n, hn, ?_⟩
  rw [h.completes n hvalue (hnext.symm ▸ hl) (hnext.symm ▸ hh), continuation, hnext,
    UInt8.ofNat_toNat]

/-- Some character begins with the bytes read. -/
theorem begins (h : Reached s p) : Begins s := by
  have hrange := h.range
  have hhigh := h.high
  have hlow : (UInt8.ofNat p.low).toNat = p.low := toNat_ofNat (by omega)
  obtain ⟨n, -, hn⟩ := h.exists_encodeChar (b := .ofNat p.low) (by omega) (by omega)
  exact ⟨.ofNat n, hn ▸ List.prefix_append _ _⟩

/-- **A byte in range is one more byte of the character**, if it owes others. -/
theorem more {low high owed value : Nat} (h : Reached s ⟨low, high, owed + 1, value⟩)
    (hl : low ≤ b.toNat) (hh : b.toNat ≤ high) :
    Reached (s ++ [b]) ⟨0x80, 0xBF, owed, value * 64 + (b.toNat - 0x80)⟩ where
  nonempty := List.append_ne_nil_of_right_ne_nil s (List.cons_ne_nil b [])
  scan_append bs := by
    have hscan : scan (some ⟨low, high, owed + 1, value⟩) (.ofNat b.toNat :: bs) = _ :=
      scan_pending_more bs b.toNat_lt hl hh
    rw [UInt8.ofNat_toNat] at hscan
    rw [List.append_assoc, List.singleton_append, h.scan_append, hscan]
  low := Nat.le_refl 0x80
  range := show 0x80 ≤ 0xBF by decide
  high := Nat.le_refl 0xBF
  completes n hvalue _ _ := by
    have hlow : 0x80 ≤ low := h.low
    have hhigh : high ≤ 0xBF := h.high
    dsimp only at hvalue ⊢
    have hnext : 0x80 + leading n (owed + 1) % 64 = b.toNat := by omega
    have hbits : leading n (owed + 1 + 1) = value := by
      rw [leading, hvalue]
      omega
    rw [h.completes n hbits (by simpa only [hnext] using hl) (by simpa only [hnext] using hh),
      continuation, hnext, UInt8.ofNat_toNat, List.append_assoc, List.singleton_append]

/-- A byte in range ends the character, if it owes no others. -/
theorem last (h : Reached s p) (ho : p.owed = 0) (hl : p.low ≤ b.toNat) (hh : b.toNat ≤ p.high) :
    encodeChar (Char.ofNat (p.value * 64 + (b.toNat - 0x80))) = s ++ [b] := by
  obtain ⟨n, hn, hchar⟩ := h.exists_encodeChar hl hh
  rw [ho, leading] at hn
  rw [← hn, hchar, ho, continuation]

end Reached

/-! ## Where no character stands -/

/-- The reader tells where a character stands. -/
theorem not_encodeChar_prefix (h : scan none bs = none :: xs) : ¬ encodeChar c <+: bs := by
  rintro ⟨rest, rfl⟩
  rw [scan_encodeChar] at h
  exact absurd (List.cons.inj h).1 (by simp)

/-- A byte that does not go on with the pending character is read afresh. -/
theorem scan_pending_bad (h : ¬ (p.low ≤ b.toNat ∧ b.toNat ≤ p.high)) (bs : Bytes) :
    scan (some p) (b :: bs) = none :: scan none (b :: bs) := by
  simp only [scan, step, if_neg h, List.cons_append]

/-- Where the reader finds fault with the bytes, and with them and the next byte, no character
begins with these. -/
theorem not_begins_append (h : ∀ t, ∃ xs, scan none (s ++ b :: t) = none :: xs) :
    ¬ Begins (s ++ [b]) := by
  rintro ⟨c, t, ht⟩
  rw [List.append_assoc, List.singleton_append] at ht
  obtain ⟨xs, hxs⟩ := h t
  exact not_encodeChar_prefix hxs ⟨[], (List.append_nil _).trans ht.symm⟩

/-- A byte that begins no character is a fault by itself. -/
theorem scan_of_lead?_eq_none (hb : ¬ b.toNat < 0x80) (h : lead? b.toNat = none) (bs : Bytes) :
    scan none (b :: bs) = none :: scan none bs := by
  simp only [scan, step, start, if_neg hb, h, List.cons_append, List.nil_append]

theorem badSequence_of_lead?_eq_none (hb : ¬ b.toNat < 0x80) (h : lead? b.toNat = none)
    (bs : Bytes) : BadSequence [b] bs where
  nonempty := List.cons_ne_nil b []
  noChar _ := not_encodeChar_prefix (scan_of_lead?_eq_none hb h bs)
  begins := .inl rfl
  longest a _ _ := not_begins_append fun t => ⟨_, scan_of_lead?_eq_none hb h (a :: t)⟩

theorem Reached.badSequence_nil (h : Reached s p) : BadSequence s [] :=
  ⟨h.nonempty, fun _ => not_encodeChar_prefix (h.scan_append []), .inr h.begins,
    fun _ _ hnil => by contradiction⟩

theorem Reached.badSequence (h : Reached s p) (hb : ¬ (p.low ≤ b.toNat ∧ b.toNat ≤ p.high))
    (bs : Bytes) : BadSequence s (b :: bs) := by
  have hscan : ∀ t, scan none (s ++ b :: t) = none :: scan none (b :: t) := fun t => by
    rw [h.scan_append, scan_pending_bad hb]
  refine ⟨h.nonempty, fun _ => not_encodeChar_prefix (hscan bs), .inr h.begins, fun a t hat => ?_⟩
  obtain ⟨rfl, rfl⟩ := List.cons.inj hat
  exact not_begins_append fun t => ⟨_, hscan t⟩

/-- What stands in front of bytes: a character, or a bad sequence that the reader skips. -/
inductive Front : Bytes → Prop
  | nil : Front []
  | char (c : Char) (rest : Bytes) : Front (encodeChar c ++ rest)
  | bad {s rest : Bytes} (hs : BadSequence s rest)
      (hscan : scan none (s ++ rest) = none :: scan none rest) : Front (s ++ rest)

theorem Reached.front : ∀ {s : Bytes} {p : Pending} (bs : Bytes), Reached s p → Front (s ++ bs)
  | s, p, [], h => .bad h.badSequence_nil (h.scan_append [])
  | s, ⟨low, high, owed, value⟩, b :: bs, h => by
      by_cases hb : low ≤ b.toNat ∧ b.toNat ≤ high
      · rw [List.append_cons]
        cases owed with
        | zero => exact h.last rfl hb.1 hb.2 ▸ .char _ bs
        | succ owed => exact (h.more hb.1 hb.2).front bs
      · exact .bad (h.badSequence hb bs) (by rw [h.scan_append, scan_pending_bad hb])

theorem front : ∀ bs : Bytes, Front bs
  | [] => .nil
  | b :: bs => by
      by_cases hb : b.toNat < 0x80
      · have hchar : encodeChar (Char.ofNat b.toNat) = [b] := by
          rw [encodeChar, toNat_charOfNat (by omega), if_pos hb, UInt8.ofNat_toNat]
        exact List.singleton_append (x := b) ▸ hchar ▸ .char _ bs
      rcases hp : lead? b.toNat with _ | p
      · exact .bad (badSequence_of_lead?_eq_none hb hp bs) (scan_of_lead?_eq_none hb hp bs)
      · exact (Reached.lead hp).front bs

/-! ## One reading -/

/-- No bad sequence is the beginning of another one there. -/
theorem BadSequence.eq_nil_of_append {t : Bytes} (h : BadSequence s (t ++ rest))
    (h' : BadSequence (s ++ t) rest) : t = [] := by
  rcases t with _ | ⟨b, t⟩
  · rfl
  rcases h'.begins with hone | ⟨c, hc⟩
  · have hs := List.length_pos_iff.2 h.nonempty
    simp only [List.length_append, List.length_cons] at hone
    omega
  · have hnext : s ++ [b] <+: s ++ b :: t := ⟨t, List.append_assoc s [b] t⟩
    exact absurd ⟨c, hnext.trans hc⟩ (h.longest b (t ++ rest) rfl)

theorem BadSequence.unique {s' rest' : Bytes} (h : BadSequence s rest) (h' : BadSequence s' rest')
    (heq : s ++ rest = s' ++ rest') : s = s' ∧ rest = rest' := by
  rcases List.append_eq_append_iff.1 heq with ⟨t, rfl, rfl⟩ | ⟨t, rfl, rfl⟩
  · obtain rfl := h.eq_nil_of_append h'
    exact ⟨(List.append_nil s).symm, rfl⟩
  · obtain rfl := h'.eq_nil_of_append h
    exact ⟨List.append_nil s', rfl⟩

/-- **A bad sequence is skipped**, and what follows it is read afresh. -/
theorem BadSequence.scan_append (h : BadSequence s rest) :
    scan none (s ++ rest) = none :: scan none rest := by
  generalize hbs : s ++ rest = bs
  cases front bs with
  | nil => exact absurd (List.append_eq_nil_iff.1 hbs).1 h.nonempty
  | char c rest' => exact absurd ⟨rest', hbs.symm⟩ (h.noChar c)
  | bad h' hscan =>
    obtain ⟨rfl, rfl⟩ := h.unique h' hbs
    exact hscan

theorem encodeChar_ne_nil (c : Char) : encodeChar c ≠ [] := by
  intro h
  have hscan := scan_encodeChar c []
  rw [h] at hscan
  contradiction

theorem scans_scan (bs : Bytes) : Scans bs (scan none bs) := by
  induction hn : bs.length using Nat.strongRecOn generalizing bs with
  | ind n ih =>
    subst hn
    cases front bs with
    | nil => exact .nil
    | char c rest =>
      have hlength := List.length_pos_iff.2 (encodeChar_ne_nil c)
      rw [scan_encodeChar]
      exact (ih rest.length (by rw [List.length_append]; omega) rest rfl).char c
    | @bad s rest hs hscan =>
      have hlength := List.length_pos_iff.2 hs.nonempty
      rw [hscan]
      exact (ih rest.length (by rw [List.length_append]; omega) rest rfl).bad hs

theorem Scans.scan_eq (h : Scans bs xs) : scan none bs = xs := by
  induction h with
  | nil => rfl
  | char c _ ih => rw [scan_encodeChar, ih]
  | bad hs _ ih => rw [hs.scan_append, ih]

/-- **The reader gives the characters and the bad sequences of the bytes**, in order. -/
theorem scan_eq_iff : scan none bs = xs ↔ Scans bs xs :=
  ⟨fun h => h ▸ scans_scan bs, Scans.scan_eq⟩

/-- **Bytes are accepted as a text exactly when they are its bytes.** -/
theorem decode?_eq_some_iff_encode {t : Text} : decode? bs = some t ↔ bs = encode t := by
  refine ⟨fun h => ?_, fun h => h ▸ decode?_encode t⟩
  have hscans := scan_eq_iff.1 (decode?_eq_some_iff.1 h)
  induction t generalizing bs with
  | nil =>
    cases hscans
    rfl
  | cons c t ih =>
    cases hscans with
    | char _ hrest =>
      rw [encode, List.flatMap_cons, ← encode, ← ih (decode?_eq_some_iff.2 hrest.scan_eq) hrest]

/-! ## ASCII characters

A byte below `0x80` is a character wherever it stands: nothing pending can take it. -/

theorem low_step (q : Option Pending) (a : Nat) : ∀ p ∈ (step q a).2, 0x80 ≤ p.low := by
  have hstart : ∀ p ∈ (start a).2, 0x80 ≤ p.low := by
    intro p hp
    unfold start at hp
    split at hp
    · contradiction
    split at hp
    · obtain rfl := Option.some.inj hp
      rename_i hlead
      exact (range_of_lead? hlead).1
    · contradiction
  intro p hp
  rcases q with _ | ⟨low, high, owed, value⟩
  · exact hstart p hp
  by_cases ha : low ≤ a ∧ a ≤ high
  · cases owed with
    | zero => simp [step, ha] at hp
    | succ owed =>
      obtain rfl : _ = p := by simpa [step, ha] using hp
      exact Nat.le_refl 0x80
  · exact hstart p (by simpa only [step, if_neg ha] using hp)

/-- **An ASCII character is read as itself**, and the bytes on both sides of it by themselves. -/
theorem scan_append_ascii (hb : b.toNat < 0x80) (more : Bytes) : ∀ (q : Option Pending) (bs : Bytes),
    (∀ p ∈ q, 0x80 ≤ p.low) →
    scan q (bs ++ b :: more) = scan q bs ++ some (Char.ofNat b.toNat) :: scan none more
  | none, [], _ => by simp [scan, step, start, hb]
  | some p, [], hq => by
      have hp : 0x80 ≤ p.low := hq p rfl
      rw [List.nil_append, scan_pending_bad (by omega)]
      simp [scan, step, start, hb]
  | q, a :: bs, _ => by
      have hcons : ∀ cs, scan q (a :: cs) = (step q a.toNat).1 ++ scan (step q a.toNat).2 cs :=
        fun cs => by cases q <;> rfl
      rw [List.cons_append, hcons, hcons, scan_append_ascii hb more _ bs (low_step q a.toNat),
        List.append_assoc]

/-- **Bytes are a text when those on both sides of an ASCII character are.** -/
theorem decode?_append_ascii (hb : b.toNat < 0x80) (bs more : Bytes) :
    decode? (bs ++ b :: more) = (decode? bs).bind fun t =>
      (decode? more).map fun u => t ++ Char.ofNat b.toNat :: u := by
  have hscan := scan_append_ascii hb more none bs (fun _ h => by contradiction)
  rw [decode?, hscan, List.mapM_append, List.mapM_cons]
  simp only [id_eq, Option.bind_eq_bind, Option.bind_some, Option.pure_def, decode?]
  cases (scan none bs).mapM id <;> cases (scan none more).mapM id <;> rfl

theorem decode?_cons_ascii (hb : b.toNat < 0x80) (more : Bytes) :
    decode? (b :: more) = (decode? more).map fun u => Char.ofNat b.toNat :: u :=
  decode?_append_ascii hb [] more

end WireSchema.Utf8
