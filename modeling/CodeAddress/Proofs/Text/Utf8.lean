/-
Reading back what `Utf8.encode` writes: scanning the bytes of a text gives its characters one by one
and no bad part (`scan_encode_append`), so the strict and the lossy reader both give the text.

The proof follows the bytes of one character: the lead byte announces the others and the range of the
second (`lead?_two`, `lead?_three`, `lead?_four`), and each further byte adds its six bits
(`scan_follow`, `scan_last`).
-/
import CodeAddress.Text.Utf8

namespace CodeAddress.Utf8

/-! ## Lead bytes -/

theorem lead?_two {n : Nat} (h2 : 2 ≤ n) (h : n < 32) : lead? (n + 0xC0) = some { bits := n, owed := 1 } := by
  unfold lead?
  rw [if_neg (by omega), if_pos (by omega)]
  simp

theorem lead?_three : ∀ n < 16, lead? (n + 0xE0) =
    some { bits := n, owed := 2, low := if n = 0 then 0xA0 else 0x80, high := if n = 13 then 0x9F else 0xBF } := by
  decide

theorem lead?_four : ∀ n < 5, lead? (n + 0xF0) =
    some { bits := n, owed := 3, low := if n = 0 then 0x90 else 0x80, high := if n = 4 then 0x8F else 0xBF } := by
  decide

/-! ## Steps of the scan -/

theorem scan_ascii {n : Nat} (h : n < 0x80) (bs : List UInt8) :
    scan none (UInt8.ofNat n :: bs) = .char (Char.ofNat n) :: scan none bs := by
  have hn : (UInt8.ofNat n).toNat = n := by simp; omega
  simp [scan, start, hn, h]

theorem scan_lead {b : Nat} {p : Partial} (h : 0x80 ≤ b) (hb : b < 256) (hp : lead? b = some p) (bs : List UInt8) :
    scan none (UInt8.ofNat b :: bs) = scan (some p) bs := by
  have hn : (UInt8.ofNat b).toNat = b := by simp; omega
  simp [scan, start, hn, hp, show ¬ b < 0x80 by omega]

/-- A byte that continues a character which owes more than one. -/
theorem scan_follow {p : Partial} {n : Nat} (hn : n < 64) (hlow : p.low ≤ n + 0x80) (hhigh : n + 0x80 ≤ p.high)
    (ho : p.owed ≠ 1) (bs : List UInt8) :
    scan (some p) (UInt8.ofNat (n + 0x80) :: bs) =
      scan (some { bits := p.bits * 64 + n, owed := p.owed - 1, taken := p.taken + 1 }) bs := by
  have hb : (UInt8.ofNat (n + 0x80)).toNat = n + 0x80 := by simp; omega
  have hm : (n + 0x80) % 64 = n := by omega
  simp only [scan, follow, hb, hm]
  rw [if_pos ⟨hlow, hhigh⟩, if_neg ho]
  rfl

/-- The byte that completes a character. -/
theorem scan_last {p : Partial} {n : Nat} (hn : n < 64) (hlow : p.low ≤ n + 0x80) (hhigh : n + 0x80 ≤ p.high)
    (ho : p.owed = 1) (bs : List UInt8) :
    scan (some p) (UInt8.ofNat (n + 0x80) :: bs) = .char (Char.ofNat (p.bits * 64 + n)) :: scan none bs := by
  have hb : (UInt8.ofNat (n + 0x80)).toNat = n + 0x80 := by simp; omega
  have hm : (n + 0x80) % 64 = n := by omega
  simp only [scan, follow, hb, hm]
  rw [if_pos ⟨hlow, hhigh⟩, if_pos ho]
  rfl

/-! ## One character -/

/-- The numbers of characters: below the surrogates, or above them and at most U+10FFFF. -/
theorem toNat_valid (c : Char) : c.toNat < 0xD800 ∨ 0xDFFF < c.toNat ∧ c.toNat < 0x110000 := by
  have h := c.valid
  simp only [UInt32.isValidChar, Nat.isValidChar, Char.toNat_val] at h
  omega

/-- The bytes of a character are scanned as that character, whatever follows them. -/
theorem scan_utf8EncodeChar (c : Char) (bs : List UInt8) :
    scan none (String.utf8EncodeChar c ++ bs) = .char c :: scan none bs := by
  have hv := toNat_valid c
  have hc : Char.ofNat c.toNat = c := Char.ofNat_toNat c
  unfold String.utf8EncodeChar
  simp only [Char.toNat_val]
  generalize c.toNat = v at hv hc
  split
  · -- one byte
    rw [List.cons_append, List.nil_append, scan_ascii (by omega), hc]
  split
  · -- two bytes
    have hl := lead?_two (n := v / 64 % 0x20) (by omega) (by omega)
    simp only [List.cons_append, List.nil_append]
    rw [scan_lead (by omega) (by omega) hl, scan_last (by omega) (by simp) (by simp; omega) rfl]
    have hbits : v / 64 % 0x20 * 64 + v % 0x40 = v := by omega
    simp only [hbits, hc]
  split
  · -- three bytes; the range of the second one depends on the lead
    have hl := lead?_three (v / 4096 % 0x10) (by omega)
    simp only [List.cons_append, List.nil_append]
    rw [scan_lead (by omega) (by omega) hl,
      scan_follow (by omega) (by dsimp only; split <;> omega) (by dsimp only; split <;> omega) (by simp),
      scan_last (by omega) (by simp) (by simp; omega) rfl]
    have hbits : (v / 4096 % 0x10 * 64 + v / 64 % 0x40) * 64 + v % 0x40 = v := by omega
    simp only [hbits, hc]
  · -- four bytes
    have hl := lead?_four (v / 262144 % 0x08) (by omega)
    simp only [List.cons_append, List.nil_append]
    rw [scan_lead (by omega) (by omega) hl,
      scan_follow (by omega) (by dsimp only; split <;> omega) (by dsimp only; split <;> omega) (by simp),
      scan_follow (by omega) (by simp) (by simp; omega) (by simp),
      scan_last (by omega) (by simp) (by simp; omega) rfl]
    have hbits : ((v / 262144 % 0x08 * 64 + v / 4096 % 0x40) * 64 + v / 64 % 0x40) * 64 + v % 0x40 = v := by
      omega
    simp only [hbits, hc]

/-! ## Whole texts -/

theorem encode_cons (c : Char) (s : Text) : encode (c :: s) = String.utf8EncodeChar c ++ encode s := rfl

theorem encode_append (s t : Text) : encode (s ++ t) = encode s ++ encode t := List.flatMap_append

/-- The bytes of a text are scanned as its characters, whatever follows them. -/
theorem scan_encode_append (s : Text) (bs : List UInt8) :
    scan none (encode s ++ bs) = s.map .char ++ scan none bs := by
  induction s with
  | nil => rfl
  | cons c s ih =>
    rw [encode_cons, List.append_assoc, scan_utf8EncodeChar, ih]
    rfl

theorem scan_encode (s : Text) : scan none (encode s) = s.map .char := by
  simpa [scan] using scan_encode_append s []

theorem collect_map_char (s : Text) (position : Nat) : collect position (s.map .char) = .ok s := by
  induction s generalizing position with
  | nil => rfl
  | cons c s ih => simp [collect, ih, Except.map]

/-- The strict reader gives back every text. -/
theorem decode_encode (s : Text) : decode (encode s) = .ok s := by
  rw [decode, scan_encode, collect_map_char]

/-- So does the lossy one. -/
theorem decodeLossy_encode (s : Text) : decodeLossy (encode s) = s := by
  simp [decodeLossy, scan_encode, Function.comp_def]

theorem encode_singleton_ne_nil (c : Char) : encode [c] ≠ [] := by
  intro h
  have := decode_encode [c]
  rw [h] at this
  cases this

/-- The byte of an ASCII character. -/
theorem encode_ascii {c : Char} (h : Text.isAscii c = true) : encode [c] = [UInt8.ofNat c.toNat] := by
  have hc : c.toNat < 0x80 := by simpa [Text.isAscii] using h
  simp [encode, String.utf8EncodeChar, show c.toNat ≤ 127 by omega]

/-! ## Text that is not lost -/

/-- A character that has begun comes to an end. -/
theorem scan_some_ne_nil (p : Partial) (bs : List UInt8) : scan (some p) bs ≠ [] := by
  induction bs generalizing p with
  | nil => exact List.cons_ne_nil _ _
  | cons b bs ih =>
    rw [scan]
    unfold follow
    split
    · dsimp only
      split
      · exact List.cons_ne_nil _ _
      · exact ih _
    · exact List.cons_ne_nil _ _

theorem scan_cons_ne_nil (b : UInt8) (bs : List UInt8) : scan none (b :: bs) ≠ [] := by
  rw [scan]
  unfold start
  split
  · exact List.cons_ne_nil _ _
  · split
    · exact List.cons_ne_nil _ _
    · exact scan_some_ne_nil _ _

/-- Bytes are read as some text, however bad they are. -/
theorem decodeLossy_eq_nil_iff {bs : List UInt8} : decodeLossy bs = [] ↔ bs = [] := by
  cases bs with
  | nil => exact ⟨fun _ => rfl, fun _ => rfl⟩
  | cons b bs => simp [decodeLossy, scan_cons_ne_nil]

end CodeAddress.Utf8
