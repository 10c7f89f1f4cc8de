/-
Numerals that are written and read: the digits of a number give the number back (`toNat_ofNat`), and the number
of a row of digits is written with no more digits than the row (`length_ofNat_toNat_le`), so a number that was
short enough to be read is short enough to be written. It is written as the very row unless that begins with a zero
(`ofNat_toNat_eq_iff`). An integer is read from what it is written as (`readInt?_ofInt`).
-/
import CodeAddress.Proofs.Text.Basic
import CodeAddress.Text.Numeral
import Mathlib.Data.List.Induction

namespace CodeAddress.Numeral

theorem isDigit_digit : ∀ n < 10, (digit n).isDigit = true := by decide

theorem toNat_digit : ∀ n < 10, (digit n).toNat - 48 = n := by decide

theorem bounds_of_isDigit {c : Char} (h : c.isDigit = true) : 48 ≤ c.toNat ∧ c.toNat ≤ 57 := by
  simp only [Char.isDigit, Bool.and_eq_true, decide_eq_true_eq, ge_iff_le, UInt32.le_iff_toNat_le, Char.toNat_val] at h
  exact h

theorem sub_lt_of_isDigit {c : Char} (h : c.isDigit = true) : c.toNat - 48 < 10 := by
  have := bounds_of_isDigit h
  omega

theorem digit_sub {c : Char} (h : c.isDigit = true) : digit (c.toNat - 48) = c := by
  have hsum : 48 + (c.toNat - 48) = c.toNat := by
    have := bounds_of_isDigit h
    omega
  rw [digit, hsum, Char.ofNat_toNat]

theorem toNat_concat (s : Text) (c : Char) : toNat (s ++ [c]) = 10 * toNat s + (c.toNat - 48) := by
  rw [toNat, List.foldl_append]
  rfl

/-- A number is read back from its digits. -/
theorem toNat_ofNat (n : Nat) : toNat (ofNat n) = n := by
  fun_induction ofNat n with
  | case1 n h =>
    simp [toNat, toNat_digit n h]
  | case2 n h ih =>
    rw [toNat_concat, ih, toNat_digit _ (by omega)]
    omega

theorem isDigit_of_mem_ofNat {n : Nat} {c : Char} (h : c ∈ ofNat n) : c.isDigit = true := by
  fun_induction ofNat n with
  | case1 n hn =>
    rw [List.mem_singleton.1 h]
    exact isDigit_digit n hn
  | case2 n hn ih =>
    rcases List.mem_append.1 h with h | h
    · exact ih h
    · rw [List.mem_singleton.1 h]
      exact isDigit_digit _ (by omega)

theorem ofNat_ne_nil (n : Nat) : ofNat n ≠ [] := by
  rw [ofNat]
  split <;> simp

/-- Written afresh, the number of a row of digits has no more digits than the row. -/
theorem length_ofNat_toNat_le {s : Text} (hs : s ≠ []) (hd : ∀ c ∈ s, c.isDigit = true) :
    (ofNat (toNat s)).length ≤ s.length := by
  induction s using List.reverseRecOn with
  | nil => exact absurd rfl hs
  | append_singleton s c ih =>
    have hc := sub_lt_of_isDigit (hd c (by simp))
    rw [toNat_concat, ofNat]
    split
    · simp
    · next hn =>
      -- the digits before the last are not all zero, so there are some
      have hne : s ≠ [] := by
        rintro rfl
        exact hn (by simpa [toNat] using hc)
      have hdiv : (10 * toNat s + (c.toNat - 48)) / 10 = toNat s := by omega
      have := ih hne fun d hd' => hd d (List.mem_append_left _ hd')
      simpa [hdiv] using this

theorem ofInt_natCast (n : Nat) : ofInt n = ofNat n := rfl

theorem ofInt_ne_nil (n : Int) : ofInt n ≠ [] := by
  cases n with
  | ofNat n => exact ofNat_ne_nil n
  | negSucc n => exact List.cons_ne_nil _ _

/-! ## Leading zeros -/

theorem digit_ne_zero : ∀ n < 10, n ≠ 0 → digit n ≠ '0' := by decide

/-- The digits of a number that is not zero do not begin with a zero. -/
theorem not_zero_prefix_ofNat {n : Nat} (hn : n ≠ 0) : ¬ ['0'] <+: ofNat n := by
  fun_induction ofNat n with
  | case1 n h =>
    intro hzero
    exact digit_ne_zero n h hn (List.cons_prefix_cons.1 hzero).1.symm
  | case2 n h ih =>
    intro hzero
    apply ih (by omega)
    exact List.prefix_of_prefix_length_le hzero (List.prefix_append ..) (List.length_pos_iff.2 (ofNat_ne_nil _))

/-- A row of digits that does not begin with a zero is what its number is written as. -/
theorem ofNat_toNat {s : Text} (hs : s ≠ []) (hd : ∀ c ∈ s, c.isDigit = true) (h0 : ¬ ['0'] <+: s) :
    ofNat (toNat s) = s := by
  induction s using List.reverseRecOn with
  | nil => exact absurd rfl hs
  | append_singleton s c ih =>
    have hc : c.isDigit = true := hd c (by simp)
    have hlt := sub_lt_of_isDigit hc
    by_cases hne : s = []
    · subst hne
      have hlast : toNat [c] = c.toNat - 48 := by simp [toNat]
      rw [List.nil_append, hlast, ofNat, if_pos hlt, digit_sub hc]
    · have hinit : ofNat (toNat s) = s := by
        apply ih hne
        · exact fun d hmem => hd d (List.mem_append_left _ hmem)
        · exact fun hzero => h0 (hzero.trans (List.prefix_append ..))
      -- the digits before the last make up a number of their own, and it is not zero
      have hpos : toNat s ≠ 0 := by
        intro hzero
        rw [hzero, ofNat, if_pos (by omega)] at hinit
        apply h0
        rw [← hinit]
        exact List.prefix_append ['0'] [c]
      have hdiv : (10 * toNat s + (c.toNat - 48)) / 10 = toNat s := by omega
      have hmod : (10 * toNat s + (c.toNat - 48)) % 10 = c.toNat - 48 := by omega
      rw [toNat_concat, ofNat, if_neg (by omega), hdiv, hmod, hinit, digit_sub hc]

theorem ofNat_toNat_eq_iff {s : Text} (hs : s ≠ []) (hd : ∀ c ∈ s, c.isDigit = true) (hn : toNat s ≠ 0) :
    ofNat (toNat s) = s ↔ ¬ ['0'] <+: s := by
  constructor
  · intro h
    rw [← h]
    exact not_zero_prefix_ofNat hn
  · exact ofNat_toNat hs hd

/-! ## Integers -/

theorem isSpace_of_isDigit {c : Char} (h : c.isDigit = true) : Text.isSpace c = false := by
  have hall : ∀ n < 58, 48 ≤ n → Text.inRanges Text.spaceRanges n = false := by decide
  have := bounds_of_isDigit h
  exact hall _ (by omega) (by omega)

theorem decimalDigit?_of_isDigit {c : Char} (h : c.isDigit = true) : Text.decimalDigit? c = some (c.toNat - 48) := by
  have hb := bounds_of_isDigit h
  have hmod : (c.toNat - 0x30) % 10 = c.toNat - 48 := by omega
  have hfind : Text.decimalDigitRanges.find? (fun r => r.1 ≤ c.toNat && c.toNat ≤ r.2) = some (0x30, 0x39) := by
    rw [Text.decimalDigitRanges, List.find?_cons_of_pos]
    simpa using hb
  rw [Text.decimalDigit?, hfind, Option.map_some, hmod]

/-- Digits in ASCII stay. -/
theorem plain_of_isDigit {s : Text} (h : ∀ c ∈ s, c.isDigit = true) : plain s = s := by
  refine (List.map_congr_left fun c hc => ?_).trans (List.map_id s)
  rw [decimalDigit?_of_isDigit (h c hc)]
  exact digit_sub (h c hc)

theorem ungroup?_of_notMem {s : Text} (h : '_' ∉ s) (after : Bool) : ungroup? after s = some s := by
  induction s generalizing after with
  | nil => rfl
  | cons c s ih =>
    rw [List.mem_cons, not_or] at h
    rw [ungroup?.eq_def]
    split
    · next heq => cases heq
    · next heq =>
      cases heq
      exact absurd rfl h.1
    · next heq =>
      cases heq
      exact absurd rfl h.1
    · next heq =>
      cases heq
      rw [ih h.2]
      rfl

/-- A text without digits had no low line taken out of it. -/
theorem eq_of_ungroup? {s t : Text} {after : Bool} (h : ungroup? after s = some t) (hd : ∀ c ∈ t, c.isDigit = false) :
    t = s := by
  induction s generalizing after t with
  | nil =>
    cases h
    rfl
  | cons c s ih =>
    have hkept : ∀ {after}, (ungroup? after s).map (c :: ·) = some t → t = c :: s := by
      intro after hmap
      obtain ⟨t, ht, rfl⟩ := Option.map_eq_some_iff.1 hmap
      rw [ih ht fun d hmem => hd d (List.mem_cons_of_mem c hmem)]
    rw [ungroup?.eq_def] at h
    split at h
    · next heq => cases heq
    · next heq =>
      cases heq
      split at h
      · next hafter =>
        have hcons := ih h hd
        have hnot := hd _ (hcons ▸ List.mem_cons_self ..)
        rw [hnot, Bool.and_false] at hafter
        cases hafter
      · cases h
    · cases h
    · next heq =>
      cases heq
      exact hkept h

/-- A text that has no digits in ASCII had no others. -/
theorem plain_of_plain {s : Text} (h : ∀ c ∈ plain s, c.isDigit = false) : plain s = s := by
  refine (List.map_congr_left fun c hc => ?_).trans (List.map_id s)
  split
  · next d hd =>
    obtain ⟨r, -, hr⟩ := Option.map_eq_some_iff.1 hd
    have hdigit : (digit d).isDigit = true := isDigit_digit d (by omega)
    have hmem : digit d ∈ plain s := List.mem_map.2 ⟨c, hc, by rw [hd]⟩
    rw [h _ hmem] at hdigit
    cases hdigit
  · rfl

theorem unsigned_of_isDigit {s : Text} (h : ∀ c ∈ s, c.isDigit = true) : unsigned s = (false, s) := by
  rw [unsigned.eq_def]
  split
  · exact absurd (h '-' (List.mem_cons_self ..)) (by decide)
  · exact absurd (h '+' (List.mem_cons_self ..)) (by decide)
  · rfl

/-- A sign and digits are read as they stand. -/
theorem readInt?_append {sign digits : Text} (hsign : sign = [] ∨ sign = ['-']) (hne : digits ≠ [])
    (hd : ∀ c ∈ digits, c.isDigit = true) :
    readInt? (sign ++ digits) =
      if digits.length ≤ digitLimit then some (if sign = [] then (toNat digits : Int) else -(toNat digits : Int))
      else none := by
  have hspace : Text.unspaced (sign ++ digits) = sign ++ digits := by
    refine Text.trim_of_forall fun c hc => ?_
    rcases List.mem_append.1 hc with hc | hc
    · rcases hsign with rfl | rfl
      · cases hc
      · rw [List.mem_singleton.1 hc]
        decide
    · exact isSpace_of_isDigit (hd c hc)
  have hplain : plain (sign ++ digits) = sign ++ digits := by
    have hs : plain sign = sign := by rcases hsign with rfl | rfl <;> decide
    rw [plain, List.map_append]
    exact congrArg₂ _ hs (plain_of_isDigit hd)
  have hlow : '_' ∉ sign ++ digits := by
    rw [List.mem_append, not_or]
    constructor
    · rcases hsign with rfl | rfl <;> decide
    · exact fun hc => absurd (hd _ hc) (by decide)
  have hsplit : unsigned (sign ++ digits) = (decide (sign ≠ []), digits) := by
    rcases hsign with rfl | rfl
    · exact unsigned_of_isDigit hd
    · rfl
  have hall : digits.all Char.isDigit = true := List.all_eq_true.2 hd
  simp only [readInt?, hspace, hplain, ungroup?_of_notMem hlow, hsplit, Option.bind_eq_bind, Option.bind_some]
  by_cases hlen : digits.length ≤ digitLimit
  · simp [hne, hall, hlen]
  · simp [hlen, Nat.lt_of_not_le hlen]

/-- An integer is read from what it is written as, unless that has too many digits. -/
theorem readInt?_ofInt (n : Int) : readInt? (ofInt n) = if isWritable n then some n else none := by
  have hlimit : isWritable n = true ↔ (ofNat n.natAbs).length ≤ digitLimit := decide_eq_true_iff
  rw [if_congr hlimit rfl rfl]
  cases n with
  | ofNat n =>
    have h := readInt?_append (.inl rfl) (ofNat_ne_nil n) fun c => isDigit_of_mem_ofNat
    rw [toNat_ofNat, if_pos rfl] at h
    exact h
  | negSucc n =>
    have h := readInt?_append (.inr rfl) (ofNat_ne_nil (n + 1)) fun c => isDigit_of_mem_ofNat
    rw [toNat_ofNat, if_neg (List.cons_ne_nil '-' [])] at h
    exact h

end CodeAddress.Numeral
