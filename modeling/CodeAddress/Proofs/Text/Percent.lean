/-
Reading back what `Percent.quote` writes. A text spells bytes if reading it adds these bytes to the ASCII run
in progress, whatever stands around it (`Spells`); a quoted text spells the UTF-8 bytes of the text
(`spells_quote`), so unquoting gives the text (`Spells.unquote`).
-/
import CodeAddress.Proofs.Text.Basic
import CodeAddress.Proofs.Text.Utf8
import CodeAddress.Text.Percent

namespace CodeAddress.Percent

/-! ## Digits -/

theorem hexValue?_hexDigit : ∀ n < 16, hexValue? (hexDigit n) = some n := by decide

theorem unreserved_hexDigit : ∀ n < 16, unreserved (hexDigit n) = true := by decide

theorem byte?_hexDigits (b : UInt8) : byte? (hexDigit (b.toNat / 16)) (hexDigit (b.toNat % 16)) = some b := by
  have hb := b.toNat_lt
  have hsum : 16 * (b.toNat / 16) + b.toNat % 16 = b.toNat := by omega
  rw [byte?, hexValue?_hexDigit _ (by omega), hexValue?_hexDigit _ (by omega)]
  show some (UInt8.ofNat (16 * (b.toNat / 16) + b.toNat % 16)) = some b
  rw [hsum, UInt8.ofNat_toNat]

/-! ## What a quoted text holds -/

/-- Every safe character stands for itself when a text is read. -/
def Inert (safe : Char → Bool) : Prop := ∀ c, safe c = true → Text.isAscii c = true ∧ c ≠ '%'

theorem inert_unreserved : Inert unreserved := by
  intro c h
  simp only [unreserved, Bool.or_eq_true, beq_iff_eq] at h
  rcases h with (((h | h) | h) | h) | h
  -- the three ranges of letters and digits
  · change (decide (65 ≤ c.val ∧ c.val ≤ 90) || decide (97 ≤ c.val) && decide (c.val ≤ 122) ||
      decide (48 ≤ c.val) && decide (c.val ≤ 57)) = true at h
    simp only [Bool.or_eq_true, Bool.and_eq_true, decide_eq_true_eq, UInt32.le_iff_toNat_le, Char.toNat_val] at h
    constructor
    · simp only [Text.isAscii, decide_eq_true_eq]
      change (65 ≤ c.toNat ∧ c.toNat ≤ 90 ∨ 97 ≤ c.toNat ∧ c.toNat ≤ 122) ∨ 48 ≤ c.toNat ∧ c.toNat ≤ 57 at h
      omega
    · rintro rfl
      revert h
      decide
  all_goals
    subst h
    decide

@[simp] theorem quote_nil (safe : Char → Bool) : quote safe [] = [] := rfl

theorem quote_cons (safe : Char → Bool) (c : Char) (s : Text) :
    quote safe (c :: s) = quoteChar safe c ++ quote safe s := rfl

theorem quote_append (safe : Char → Bool) (s t : Text) : quote safe (s ++ t) = quote safe s ++ quote safe t :=
  List.flatMap_append

theorem mem_escape {c : Char} {b : UInt8} (h : c ∈ escape b) : c = '%' ∨ ∃ n < 16, c = hexDigit n := by
  have hb := b.toNat_lt
  simp only [escape, List.mem_cons, List.not_mem_nil, or_false] at h
  rcases h with h | h | h
  · exact .inl h
  · exact .inr ⟨_, by omega, h⟩
  · exact .inr ⟨_, by omega, h⟩

/-- A quoted text holds safe characters, percent signs and digits. -/
theorem mem_quote {safe : Char → Bool} {s : Text} {c : Char} (h : c ∈ quote safe s) :
    safe c = true ∨ c = '%' ∨ ∃ n < 16, c = hexDigit n := by
  obtain ⟨d, -, hd⟩ := List.mem_flatMap.1 h
  unfold quoteChar at hd
  split at hd
  · next hs => exact .inl (by rwa [List.mem_singleton.1 hd])
  · obtain ⟨b, -, hb⟩ := List.mem_flatMap.1 hd
    exact .inr (mem_escape hb)

/-- A character that is not safe is written as at least one escape. -/
theorem exists_quoteChar_eq_cons {safe : Char → Bool} {c : Char} (h : safe c = false) :
    ∃ t, quoteChar safe c = '%' :: t := by
  obtain ⟨b, bs, hb⟩ := List.exists_cons_of_ne_nil (Utf8.encode_singleton_ne_nil c)
  rw [quoteChar, if_neg (by simp [h]), hb, List.flatMap_cons]
  exact ⟨_, rfl⟩

/-- A character that escapes are not made of is in a quoted text exactly if it is in the text and safe. -/
theorem mem_quote_iff {safe : Char → Bool} {s : Text} {c : Char} (hp : c ≠ '%') (hc : unreserved c = false) :
    c ∈ quote safe s ↔ c ∈ s ∧ safe c = true := by
  constructor
  · intro h
    obtain ⟨d, hd, hcd⟩ := List.mem_flatMap.1 h
    unfold quoteChar at hcd
    split at hcd
    · next hs =>
      rw [List.mem_singleton.1 hcd]
      exact ⟨hd, hs⟩
    · obtain ⟨b, -, hb⟩ := List.mem_flatMap.1 hcd
      rcases mem_escape hb with h | ⟨n, hn, rfl⟩
      · exact absurd h hp
      · rw [unreserved_hexDigit n hn] at hc
        cases hc
  · rintro ⟨h, hs⟩
    exact List.mem_flatMap.2 ⟨c, h, by simp [quoteChar, hs]⟩

/-- A text of safe characters stays as it is. -/
theorem quote_of_forall {safe : Char → Bool} {s : Text} (h : ∀ c ∈ s, safe c = true) : quote safe s = s := by
  induction s with
  | nil => rfl
  | cons c s ih =>
    rw [quote_cons, quoteChar, if_pos (h c (List.mem_cons_self ..)), ih fun d hd => h d (List.mem_cons_of_mem _ hd)]
    rfl

/-- A quoted text without a percent sign is the text. -/
theorem eq_of_percent_notMem_quote {safe : Char → Bool} {s : Text} (h : '%' ∉ quote safe s) : quote safe s = s := by
  refine quote_of_forall fun c hc => ?_
  cases hs : safe c with
  | true => rfl
  | false =>
    obtain ⟨t, ht⟩ := exists_quoteChar_eq_cons hs
    exact absurd (List.mem_flatMap.2 ⟨c, hc, by simp [ht]⟩) h

/-- Where escapes are safe, a quoted text stays as it is. -/
theorem quote_quote {safe : Char → Bool} (hp : safe '%' = true) (hd : ∀ n < 16, safe (hexDigit n) = true) (s : Text) :
    quote safe (quote safe s) = quote safe s := by
  refine quote_of_forall fun c hc => ?_
  rcases mem_quote hc with h | rfl | ⟨n, hn, rfl⟩
  · exact h
  · exact hp
  · exact hd n hn

/-! ## Escaped texts -/

/-- The digits of escapes, letters in upper case. -/
def digits : Text := "0123456789ABCDEF"

/-- A text of allowed characters and escapes. -/
inductive Escaped (allowed : Char → Prop) : Text → Prop
  | nil : Escaped allowed []
  | char {c : Char} {t : Text} : allowed c → Escaped allowed t → Escaped allowed (c :: t)
  | escape {hi lo : Char} {t : Text} :
      hi ∈ digits → lo ∈ digits → Escaped allowed t → Escaped allowed ('%' :: hi :: lo :: t)

section Escaped

variable {allowed : Char → Prop} {t u : Text}

theorem Escaped.append (ht : Escaped allowed t) (hu : Escaped allowed u) : Escaped allowed (t ++ u) := by
  induction ht with
  | nil => exact hu
  | char hc _ ih => exact .char hc ih
  | escape hhi hlo _ ih => exact .escape hhi hlo ih

theorem Escaped.mono {allowed' : Char → Prop} (ht : Escaped allowed t) (h : ∀ c, allowed c → allowed' c) :
    Escaped allowed' t := by
  induction ht with
  | nil => exact .nil
  | char hc _ ih => exact .char (h _ hc) ih
  | escape hhi hlo _ ih => exact .escape hhi hlo ih

/-- An escaped text holds allowed characters, percent signs and digits. -/
theorem Escaped.mem {c : Char} (ht : Escaped allowed t) (h : c ∈ t) : allowed c ∨ c = '%' ∨ c ∈ digits := by
  induction ht with
  | nil => cases h
  | char hc _ ih =>
    rcases List.mem_cons.1 h with rfl | h
    · exact .inl hc
    · exact ih h
  | escape hhi hlo _ ih =>
    simp only [List.mem_cons] at h
    rcases h with rfl | rfl | rfl | h
    · exact .inr (.inl rfl)
    · exact .inr (.inr hhi)
    · exact .inr (.inr hlo)
    · exact ih h

theorem hexDigit_mem_digits : ∀ n < 16, hexDigit n ∈ digits := by decide

theorem escaped_escape (b : UInt8) : Escaped allowed (escape b) := by
  have hb := b.toNat_lt
  exact .escape (hexDigit_mem_digits _ (by omega)) (hexDigit_mem_digits _ (by omega)) .nil

theorem escaped_flatMap {α : Type} {f : α → Text} {xs : List α} (h : ∀ x ∈ xs, Escaped allowed (f x)) :
    Escaped allowed (xs.flatMap f) := by
  induction xs with
  | nil => exact .nil
  | cons x xs ih =>
    exact (h x (List.mem_cons_self ..)).append (ih fun y hy => h y (List.mem_cons_of_mem _ hy))

/-- Where the safe characters of a text are allowed, the quoted text is one of these and escapes. -/
theorem escaped_quote {safe : Char → Bool} {s : Text} (h : ∀ c ∈ s, safe c = true → allowed c) :
    Escaped allowed (quote safe s) := by
  refine escaped_flatMap fun c hc => ?_
  unfold quoteChar
  split
  · next hs => exact .char (h c hc hs) .nil
  · exact escaped_flatMap fun b _ => escaped_escape b

theorem escaped_joined {sep : Char} {ps : List Text} (hps : ∀ p ∈ ps, Escaped allowed p)
    (hsep : ps.length ≤ 1 ∨ allowed sep) : Escaped allowed (Text.joined sep ps) := by
  induction ps with
  | nil => exact .nil
  | cons p ps ih =>
    have hp := hps p (List.mem_cons_self ..)
    cases ps with
    | nil => exact hp
    | cons q qs =>
      have hallowed : allowed sep := hsep.resolve_left (by simp)
      exact hp.append (.char hallowed (ih (fun r hr => hps r (List.mem_cons_of_mem _ hr)) (.inr hallowed)))

end Escaped

/-! ## Pieces -/

theorem quote_joined {safe : Char → Bool} (hs : safe '/' = true) (ps : List Text) :
    quote safe (Text.joined '/' ps) = Text.joined '/' (ps.map (quote safe)) := by
  induction ps with
  | nil => rfl
  | cons p ps ih =>
    cases ps with
    | nil => rfl
    | cons q qs =>
      rw [Text.joined_cons (by simp), quote_append, quote_cons, ih, quoteChar, if_pos hs]
      rfl

/-- Where slashes are safe, a text is quoted piece by piece. -/
theorem pieces_quote {safe : Char → Bool} (hs : safe '/' = true) (s : Text) :
    Text.pieces '/' (quote safe s) = (Text.pieces '/' s).map (quote safe) := by
  conv_lhs => rw [← Text.joined_pieces '/' s, quote_joined hs]
  refine Text.pieces_joined (by simp [Text.pieces_ne_nil]) ?_
  intro p hp
  obtain ⟨q, hq, rfl⟩ := List.mem_map.1 hp
  rw [mem_quote_iff (by decide) (by decide), not_and]
  exact fun h => absurd h (Text.notMem_of_mem_pieces hq)

/-! ## Reading -/

theorem unquoteFrom_escape (run : List UInt8) (b : UInt8) (rest : Text) :
    unquoteFrom run (escape b ++ rest) = unquoteFrom (b :: run) rest := by
  simp only [escape, List.cons_append, List.nil_append]
  rw [unquoteFrom, byte?_hexDigits]

theorem unquoteFrom_ascii (run : List UInt8) {c : Char} (hc : Text.isAscii c = true) (hp : c ≠ '%') (rest : Text) :
    unquoteFrom run (c :: rest) = unquoteFrom (UInt8.ofNat c.toNat :: run) rest := by
  rw [unquoteFrom.eq_def]
  split
  · next h => cases h
  · next h =>
    cases h
    exact absurd rfl hp
  · next h =>
    cases h
    rw [if_pos hc]

/-- A text that is read as some bytes, whatever stands around it. -/
def Spells (t : Text) (bs : List UInt8) : Prop :=
  ∀ run rest, unquoteFrom run (t ++ rest) = unquoteFrom (bs.reverse ++ run) rest

theorem Spells.nil : Spells [] [] := fun _ _ => rfl

theorem Spells.append {t u : Text} {bs cs : List UInt8} (ht : Spells t bs) (hu : Spells u cs) :
    Spells (t ++ u) (bs ++ cs) := by
  intro run rest
  rw [List.append_assoc, ht, hu, List.reverse_append, List.append_assoc]

theorem spells_escape (b : UInt8) : Spells (escape b) [b] := fun run rest => unquoteFrom_escape run b rest

theorem spells_ascii {c : Char} (hc : Text.isAscii c = true) (hp : c ≠ '%') : Spells [c] (Utf8.encode [c]) := by
  intro run rest
  rw [Utf8.encode_ascii hc]
  exact unquoteFrom_ascii run hc hp rest

theorem spells_escapes (bs : List UInt8) : Spells (bs.flatMap escape) bs := by
  induction bs with
  | nil => exact .nil
  | cons b bs ih => exact (spells_escape b).append ih

/-- A quoted text spells the bytes of the text. -/
theorem spells_quote {safe : Char → Bool} (hsafe : Inert safe) (s : Text) : Spells (quote safe s) (Utf8.encode s) := by
  induction s with
  | nil => exact .nil
  | cons c s ih =>
    have hc : Spells (quoteChar safe c) (Utf8.encode [c]) := by
      unfold quoteChar
      split
      · next h => exact spells_ascii (hsafe c h).1 (hsafe c h).2
      · exact spells_escapes _
    have := hc.append ih
    rwa [← Utf8.encode_append] at this

/-- A text that spells the bytes of another is unquoted to it. -/
theorem Spells.unquote {t s : Text} (h : Spells t (Utf8.encode s)) : unquote t = s := by
  have := h [] []
  rw [List.append_nil, List.append_nil] at this
  rw [Percent.unquote, this, unquoteFrom, List.reverse_reverse, Utf8.decodeLossy_encode]

theorem eq_nil_of_unquoteFrom {run : List UInt8} {s : Text} (h : unquoteFrom run s = []) : run = [] ∧ s = [] := by
  fun_induction unquoteFrom run s with
  | case1 run => exact ⟨List.reverse_eq_nil_iff.1 (Utf8.decodeLossy_eq_nil_iff.1 h), rfl⟩
  | case2 run hi lo s b hb ih => exact absurd (ih h).1 (List.cons_ne_nil _ _)
  | case3 run hi lo s hb ih => exact absurd (ih h).1 (List.cons_ne_nil _ _)
  | case4 run c s hp hc ih => exact absurd (ih h).1 (List.cons_ne_nil _ _)
  | case5 run c s hp hc ih => exact absurd (List.append_eq_nil_iff.1 h).2 (List.cons_ne_nil _ _)

/-- Only the empty text is read as the empty text. -/
theorem unquote_eq_nil_iff {s : Text} : unquote s = [] ↔ s = [] := by
  constructor
  · exact fun h => (eq_nil_of_unquoteFrom h).2
  · rintro rfl
    rfl

end CodeAddress.Percent
