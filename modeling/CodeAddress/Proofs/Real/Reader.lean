/-
What is read as a number and is none. Exactly the name `nan`, in any case and behind a sign or not, is read so
(`Binary64.read?_eq_nan_iff`), since digits always round to a number or to an infinite one. Every other number is either
positive or zero or less, and no number is written as that name (`Binary64.namesNan_text_iff`).
-/
import CodeAddress.Proofs.Text.Numeral
import CodeAddress.Real.Reader
import CodeAddress.Real.Shortest

namespace CodeAddress.Binary64

variable {s t word : Text} {c : Char} {x : Binary64}

/-! ## Order -/

theorem isPositive_of_isAtMostZero (hx : x ≠ .nan) (h : x.isAtMostZero = false) : x.isPositive = true := by
  cases x with
  | nan => exact absurd rfl hx
  | infinite negative => simpa [isPositive, isAtMostZero] using h
  | finite negative m e => simpa [isPositive, isAtMostZero] using h

theorem isAtMostZero_of_isPositive (hx : x ≠ .nan) (h : x.isPositive = false) : x.isAtMostZero = true := by
  cases hzero : x.isAtMostZero with
  | true => rfl
  | false =>
    rw [isPositive_of_isAtMostZero hx hzero] at h
    cases h

/-! ## Rounding -/

theorem ite_ne_nan (negative : Bool) (m : Nat) (e : Int) :
    (if greatestExponent < e then .infinite negative
      else if m = 0 then zero negative else .finite negative m e) ≠ nan := by
  intro h
  split at h
  · cases h
  · split at h <;> cases h

theorem ofRatio_ne_nan (negative : Bool) (num den : Nat) : ofRatio negative num den ≠ .nan := by
  unfold ofRatio
  split
  · exact Binary64.noConfusion
  · exact ite_ne_nan _ _ _

theorem ofDecimal_ne_nan (negative : Bool) (digits : Nat) (e : Int) : ofDecimal negative digits e ≠ .nan := by
  intro h
  rw [ofDecimal] at h
  split at h
  · cases h
  · split at h
    · cases h
    · split at h
      · cases h
      · exact ofRatio_ne_nan _ _ _ h

/-! ## The name of what is no number -/

/-- A sign or nothing. -/
def IsSign (s : Text) : Prop := s = [] ∨ s = ['+'] ∨ s = ['-']

/-- White space around a sign, if there is one, and the name in any case. -/
def NamesNan (s : Text) : Prop :=
  ∃ sign word, Text.unspaced s = sign ++ word ∧ IsSign sign ∧ Text.lower word = "nan".toList

/-- The signs and the letters of the name. -/
def nanChars : List Char := ['+', '-', 'n', 'a', 'N', 'A']

theorem eq_or_of_toLower {low : Char} (up : Char) (h : c.toLower = low) (hup : up.val + ('a'.val - 'A'.val) = low.val) :
    c = low ∨ c = up := by
  unfold Char.toLower at h
  split at h
  · have hval : c.val + ('a'.val - 'A'.val) = up.val + ('a'.val - 'A'.val) := (congrArg Char.val h).trans hup.symm
    exact .inr (Char.ext ((UInt32.add_left_inj _).1 hval))
  · exact .inl h

theorem mem_of_lower (h : Text.lower word = "nan".toList) (hc : c ∈ word) : c ∈ ['n', 'a', 'N', 'A'] := by
  have hmem : c.toLower ∈ "nan".toList := h ▸ List.mem_map_of_mem hc
  have hn : c.toLower = 'n' → c ∈ ['n', 'a', 'N', 'A'] := by
    intro hlow
    rcases eq_or_of_toLower 'N' hlow rfl with rfl | rfl <;> decide
  have ha : c.toLower = 'a' → c ∈ ['n', 'a', 'N', 'A'] := by
    intro hlow
    rcases eq_or_of_toLower 'A' hlow rfl with rfl | rfl <;> decide
  have hlow : c.toLower = 'n' ∨ c.toLower = 'a' ∨ c.toLower = 'n' := by simpa using hmem
  exact hlow.elim hn fun hlow => hlow.elim ha hn

theorem mem_nanChars {sign : Text} (hsign : IsSign sign) (hword : Text.lower word = "nan".toList)
    (hc : c ∈ sign ++ word) : c ∈ nanChars := by
  rcases List.mem_append.1 hc with hc | hc
  · rcases hsign with rfl | rfl | rfl
    · cases hc
    · rw [List.mem_singleton.1 hc]
      decide
    · rw [List.mem_singleton.1 hc]
      decide
  · exact List.mem_cons_of_mem _ (List.mem_cons_of_mem _ (mem_of_lower hword hc))

/-- The characters of the name, and those around it. -/
theorem NamesNan.mem (h : NamesNan s) (hc : c ∈ s) : Text.isSpace c = true ∨ c ∈ nanChars := by
  obtain ⟨sign, word, heq, hsign, hword⟩ := h
  rcases Text.mem_trim (p := Text.isSpace) hc with hspace | hc
  · exact .inl hspace
  · have : c ∈ sign ++ word := heq ▸ hc
    exact .inr (mem_nanChars hsign hword this)

theorem not_namesNan (hc : c ∈ s) (hspace : Text.isSpace c = false) (hmem : c ∉ nanChars) : ¬ NamesNan s := by
  intro h
  rcases h.mem hc with h | h
  · rw [hspace] at h
    cases h
  · exact hmem h

theorem of_mem_nanChars (hc : c ∈ nanChars) : c.isDigit = false ∧ c ≠ '_' ∧ Text.decimalDigit? c = none := by
  have hall : nanChars.all (fun c => decide (c.isDigit = false ∧ c ≠ '_' ∧ Text.decimalDigit? c = none)) = true := by
    decide +kernel
  exact of_decide_eq_true (List.all_eq_true.1 hall c hc)

theorem not_namesNan_of_isDigit (hc : c ∈ s) (hd : c.isDigit = true) : ¬ NamesNan s := by
  refine not_namesNan hc (Numeral.isSpace_of_isDigit hd) fun hmem => ?_
  rw [(of_mem_nanChars hmem).1] at hd
  cases hd

/-! ## Reading -/

theorem exists_unsigned (s : Text) : ∃ sign, IsSign sign ∧ s = sign ++ (Numeral.unsigned s).2 := by
  rw [Numeral.unsigned.eq_def]
  split
  · exact ⟨['-'], .inr (.inr rfl), rfl⟩
  · exact ⟨['+'], .inr (.inl rfl), rfl⟩
  · exact ⟨[], .inl rfl, rfl⟩

theorem unsigned_append {sign : Text} (hsign : IsSign sign) (hword : Text.lower word = "nan".toList) :
    (Numeral.unsigned (sign ++ word)).2 = word := by
  rcases hsign with rfl | rfl | rfl
  · rw [List.nil_append, Numeral.unsigned.eq_def]
    split
    · exact absurd (mem_of_lower hword (List.mem_cons_self ..)) (by decide)
    · exact absurd (mem_of_lower hword (List.mem_cons_self ..)) (by decide)
    · rfl
  · rfl
  · rfl

theorem readUnsigned?_eq_nan_iff {negative : Bool} :
    readUnsigned? negative s = some .nan ↔ Text.lower s = "nan".toList := by
  unfold readUnsigned?
  dsimp only
  constructor
  · intro h
    split at h
    · cases h
    · split at h
      · next hword => exact hword
      · split at h
        · cases h
        · obtain ⟨e, -, heq⟩ := Option.bind_eq_some_iff.1 h
          exact absurd (Option.some.inj heq) (ofDecimal_ne_nan _ _ _)
  · intro h
    rw [h]
    rfl

/-- A text is read as what is no number exactly if it is its name. -/
theorem read?_eq_nan_iff : read? s = some .nan ↔ NamesNan s := by
  constructor
  · intro h
    obtain ⟨t, ht, h⟩ := Option.bind_eq_some_iff.1 h
    have hword : Text.lower (Numeral.unsigned t).2 = "nan".toList := readUnsigned?_eq_nan_iff.1 h
    obtain ⟨sign, hsign, heq⟩ := exists_unsigned t
    -- Without a digit in it, no low line was taken out of the text and no digit was written in ASCII.
    have hdigit : ∀ c ∈ t, c.isDigit = false := fun c hc => (of_mem_nanChars (mem_nanChars hsign hword (heq ▸ hc))).1
    have hplain := Numeral.eq_of_ungroup? ht hdigit
    rw [hplain] at hdigit
    refine ⟨sign, _, ?_, hsign, hword⟩
    rw [← heq, hplain, Numeral.plain_of_plain hdigit]
  · rintro ⟨sign, word, heq, hsign, hword⟩
    have hfacts : ∀ c ∈ sign ++ word, c.isDigit = false ∧ c ≠ '_' ∧ Text.decimalDigit? c = none := fun c hc =>
      of_mem_nanChars (mem_nanChars hsign hword hc)
    have hplain : Numeral.plain (sign ++ word) = sign ++ word := by
      refine (List.map_congr_left fun c hc => ?_).trans (List.map_id _)
      rw [(hfacts c hc).2.2]
      rfl
    have hlow : '_' ∉ sign ++ word := fun hc => (hfacts _ hc).2.1 rfl
    unfold read?
    rw [heq, hplain, Numeral.ungroup?_of_notMem hlow, Option.bind_eq_bind, Option.bind_some]
    dsimp only
    rw [readUnsigned?_eq_nan_iff, unsigned_append hsign hword]
    exact hword

/-! ## Writing -/

theorem mem_pointed (ds : Text) (before : Int) : '.' ∈ pointed ds before := by
  unfold pointed
  split
  · simp
  · simp

theorem mem_scientific (l : Layout) (ds : Text) (order : Int) : 'e' ∈ scientific l ds order := by
  simp [scientific]

theorem mem_decimalText (l : Layout) (d : Decimal) : '.' ∈ d.text l ∨ 'e' ∈ d.text l := by
  unfold Decimal.text
  dsimp only
  split
  · exact .inl (mem_pointed _ _)
  · exact .inr (mem_scientific _ _ _)

theorem mem_sign (negative : Bool) (hc : c ∈ s) : c ∈ text.sign negative s := by
  unfold text.sign
  split
  · exact List.mem_cons_of_mem _ hc
  · exact hc

theorem mem_text_finite (negative : Bool) (m : Nat) (q : Int) :
    '.' ∈ text (.finite negative m q) ∨ 'e' ∈ text (.finite negative m q) := by
  rw [text]
  split
  · have hmem : '.' ∈ "0.0".toList := by decide
    exact .inl (mem_sign negative hmem)
  · exact (mem_decimalText layout _).imp (mem_sign negative) (mem_sign negative)

/-- Only what is no number is written as its name. -/
theorem namesNan_text_iff : NamesNan x.text ↔ x = .nan := by
  constructor
  · intro h
    cases x with
    | nan => rfl
    | infinite negative =>
      have hmem : 'i' ∈ text (.infinite negative) := by cases negative <;> decide
      exact absurd h (not_namesNan hmem (by decide) (by decide))
    | finite negative m q =>
      rcases mem_text_finite negative m q with hmem | hmem
      · exact absurd h (not_namesNan hmem (by decide) (by decide))
      · exact absurd h (not_namesNan hmem (by decide) (by decide))
  · rintro rfl
    exact ⟨[], "nan", by decide, .inl rfl, rfl⟩

end CodeAddress.Binary64
