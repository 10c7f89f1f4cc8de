/-
Rows of code points and texts. A row is a text exactly if it holds no surrogate (`CodePoint.exists_map_char_iff`), and
UTF-8 takes these rows and no others (`CodePoint.text_eq_ok_iff`). Unescaping such a row is unescaping the text
(`CodePoint.unquote_map_char`), and of any other row it keeps the surrogates (`CodePoint.surrogate_mem_unquote_iff`).
-/
import CodeAddress.Proofs.Text.Percent
import CodeAddress.Text.CodePoint

namespace CodeAddress

namespace CodePoint

variable {s : List CodePoint} {t chars : Text} {n : Fin 2048}

theorem char_injective : Function.Injective char := fun _ _ => char.inj

/-- The row is no text. -/
def HasSurrogate (s : List CodePoint) : Prop := ∃ n, .surrogate n ∈ s

theorem hasSurrogate_cons_char {c : Char} : HasSurrogate (.char c :: s) ↔ HasSurrogate s :=
  exists_congr fun _ => by simp

theorem not_hasSurrogate_map_char (t : Text) : ¬ HasSurrogate (t.map .char) := by
  rintro ⟨n, hn⟩
  obtain ⟨c, -, hc⟩ := List.mem_map.1 hn
  cases hc

theorem exists_map_char_iff : (∃ t : Text, s = t.map .char) ↔ ¬ HasSurrogate s := by
  constructor
  · rintro ⟨t, rfl⟩
    exact not_hasSurrogate_map_char t
  intro h
  induction s with
  | nil => exact ⟨[], rfl⟩
  | cons c s ih =>
    cases c with
    | char c =>
      obtain ⟨t, rfl⟩ := ih (mt hasSurrogate_cons_char.2 h)
      exact ⟨c :: t, rfl⟩
    | surrogate n => exact absurd ⟨n, List.mem_cons_self ..⟩ h

/-! ## UTF-8 -/

theorem text_map_char (t : Text) : text (t.map .char) = .ok t := by
  induction t with
  | nil => rfl
  | cons c t ih => rw [List.map_cons, text, ih]

theorem text_eq_ok_iff : text s = .ok t ↔ s = t.map .char := by
  refine ⟨fun h => ?_, fun h => by rw [h, text_map_char]⟩
  induction s generalizing t with
  | nil =>
    cases h
    rfl
  | cons c s ih =>
    cases c with
    | char c =>
      unfold text at h
      split at h
      · next t' ht =>
        cases h
        rw [ih ht, List.map_cons]
      · cases h
    | surrogate n => cases h

/-! ## Escapes -/

theorem unquoteFrom_map_char (chars t : Text) :
    unquoteFrom chars (t.map .char) = (Percent.unquote (chars.reverse ++ t)).map .char := by
  induction t generalizing chars with
  | nil => rw [List.map_nil, unquoteFrom, List.append_nil]
  | cons c t ih => rw [List.map_cons, unquoteFrom, ih, List.reverse_cons, List.append_assoc, List.singleton_append]

theorem unquote_map_char (t : Text) : unquote (t.map .char) = (Percent.unquote t).map .char := unquoteFrom_map_char [] t

theorem surrogate_mem_unquoteFrom_iff : .surrogate n ∈ unquoteFrom chars s ↔ .surrogate n ∈ s := by
  induction s generalizing chars with
  | nil => simp [unquoteFrom]
  | cons c s ih => cases c <;> simp [unquoteFrom, ih]

theorem surrogate_mem_unquote_iff : .surrogate n ∈ unquote s ↔ .surrogate n ∈ s := surrogate_mem_unquoteFrom_iff

theorem eq_nil_of_unquoteFrom (h : unquoteFrom chars s = []) : chars = [] ∧ s = [] := by
  induction s generalizing chars with
  | nil =>
    rw [unquoteFrom, List.map_eq_nil_iff, Percent.unquote_eq_nil_iff, List.reverse_eq_nil_iff] at h
    exact ⟨h, rfl⟩
  | cons c s ih =>
    cases c with
    | char c => cases (ih h).1
    | surrogate n => cases (List.append_eq_nil_iff.1 h).2

theorem unquote_eq_nil_iff : unquote s = [] ↔ s = [] := by
  refine ⟨fun h => (eq_nil_of_unquoteFrom h).2, ?_⟩
  rintro rfl
  rfl

end CodePoint

/-! ## Letters -/

/-- What characters and code points have in common: letters make up a text exactly if they are its characters, and
unescaping leaves nothing only of nothing. -/
class Letter.Lawful (α : Type) [Letter α] : Prop where
  ofChar_injective : Function.Injective (Letter.ofChar : Char → α)
  text_eq_ok_iff : ∀ (s : List α) (t : Text), Letter.text s = .ok t ↔ s = Letter.ofText t
  unquote_eq_nil_iff : ∀ s : List α, Letter.unquote s = [] ↔ s = []

instance : Letter.Lawful Char where
  ofChar_injective _ _ h := h
  text_eq_ok_iff s t := by rw [Letter.text_char, Letter.ofText_char, Except.ok.injEq]
  unquote_eq_nil_iff _ := Percent.unquote_eq_nil_iff

instance : Letter.Lawful CodePoint where
  ofChar_injective := CodePoint.char_injective
  text_eq_ok_iff _ _ := CodePoint.text_eq_ok_iff
  unquote_eq_nil_iff _ := CodePoint.unquote_eq_nil_iff

end CodeAddress
