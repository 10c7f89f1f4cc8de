/-
Marks and pieces in concatenations. A text is cut at the first occurrence of a mark (`cut?_eq_some_iff`): what
stands before it, with all of the mark but its last character, has no occurrence. A text holds a mark exactly
if the mark is an infix of it (`holds_iff`), and pieces and their joining undo each other on pieces that are
free of the separator (`pieces_joined`).
-/
import CodeAddress.Text.Basic
import Mathlib.Data.List.Infix

namespace CodeAddress.Text

/-! ## Marks -/

theorem after?_singleton (m c : Char) (s : Text) : after? [m] (c :: s) = if m = c then some s else none := rfl

theorem after?_eq_none_iff {mark s : Text} : after? mark s = none ↔ ¬ mark <+: s := by
  rw [← beginsWith_iff, beginsWith, Option.not_isSome_iff_eq_none]

/-- A text that begins with one mark does not begin with another, if neither mark begins with the other. -/
theorem not_prefix_of_apart {mark mark' s : Text} (h : mark <+: s) (h1 : ¬ mark <+: mark') (h2 : ¬ mark' <+: mark) :
    ¬ mark' <+: s := fun h' => (List.prefix_or_prefix_of_prefix h h').elim h1 h2

/-- A text holds a mark exactly if the mark is an infix of it. -/
theorem holds_iff {mark s : Text} (hm : mark ≠ []) : holds mark s = true ↔ mark <:+: s := by
  induction s with
  | nil => simp [holds, cut?, hm]
  | cons c s ih =>
    rw [List.infix_cons_iff, ← ih, ← beginsWith_iff, beginsWith, holds, cut?]
    cases h : after? mark (c :: s) with
    | some r => simp
    | none => simp [holds]

/-- Nothing is cut exactly if the text has no mark. -/
theorem cut?_eq_none_iff {mark s : Text} (hm : mark ≠ []) : cut? mark s = none ↔ ¬ mark <:+: s := by
  rw [← holds_iff hm, holds, Option.not_isSome_iff_eq_none]

theorem cut?_cons_of_eq_append {mark s r : Text} {c : Char} (h : c :: s = mark ++ r) :
    cut? mark (c :: s) = some ([], r) := by
  rw [cut?, after?_eq_some_iff.2 h]

theorem cut?_cons_of_not_begins {mark s : Text} {c : Char} (h : ¬ mark <+: c :: s) :
    cut? mark (c :: s) = (cut? mark s).map fun p => (c :: p.1, p.2) := by
  rw [cut?, after?_eq_none_iff.2 h]

/-- What stands before the last character of a mark is a beginning of the text that has the mark. -/
theorem dropLast_prefix_append (mark a b : Text) : a ++ mark.dropLast <+: a ++ (mark ++ b) :=
  (List.prefix_append_right_inj a).2 ((List.dropLast_prefix mark).trans (List.prefix_append mark b))

/-- No mark ends before the one that a text is cut at does. -/
theorem not_infix_of_cut? {mark s a b : Text} (hm : mark ≠ []) (h : cut? mark s = some (a, b)) :
    ¬ mark <:+: a ++ mark.dropLast := by
  induction s generalizing a with
  | nil => cases h
  | cons c s ih =>
    by_cases hs : mark <+: c :: s
    · obtain ⟨r, hr⟩ := hs
      rw [cut?_cons_of_eq_append hr.symm] at h
      cases h
      -- without its last character the mark is too short to hold itself
      intro hin
      have hle := hin.length_le
      have hpos := List.length_pos_of_ne_nil hm
      simp only [List.nil_append, List.length_dropLast] at hle
      omega
    · have heq := eq_append_of_cut? h
      rw [cut?_cons_of_not_begins hs] at h
      obtain ⟨⟨a', b'⟩, hp, he⟩ := Option.map_eq_some_iff.1 h
      cases he
      rw [List.cons_append, List.infix_cons_iff, not_or]
      refine ⟨fun hpre => hs ?_, ih hp⟩
      rw [heq]
      exact hpre.trans (dropLast_prefix_append mark (c :: a') b')

theorem cut?_append {mark a : Text} (hm : mark ≠ []) (h : ¬ mark <:+: a ++ mark.dropLast) (b : Text) :
    cut? mark (a ++ (mark ++ b)) = some (a, b) := by
  induction a with
  | nil =>
    obtain ⟨m, mark', rfl⟩ := List.exists_cons_of_ne_nil hm
    exact cut?_cons_of_eq_append rfl
  | cons c a ih =>
    rw [List.cons_append, List.infix_cons_iff, not_or] at h
    have hs : ¬ mark <+: c :: (a ++ (mark ++ b)) := fun hpre => by
      refine h.1 (List.prefix_of_prefix_length_le hpre (dropLast_prefix_append mark (c :: a) b) ?_)
      simp only [List.length_append, List.length_cons, List.length_dropLast]
      omega
    rw [List.cons_append, cut?_cons_of_not_begins hs, ih h.2]
    rfl

/-- A text is cut at the first occurrence of the mark. -/
theorem cut?_eq_some_iff {mark s a b : Text} (hm : mark ≠ []) :
    cut? mark s = some (a, b) ↔ s = a ++ (mark ++ b) ∧ ¬ mark <:+: a ++ mark.dropLast := by
  constructor
  · exact fun h => ⟨eq_append_of_cut? h, not_infix_of_cut? hm h⟩
  · rintro ⟨rfl, h⟩
    exact cut?_append hm h b

/-- A mark that is found in a text is found at the same place whatever is added to the text. -/
theorem cut?_append_of_eq_some {mark s a b : Text} (hm : mark ≠ []) (h : cut? mark s = some (a, b)) (t : Text) :
    cut? mark (s ++ t) = some (a, b ++ t) := by
  rw [eq_append_of_cut? h, List.append_assoc, List.append_assoc]
  exact cut?_append hm (not_infix_of_cut? hm h) (b ++ t)

/-! ## Single marks -/

theorem cut?_char_eq_none_iff {m : Char} {s : Text} : cut? [m] s = none ↔ m ∉ s := by
  rw [cut?_eq_none_iff (by simp), List.singleton_infix_iff]

theorem cut?_append_cons {m : Char} {a : Text} (h : m ∉ a) (b : Text) : cut? [m] (a ++ m :: b) = some (a, b) := by
  refine cut?_append (by simp) ?_ b
  rwa [List.dropLast_singleton, List.append_nil, List.singleton_infix_iff]

/-! ## Pieces -/

theorem pieces_of_notMem {sep : Char} {s : Text} (h : sep ∉ s) : pieces sep s = [s] := by
  induction s with
  | nil => rfl
  | cons c s ih =>
    simp only [List.mem_cons, not_or] at h
    rw [pieces, if_neg (Ne.symm h.1), ih h.2]

theorem pieces_append_cons (sep : Char) (a b : Text) :
    pieces sep (a ++ sep :: b) = pieces sep a ++ pieces sep b := by
  induction a with
  | nil => simp [pieces]
  | cons c a ih =>
    obtain ⟨p, ps, hp⟩ := List.exists_cons_of_ne_nil (pieces_ne_nil sep a)
    rw [List.cons_append, pieces, pieces]
    by_cases hc : c = sep
    · rw [if_pos hc, if_pos hc, ih, List.cons_append]
    · rw [if_neg hc, if_neg hc, ih, hp]
      rfl

/-- Where two texts meet, the last piece of the one and the first of the other are one piece. -/
theorem pieces_append (sep : Char) (a b : Text) :
    ∃ init last first tail, pieces sep a = init ++ [last] ∧ pieces sep b = first :: tail ∧
      pieces sep (a ++ b) = init ++ (last ++ first) :: tail := by
  induction a with
  | nil =>
    obtain ⟨first, tail, hb⟩ := List.exists_cons_of_ne_nil (pieces_ne_nil sep b)
    exact ⟨[], [], first, tail, rfl, hb, hb⟩
  | cons c a ih =>
    obtain ⟨init, last, first, tail, ha, hb, hab⟩ := ih
    rw [List.cons_append, pieces, pieces, ha, hab]
    by_cases hc : c = sep
    · rw [if_pos hc, if_pos hc]
      exact ⟨[] :: init, last, first, tail, rfl, hb, rfl⟩
    · rw [if_neg hc, if_neg hc]
      cases init with
      | nil => exact ⟨[], c :: last, first, tail, rfl, hb, rfl⟩
      | cons p init => exact ⟨(c :: p) :: init, last, first, tail, rfl, hb, rfl⟩

theorem joined_cons {sep : Char} {p : Text} {ps : List Text} (h : ps ≠ []) :
    joined sep (p :: ps) = p ++ sep :: joined sep ps := by
  cases ps with
  | nil => exact absurd rfl h
  | cons q qs => rfl

theorem joined_append {sep : Char} {ps qs : List Text} (hp : ps ≠ []) (hq : qs ≠ []) :
    joined sep (ps ++ qs) = joined sep ps ++ sep :: joined sep qs := by
  induction ps with
  | nil => exact absurd rfl hp
  | cons p ps ih =>
    rcases List.eq_nil_or_concat ps with rfl | ⟨_, _, rfl⟩
    · exact joined_cons hq
    · rw [List.cons_append, joined_cons (by simp), joined_cons (by simp), ih (by simp), List.append_assoc,
        List.cons_append]

theorem mem_joined {sep c : Char} {ps : List Text} (h : c ∈ joined sep ps) : c = sep ∨ ∃ p ∈ ps, c ∈ p := by
  induction ps with
  | nil => cases h
  | cons p ps ih =>
    cases ps with
    | nil => exact .inr ⟨p, List.mem_cons_self .., h⟩
    | cons q qs =>
      rw [joined_cons (by simp), List.mem_append, List.mem_cons] at h
      rcases h with h | h | h
      · exact .inr ⟨p, List.mem_cons_self .., h⟩
      · exact .inl h
      · rcases ih h with h | ⟨r, hr, hc⟩
        · exact .inl h
        · exact .inr ⟨r, List.mem_cons_of_mem _ hr, hc⟩

/-- The pieces of joined pieces are these pieces. -/
theorem pieces_joined {sep : Char} {ps : List Text} (hne : ps ≠ []) (h : ∀ p ∈ ps, sep ∉ p) :
    pieces sep (joined sep ps) = ps := by
  induction ps with
  | nil => exact absurd rfl hne
  | cons p ps ih =>
    have hp := pieces_of_notMem (h p (List.mem_cons_self ..))
    cases ps with
    | nil => exact hp
    | cons q qs =>
      rw [joined_cons (by simp), pieces_append_cons, hp, ih (by simp) fun r hr => h r (List.mem_cons_of_mem _ hr)]
      rfl

/-- Between two separators stands a piece that is neither the first nor the last. -/
theorem infix_iff_pieces {sep : Char} {p s : Text} (hp : sep ∉ p) :
    sep :: (p ++ [sep]) <:+: s ↔ ∃ before after, before ≠ [] ∧ after ≠ [] ∧ pieces sep s = before ++ p :: after := by
  constructor
  · rintro ⟨a, b, rfl⟩
    refine ⟨pieces sep a, pieces sep b, pieces_ne_nil _ _, pieces_ne_nil _ _, ?_⟩
    rw [List.append_assoc, List.cons_append, pieces_append_cons, List.append_assoc, List.singleton_append,
      pieces_append_cons, pieces_of_notMem hp]
    rfl
  · rintro ⟨before, after, hb, ha, hs⟩
    refine ⟨joined sep before, joined sep after, ?_⟩
    rw [← joined_pieces sep s, hs, joined_append hb (List.cons_ne_nil _ _), joined_cons ha]
    simp

/-! ## Trimming -/

/-- A text without characters of a class has none to trim. -/
theorem trim_of_forall {p : Char → Bool} {s : Text} (h : ∀ c ∈ s, p c = false) : trim p s = s := by
  have hdrop {t : Text} (ht : ∀ c ∈ t, p c = false) : t.dropWhile p = t := by
    cases t with
    | nil => rfl
    | cons c t => rw [List.dropWhile_cons_of_neg (by simp [ht c])]
  rw [trim, hdrop h, hdrop fun c hc => h c (List.mem_reverse.1 hc), List.reverse_reverse]

/-- Only characters of the class are trimmed. -/
theorem mem_trim {p : Char → Bool} {s : Text} {c : Char} (h : c ∈ s) : p c = true ∨ c ∈ trim p s := by
  have hdrop {t : Text} (ht : c ∈ t) : p c = true ∨ c ∈ t.dropWhile p := by
    rw [← List.takeWhile_append_dropWhile (p := p) (l := t)] at ht
    exact (List.mem_append.1 ht).imp_left (List.all_eq_true.1 List.all_takeWhile c)
  rcases hdrop h with hp | h
  · exact .inl hp
  · exact (hdrop (List.mem_reverse.2 h)).imp_right List.mem_reverse.2

end CodeAddress.Text
