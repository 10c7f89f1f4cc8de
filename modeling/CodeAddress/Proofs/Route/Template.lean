/-
Writing a template out. `text` writes segments as a template. The segments of a template are the only ones that write it
and in which no slot is missed (`segments_eq_iff`): each literal has text that holds no slot, and no other literal
stands next to it (`Sound`). The scan passes a character only where no slot begins, and so a literal cannot hold one;
nor can a slot begin in a literal and end behind it, since a slot has no brace inside.
-/
import CodeAddress.Route.Template
import Mathlib.Data.List.Infix

namespace CodeAddress.Template

/-! ## Slots -/

/-- The text of a slot in a template. -/
def slotText (slot : Slot) : Text := '{' :: (slot.lead.toList ++ (slot.name ++ ['}']))

/-- A slot as a template can have it: a word for its name and one of the two leads, if any. -/
def Proper (slot : Slot) : Prop :=
  slot.name ≠ [] ∧ slot.name.all Text.isWordChar = true ∧ slot.lead.all (fun c => c == '@' || c == '/') = true

instance (slot : Slot) : Decidable (Proper slot) := by unfold Proper; infer_instance

theorem lead_slotText {slot : Slot} (h : Proper slot) (rest : Text) :
    lead (slot.lead.toList ++ (slot.name ++ rest)) = (slot.lead, slot.name ++ rest) := by
  obtain ⟨hne, hname, hlead⟩ := h
  cases hl : slot.lead with
  | some c =>
    have hc : c = '@' ∨ c = '/' := by simpa [hl] using hlead
    rcases hc with rfl | rfl <;> rfl
  | none =>
    obtain ⟨c, name, hc⟩ := List.exists_cons_of_ne_nil hne
    rw [hc] at hname ⊢
    have hword := List.all_eq_true.1 hname c (List.mem_cons_self ..)
    have hat : c ≠ '@' := fun h => absurd (h ▸ hword) (by decide)
    have hslash : c ≠ '/' := fun h => absurd (h ▸ hword) (by decide)
    show lead (c :: (name ++ rest)) = _
    unfold lead
    split
    · next h =>
      cases h
      exact absurd rfl hat
    · next h =>
      cases h
      exact absurd rfl hslash
    · rfl

theorem slot?_slotText {slot : Slot} (h : Proper slot) (rest : Text) :
    slot? (slotText slot ++ rest) = some (slot, rest) := by
  have hbrace : Text.isWordChar '}' = false := by decide
  have htext : slotText slot ++ rest = '{' :: (slot.lead.toList ++ (slot.name ++ '}' :: rest)) := by
    simp [slotText]
  have hname := List.all_eq_true.1 h.2.1
  have htake : (slot.name ++ '}' :: rest).takeWhile Text.isWordChar = slot.name := by
    rw [List.takeWhile_append_of_pos hname, List.takeWhile_cons_of_neg (by simp [hbrace]), List.append_nil]
  have hdrop : (slot.name ++ '}' :: rest).dropWhile Text.isWordChar = '}' :: rest := by
    rw [List.dropWhile_append_of_pos hname, List.dropWhile_cons_of_neg (by simp [hbrace])]
  rw [htext]
  simp only [slot?, lead_slotText h, htake, hdrop, if_neg h.1]

theorem eq_append_lead (s : Text) : s = (lead s).1.toList ++ (lead s).2 := by
  unfold lead
  split <;> rfl

theorem all_lead (s : Text) : (lead s).1.all (fun c => c == '@' || c == '/') = true := by
  unfold lead
  split <;> rfl

/-- A text begins with a slot exactly if it begins with the text of a proper one. -/
theorem slot?_eq_some_iff {s rest : Text} {slot : Slot} :
    slot? s = some (slot, rest) ↔ Proper slot ∧ s = slotText slot ++ rest := by
  constructor
  · intro h
    unfold slot? at h
    split at h
    · next s =>
      dsimp only at h
      split at h
      · next after hafter =>
        split at h
        · cases h
        · next hne =>
          cases h
          have hword : ((lead s).2.takeWhile Text.isWordChar).all Text.isWordChar = true := List.all_takeWhile
          refine ⟨⟨hne, hword, all_lead s⟩, ?_⟩
          have hname := List.takeWhile_append_dropWhile (p := Text.isWordChar) (l := (lead s).2)
          rw [hafter] at hname
          simp only [slotText, List.cons_append, List.append_assoc, List.nil_append]
          rw [hname, ← eq_append_lead]
      · cases h
    · cases h
  · rintro ⟨hp, rfl⟩
    exact slot?_slotText hp rest

theorem slot?_eq_none_iff {s : Text} : slot? s = none ↔ ∀ slot, Proper slot → ¬ slotText slot <+: s := by
  constructor
  · rintro h slot hp ⟨rest, rfl⟩
    rw [slot?_slotText hp] at h
    cases h
  · intro h
    cases hs : slot? s with
    | none => rfl
    | some p =>
      obtain ⟨hp, heq⟩ := slot?_eq_some_iff.1 hs
      exact absurd ⟨p.2, heq.symm⟩ (h p.1 hp)

/-- A slot has its only opening brace in front. -/
theorem brace_notMem {slot : Slot} (h : Proper slot) : '{' ∉ slot.lead.toList ++ (slot.name ++ ['}']) := by
  obtain ⟨-, hname, hlead⟩ := h
  simp only [List.mem_append, Option.mem_toList, List.mem_singleton, not_or]
  refine ⟨fun hl => ?_, fun hn => ?_, by decide⟩
  · rw [Option.mem_def.1 hl] at hlead
    revert hlead
    decide
  · exact absurd (List.all_eq_true.1 hname _ hn) (by decide)

/-! ## Templates -/

/-- The template of segments. -/
def text (segs : List Segment) : Text :=
  segs.flatMap fun
    | .literal t => t
    | .slot slot => slotText slot

/-- Segments as a template can have them: the slots proper, the literals not empty, free of braces and each
between two slots. -/
def Plain : List Segment → Prop
  | [] => True
  | .slot slot :: segs => Proper slot ∧ Plain segs
  | [.literal t] => t ≠ [] ∧ '{' ∉ t
  | .literal t :: .slot slot :: segs => (t ≠ [] ∧ '{' ∉ t) ∧ Proper slot ∧ Plain segs
  | .literal _ :: .literal _ :: _ => False

instance decidablePlain : (segs : List Segment) → Decidable (Plain segs)
  | [] => .isTrue trivial
  | .slot slot :: segs =>
    have := decidablePlain segs
    inferInstanceAs (Decidable (Proper slot ∧ Plain segs))
  | [.literal t] => inferInstanceAs (Decidable (t ≠ [] ∧ '{' ∉ t))
  | .literal t :: .slot slot :: segs =>
    have := decidablePlain segs
    inferInstanceAs (Decidable ((t ≠ [] ∧ '{' ∉ t) ∧ Proper slot ∧ Plain segs))
  | .literal _ :: .literal _ :: _ => .isFalse id

theorem nodup_names_of_wellNamed {segs : List Segment} (h : wellNamed segs = true) : (names segs).Nodup := by
  rw [wellNamed, Bool.and_eq_true, decide_eq_true_eq] at h
  exact h.2

theorem segmentsFrom_nil (before : Text) : segmentsFrom before [] = literal? before.reverse := by
  rw [segmentsFrom]
  rfl

theorem segmentsFrom_cons {c : Char} {s : Text} (h : slot? (c :: s) = none) (before : Text) :
    segmentsFrom before (c :: s) = segmentsFrom (c :: before) s := by
  rw [segmentsFrom]
  split
  · next hs =>
    rw [h] at hs
    cases hs
  · rfl

theorem segmentsFrom_of_slot? {s rest : Text} {slot : Slot} (h : slot? s = some (slot, rest)) (before : Text) :
    segmentsFrom before s = literal? before.reverse ++ .slot slot :: segmentsFrom [] rest := by
  rw [segmentsFrom]
  split
  · next hs =>
    rw [h] at hs
    cases hs
    rfl
  · next hs =>
    rw [h] at hs
    cases hs

/-! ## Segments of a text -/

theorem text_append (segs segs' : List Segment) : text (segs ++ segs') = text segs ++ text segs' :=
  List.flatMap_append

theorem text_literal? (t : Text) : text (literal? t) = t := by
  unfold literal?
  split
  · next h => exact h.symm
  · exact List.append_nil t

theorem text_segmentsFrom (before s : Text) : text (segmentsFrom before s) = before.reverse ++ s := by
  fun_induction segmentsFrom before s with
  | case1 before s slot rest hs hlt ih =>
    obtain ⟨-, rfl⟩ := slot?_eq_some_iff.1 hs
    rw [text_append, text_literal?]
    show before.reverse ++ (slotText slot ++ text (segmentsFrom [] rest)) = _
    rw [ih]
    rfl
  | case2 before hs => rw [text_literal?, List.append_nil]
  | case3 before c s hs ih => rw [ih, List.reverse_cons, List.append_assoc, List.singleton_append]

/-! ## Sound segments -/

/-- The text of some slot stands in the text. -/
def HoldsSlot (t : Text) : Prop := ∃ slot, Proper slot ∧ slotText slot <:+: t

/-- The first segment, if there is one, is a slot. -/
def SlotFirst (segs : List Segment) : Prop := ∀ t, segs.head? ≠ some (.literal t)

theorem slotFirst_nil : SlotFirst [] := fun _ h => by cases h

theorem slotFirst_cons (slot : Slot) (segs : List Segment) : SlotFirst (.slot slot :: segs) := fun _ h => by cases h

/-- Segments in which no slot is missed: the slots are proper, and a literal has text that holds no slot and has no
other literal behind it. -/
inductive Sound : List Segment → Prop
  | nil : Sound []
  | slot {slot : Slot} {segs : List Segment} : Proper slot → Sound segs → Sound (.slot slot :: segs)
  | literal {t : Text} {segs : List Segment} :
      t ≠ [] → ¬ HoldsSlot t → SlotFirst segs → Sound segs → Sound (.literal t :: segs)

section Sound

variable {t u s before : Text} {segs : List Segment}

theorem Sound.of_mem (h : Sound segs) (ht : .literal t ∈ segs) : t ≠ [] ∧ ¬ HoldsSlot t := by
  induction h with
  | nil => cases ht
  | slot _ _ ih => exact ih ((List.mem_cons.1 ht).resolve_left (fun h => by cases h))
  | literal hne hholds _ _ ih =>
    rcases List.mem_cons.1 ht with heq | ht
    · cases heq
      exact ⟨hne, hholds⟩
    · exact ih ht

theorem Sound.not_adjacent (h : Sound segs) : ¬ [.literal t, .literal u] <:+: segs := by
  induction h with
  | nil => simp
  | slot _ _ ih =>
    rw [List.infix_cons_iff, not_or]
    refine ⟨fun hpre => ?_, ih⟩
    cases (List.cons_prefix_cons.1 hpre).1
  | literal _ _ hnext _ ih =>
    rw [List.infix_cons_iff, not_or]
    refine ⟨fun hpre => ?_, ih⟩
    obtain ⟨rest, rfl⟩ := (List.cons_prefix_cons.1 hpre).2
    exact hnext u rfl

/-- A literal in front of a slot or of the end, or nothing if there is no text for one. -/
theorem Sound.literal? (h : Sound segs) (hholds : ¬ HoldsSlot t) (hnext : SlotFirst segs) :
    Sound (Template.literal? t ++ segs) := by
  unfold Template.literal?
  split
  · exact h
  · next hne => exact .literal hne hholds hnext h

/-! ## What the scan passes -/

/-- No slot begins in the text where it stands in front of the rest. -/
def Passed (t rest : Text) : Prop := ∀ b, b ≠ [] → b <:+ t → slot? (b ++ rest) = none

theorem passed_nil (rest : Text) : Passed [] rest := fun _ hne hb => absurd (List.suffix_nil.1 hb) hne

theorem Passed.concat {c : Char} (h : Passed t (c :: s)) (hc : slot? (c :: s) = none) : Passed (t ++ [c]) s := by
  intro b hne hb
  rcases List.suffix_concat_iff.1 hb with rfl | ⟨d, rfl, hd⟩
  · exact absurd rfl hne
  · rw [List.append_assoc]
    by_cases hnil : d = []
    · rw [hnil]
      exact hc
    · exact h d hnil hd

theorem Passed.not_holdsSlot (h : Passed t s) : ¬ HoldsSlot t := by
  rintro ⟨slot, hp, a, b, rfl⟩
  have hsome := slot?_slotText hp (b ++ s)
  have hnone := h (slotText slot ++ b) (List.cons_ne_nil _ _) ⟨a, (List.append_assoc ..).symm⟩
  rw [List.append_assoc, hsome] at hnone
  cases hnone

/-- The segments of a text behind characters that the scan has passed are sound. -/
theorem sound_segmentsFrom (h : Passed before.reverse s) : Sound (segmentsFrom before s) := by
  fun_induction segmentsFrom before s with
  | case1 before s slot rest hs hlt ih =>
    obtain ⟨hp, -⟩ := slot?_eq_some_iff.1 hs
    exact .literal? (.slot hp (ih (passed_nil rest))) h.not_holdsSlot (slotFirst_cons slot _)
  | case2 before hs =>
    rw [← List.append_nil (Template.literal? _)]
    exact .literal? .nil h.not_holdsSlot slotFirst_nil
  | case3 before c s hs ih =>
    apply ih
    rw [List.reverse_cons]
    exact h.concat hs

theorem eq_brace_of_text {c : Char} (hnext : SlotFirst segs) (h : text segs = c :: s) : c = '{' := by
  cases segs with
  | nil => cases h
  | cons seg segs =>
    cases seg with
    | literal u => exact absurd rfl (hnext u)
    | slot slot => exact (List.cons.inj h).1.symm

/-- What holds no slot is passed in front of the text of a slot and of nothing. -/
theorem passed_of_not_holdsSlot (hholds : ¬ HoldsSlot t) (hnext : SlotFirst segs) :
    Passed t (text segs) := by
  intro b hne hb
  rw [slot?_eq_none_iff]
  rintro slot hp ⟨rest, h⟩
  rcases List.append_eq_append_iff.1 h with ⟨d, rfl, -⟩ | ⟨d, hd, htext⟩
  · exact hholds ⟨slot, hp, (List.prefix_append ..).isInfix.trans hb.isInfix⟩
  · cases d with
    | nil =>
      rw [List.append_nil] at hd
      exact hholds ⟨slot, hp, hd ▸ hb.isInfix⟩
    | cons c d =>
      -- the slot would go on behind the text, over the brace of the next slot
      obtain ⟨x, b, rfl⟩ := List.exists_cons_of_ne_nil hne
      have htail := (List.cons.inj hd).2
      refine brace_notMem hp ?_
      rw [htail, eq_brace_of_text hnext htext]
      simp

/-- The scan goes over what it passes. -/
theorem segmentsFrom_append (h : Passed t s) (before : Text) :
    segmentsFrom before (t ++ s) = segmentsFrom (t.reverse ++ before) s := by
  induction t generalizing before with
  | nil => rfl
  | cons c t ih =>
    have htail : Passed t s := fun b hne hb => h b hne (hb.trans (List.suffix_cons ..))
    have hc : slot? (c :: (t ++ s)) = none := h (c :: t) (List.cons_ne_nil _ _) (List.suffix_refl _)
    rw [List.cons_append, segmentsFrom_cons hc, ih htail, List.reverse_cons, List.append_assoc]
    rfl

/-- A literal ends where the text does and where a slot begins. -/
theorem segmentsFrom_text (h : Sound segs) (hnext : SlotFirst segs) (before : Text) :
    segmentsFrom before (text segs) = Template.literal? before.reverse ++ segmentsFrom [] (text segs) := by
  cases h with
  | nil =>
    show segmentsFrom before [] = _ ++ segmentsFrom [] []
    rw [segmentsFrom_nil, segmentsFrom_nil]
    exact (List.append_nil _).symm
  | @slot slot segs hp _ =>
    show segmentsFrom before (slotText slot ++ text segs) = _ ++ segmentsFrom [] (slotText slot ++ text segs)
    rw [segmentsFrom_of_slot? (slot?_slotText hp _), segmentsFrom_of_slot? (slot?_slotText hp _)]
    rfl
  | literal => exact absurd rfl (hnext _)

/-- Sound segments that are written out as a template are read from it again. -/
theorem Sound.segments_text (h : Sound segs) : segments (text segs) = segs := by
  unfold segments
  induction h with
  | nil => exact segmentsFrom_nil []
  | @slot slot segs hp _ ih =>
    show segmentsFrom [] (slotText slot ++ text segs) = _
    rw [segmentsFrom_of_slot? (slot?_slotText hp _), ih]
    rfl
  | @literal t segs hne hholds hnext hs ih =>
    show segmentsFrom [] (t ++ text segs) = _
    rw [segmentsFrom_append (passed_of_not_holdsSlot hholds hnext), List.append_nil, segmentsFrom_text hs hnext, ih,
      List.reverse_reverse, Template.literal?, if_neg hne]
    rfl

/-- The segments of a template are the sound ones that write it. -/
theorem segments_eq_iff {template : Text} : segments template = segs ↔ text segs = template ∧ Sound segs := by
  constructor
  · rintro rfl
    exact ⟨text_segmentsFrom [] template, sound_segmentsFrom (passed_nil template)⟩
  · rintro ⟨rfl, h⟩
    exact h.segments_text

theorem Plain.sound (h : Plain segs) : Sound segs := by
  have hplain {t : Text} (ht : '{' ∉ t) : ¬ HoldsSlot t := fun ⟨_, _, hslot⟩ => ht (hslot.mem (List.mem_cons_self ..))
  induction segs using Plain.induct with
  | case1 => exact .nil
  | case2 slot segs ih => exact .slot h.1 (ih h.2)
  | case3 t => exact .literal h.1 (hplain h.2) slotFirst_nil .nil
  | case4 t slot segs ih =>
    exact .literal h.1.1 (hplain h.1.2) (slotFirst_cons slot segs) (.slot h.2.1 (ih h.2.2))
  | case5 => exact h.elim

/-- Segments that are written out as a template are read from it again. -/
theorem segments_text (h : Plain segs) : segments (text segs) = segs := h.sound.segments_text

end Sound

end CodeAddress.Template
