/-
Paths of templates as paths of URLs. Where the literals of a template are free of dots and of characters with a
meaning in a URL (`tame`), a filled path holds safe characters only (`safeInPath_of_mem_written`) and has no dot
segments (`straight_written`): the values have none of their own, and every slot stands between slashes or `@`.
-/
import CodeAddress.Proofs.Route.Fill
import CodeAddress.Proofs.Url.Path

namespace CodeAddress

/-! ## Characters -/

namespace Url

theorem straight_quoteValue (name value : Text) : Straight (Route.quoteValue name value) := by
  intro seg hseg
  rw [Route.pieces_quoteValue] at hseg
  obtain ⟨piece, -, rfl⟩ := List.mem_map.1 hseg
  obtain ⟨h1, h2⟩ := Route.quotePiece_ne_dot name piece
  rintro (h | h)
  · exact h1 h
  · exact h2 h

end Url

namespace Template

/-- Whether the literal text of a segment is unreserved, but for slashes, and without dots, and its lead begins a
new part of the path. -/
def tameSegment : Segment → Bool
  | .literal t => t.all fun c => (Percent.unreserved c || c == '/') && c != '.'
  | .slot slot => slot.lead.toList.all fun c => c == '/' || c == '@'

/-- Whether each segment is tame. -/
def tame (segs : List Segment) : Bool := segs.all tameSegment

end Template

namespace Endpoint

open Template Url

variable {v : Vars} {seg : Segment} {segs : List Segment}

theorem mem_written {c : Char} (ht : tameSegment seg = true) (h : c ∈ written v seg) :
    Percent.unreserved c = true ∨ c = '%' ∨ c = '/' ∨ c = '@' := by
  cases seg with
  | literal t =>
    have := List.all_eq_true.1 ht c h
    simp only [Bool.and_eq_true, Bool.or_eq_true, beq_iff_eq] at this
    exact this.1.imp_right fun h => .inr (.inl h)
  | slot s =>
    rw [written] at h
    split at h
    · cases h
    · rcases List.mem_append.1 h with h | h
      · have := List.all_eq_true.1 ht c h
        simp only [Bool.or_eq_true, beq_iff_eq] at this
        exact .inr (.inr this)
      · exact (Route.mem_quoteValue h).imp_right fun h => h.imp_right fun h => .inl h.1

/-- A filled path holds no character that a URL would read as a mark or quote. -/
theorem safeInPath_of_mem_written {c : Char} (ht : tame segs = true) (h : c ∈ segs.flatMap (written v)) :
    safeInPath c = true ∧ c ≠ ':' := by
  obtain ⟨seg, hseg, hc⟩ := List.mem_flatMap.1 h
  -- the leads and the marks of escapes are the only characters that are not unreserved
  rcases mem_written (List.all_eq_true.1 ht seg hseg) hc with h | rfl | rfl | rfl
  · refine ⟨safeInPath_of_unreserved h, ?_⟩
    rintro rfl
    revert h
    decide
  all_goals decide

theorem head_of_admits {name s : Text} (h : admits name s = false) : ∀ c ∈ s.head?, c = '/' ∨ c = '@' := by
  intro c hc
  cases s with
  | nil => cases hc
  | cons d s =>
    cases hc
    rw [admits] at h
    split at h
    · next hat => exact .inr hat
    split at h
    · exact .inl (not_not.1 (of_decide_eq_false h))
    · rw [decide_eq_false_iff_not, not_not, Text.beginsWith_iff, separator_eq] at h
      obtain ⟨r, hr⟩ := h
      cases hr
      exact .inl rfl

theorem straight_literal {t p : Text} (ht : ∀ c ∈ t, c ≠ '.') (h : Straight p) : Straight (t ++ p) := by
  induction t with
  | nil => exact h
  | cons c t ih =>
    obtain ⟨hc, ht⟩ := List.forall_mem_cons.1 ht
    exact straight_cons hc (ih ht)

/-- A filled path has no dot segments. -/
theorem straight_written (ht : tame segs = true) (hd : definite segs = true) (hf : ∀ seg ∈ segs, Fillable v seg) :
    Straight (segs.flatMap (written v)) := by
  induction segs with
  | nil => exact straight_nil
  | cons seg segs ih =>
    obtain ⟨-, hsegs⟩ := List.forall_mem_cons.1 hf
    rw [tame, List.all_cons, Bool.and_eq_true] at ht
    rw [List.flatMap_cons]
    cases seg with
    | literal t =>
      refine straight_literal (fun c hc => ?_) (ih ht.2 hd hsegs)
      have := List.all_eq_true.1 ht.1 c hc
      simp only [Bool.and_eq_true, bne_iff_ne] at this
      exact this.2
    | slot s =>
      obtain ⟨hset, hd⟩ := definite_slot.1 hd
      have hrest := ih ht.2 hd hsegs
      -- what follows a value begins where its slot takes no more
      have hhead := head_of_admits (admits_eq_false (stops_of_settled hset) (cut_written hd hsegs))
      rw [written]
      split
      · exact hrest
      · rw [List.append_assoc]
        refine straight_literal (fun c hc => ?_) (straight_append (straight_quoteValue _ _) hrest hhead)
        have := List.all_eq_true.1 ht.1 c hc
        simp only [Bool.or_eq_true, beq_iff_eq] at this
        rintro rfl
        revert this
        decide

end Endpoint

end CodeAddress
