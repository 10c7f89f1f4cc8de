/-
Paths in normal form. Straightening leaves a path without dot segments (`straight_straighten`), does nothing to one
that has none (`straighten_of_straight`), and keeps what such a path adds below a directory (`straighten_below`).
Quoting makes no dot segment of another segment, so that both steps done a second time change nothing
(`straighten_quote`).
-/
import CodeAddress.Proofs.Text.Basic
import CodeAddress.Proofs.Text.Percent
import CodeAddress.Url.Basic

namespace CodeAddress.Url

variable {kept segs : List Text} {seg p q : Text}

/-! ## Dot segments -/

/-- A segment that is a step in the path. -/
def IsDot (seg : Text) : Prop := seg = ['.'] ∨ seg = ['.', '.']

instance (seg : Text) : Decidable (IsDot seg) := inferInstanceAs (Decidable (_ ∨ _))

theorem dropDots_cons (h : ¬ IsDot seg) : dropDots kept (seg :: segs) = dropDots (seg :: kept) segs := by
  rw [dropDots]
  · rintro rfl
    exact h (.inl rfl)
  · rintro rfl
    exact h (.inr rfl)

theorem dropDots_append (kept segs more : List Text) :
    dropDots kept (segs ++ more) = dropDots (dropDots kept segs).reverse more := by
  induction segs generalizing kept with
  | nil => rw [List.nil_append, dropDots, List.reverse_reverse]
  | cons seg segs ih =>
    by_cases h : IsDot seg
    · rcases h with rfl | rfl
      · rw [List.cons_append, dropDots, dropDots, ih]
      · rw [List.cons_append, dropDots, dropDots, ih]
    · rw [List.cons_append, dropDots_cons h, dropDots_cons h, ih]

theorem dropDots_of_forall (h : ∀ seg ∈ segs, ¬ IsDot seg) : dropDots kept segs = kept.reverse ++ segs := by
  induction segs generalizing kept with
  | nil => rw [dropDots, List.append_nil]
  | cons seg segs ih =>
    obtain ⟨hseg, hsegs⟩ := List.forall_mem_cons.1 h
    rw [dropDots_cons hseg, ih hsegs, List.reverse_cons, List.append_assoc]
    rfl

/-- What is left is from the path and no dot segment. -/
theorem mem_dropDots (h : seg ∈ dropDots kept segs) : seg ∈ kept ∨ seg ∈ segs ∧ ¬ IsDot seg := by
  induction segs generalizing kept with
  | nil => exact .inl (List.mem_reverse.1 h)
  | cons s segs ih =>
    -- a dot segment is dropped, and the segments kept become fewer at most
    have hlater {l : List Text} (hl : ∀ t ∈ l, t ∈ kept) (h : seg ∈ dropDots l segs) :
        seg ∈ kept ∨ seg ∈ s :: segs ∧ ¬ IsDot seg := by
      rcases ih h with h | ⟨h, hd⟩
      · exact .inl (hl _ h)
      · exact .inr ⟨List.mem_cons_of_mem _ h, hd⟩
    by_cases hs : IsDot s
    · rcases hs with rfl | rfl
      · exact hlater (fun _ ht => ht) h
      · refine hlater (fun t ht => ?_) h
        split at ht
        · exact ht
        · exact List.mem_of_mem_drop ht
    · rw [dropDots_cons hs] at h
      rcases ih h with h | ⟨h, hd⟩
      · rcases List.mem_cons.1 h with rfl | h
        · exact .inr ⟨List.mem_cons_self .., hs⟩
        · exact .inl h
      · exact .inr ⟨List.mem_cons_of_mem _ h, hd⟩

/-- The root is never taken back. -/
theorem exists_dropDots_root (kept segs : List Text) : ∃ rest, dropDots (kept ++ [[]]) segs = [] :: rest := by
  induction segs generalizing kept with
  | nil => exact ⟨kept.reverse, by simp [dropDots]⟩
  | cons seg segs ih =>
    by_cases h : IsDot seg
    · rcases h with rfl | rfl
      · exact ih kept
      · rw [dropDots]
        cases kept with
        | nil => exact ih []
        | cons s kept =>
          rw [if_neg (by simp)]
          exact ih kept
    · rw [dropDots_cons h]
      exact ih (seg :: kept)

/-! ## Straight paths -/

/-- No segment is a dot segment. -/
def Straight (path : Text) : Prop := ∀ seg ∈ Text.pieces '/' path, ¬ IsDot seg

theorem straight_nil : Straight [] := by
  intro seg h
  rw [List.mem_singleton.1 h]
  decide

theorem straight_of_append_slash (h : Straight (q ++ '/' :: p)) : Straight p := by
  intro seg hseg
  refine h seg ?_
  rw [Text.pieces_append_cons]
  exact List.mem_append_right _ hseg

theorem straighten_of_straight (h : Straight p) : straighten p = p := by
  rw [straighten, dropDots_of_forall h]
  exact Text.joined_pieces '/' p

theorem straight_straighten (p : Text) : Straight (straighten p) := by
  by_cases hd : dropDots [] (Text.pieces '/' p) = []
  · rw [straighten, hd]
    exact straight_nil
  · intro seg h
    rw [straighten, Text.pieces_joined hd] at h
    · rcases mem_dropDots h with h | ⟨-, h⟩
      · cases h
      · exact h
    · intro seg hseg
      rcases mem_dropDots hseg with h | ⟨h, -⟩
      · cases h
      · exact Text.notMem_of_mem_pieces h

/-- A path that follows a place: nothing, or a path from the root. -/
def Rooted (path : Text) : Prop := path = [] ∨ ∃ t, path = '/' :: t

/-- A straight path below a directory stays as it is, whatever becomes of the directory. -/
theorem straighten_below (hq : Rooted q) (hp : Straight p) :
    straighten (q ++ '/' :: p) = straighten q ++ '/' :: p := by
  -- the segments of a rooted path begin with an empty one, which is kept
  have hroot : ∃ rest, dropDots [] (Text.pieces '/' q) = [] :: rest := by
    rcases hq with rfl | ⟨t, rfl⟩
    · exact ⟨[], rfl⟩
    · exact exists_dropDots_root [] (Text.pieces '/' t)
  have hne : dropDots [] (Text.pieces '/' q) ≠ [] := by
    obtain ⟨rest, h⟩ := hroot
    rw [h]
    exact List.cons_ne_nil _ _
  rw [straighten, Text.pieces_append_cons, dropDots_append, dropDots_of_forall hp, List.reverse_reverse,
    Text.joined_append hne (Text.pieces_ne_nil _ _), Text.joined_pieces, straighten]

theorem straight_cons {c : Char} (hc : c ≠ '.') (h : Straight p) : Straight (c :: p) := by
  intro seg hseg
  obtain ⟨first, tail, hp⟩ := List.exists_cons_of_ne_nil (Text.pieces_ne_nil '/' p)
  rw [Text.pieces] at hseg
  split at hseg
  · rcases List.mem_cons.1 hseg with rfl | hseg
    · decide
    · exact h seg hseg
  · rw [hp] at hseg
    rcases List.mem_cons.1 hseg with rfl | hseg
    · rintro (h | h)
      · exact hc (List.cons.inj h).1
      · exact hc (List.cons.inj h).1
    · exact h seg (hp ▸ List.mem_cons_of_mem _ hseg)

/-- Straight texts are straight together if they meet at a slash or at a character that no dot segment has. -/
theorem straight_append (hp : Straight p) (hq : Straight q) (hc : ∀ c ∈ q.head?, c = '/' ∨ c = '@') :
    Straight (p ++ q) := by
  obtain ⟨init, last, first, tail, hpp, hqq, hpq⟩ := Text.pieces_append '/' p q
  -- the segments at the seam become one, `last ++ first`
  have hfirst : first = [] ∨ '@' ∈ first := by
    cases q with
    | nil =>
      cases hqq
      exact .inl rfl
    | cons c q =>
      rw [Text.pieces] at hqq
      rcases hc c rfl with rfl | rfl
      · rw [if_pos rfl] at hqq
        cases hqq
        exact .inl rfl
      · obtain ⟨f, t, hf⟩ := List.exists_cons_of_ne_nil (Text.pieces_ne_nil '/' q)
        rw [if_neg (by decide), hf] at hqq
        cases hqq
        exact .inr (List.mem_cons_self ..)
  intro seg hseg
  rw [hpq] at hseg
  rcases List.mem_append.1 hseg with h | h
  · exact hp seg (hpp ▸ List.mem_append_left _ h)
  rcases List.mem_cons.1 h with rfl | h
  · rcases hfirst with rfl | hat
    · rw [List.append_nil]
      exact hp last (hpp ▸ List.mem_append_right _ (List.mem_singleton_self last))
    · have hmem : '@' ∈ last ++ first := List.mem_append_right _ hat
      rintro (h | h)
      · rw [h] at hmem
        revert hmem
        decide
      · rw [h] at hmem
        revert hmem
        decide
  · exact hq seg (hqq ▸ List.mem_cons_of_mem _ h)

/-! ## Quoting -/

theorem isDot_of_quote {safe : Char → Bool} (h : IsDot (Percent.quote safe seg)) : IsDot seg := by
  have hs : Percent.quote safe seg = seg := by
    refine Percent.eq_of_percent_notMem_quote ?_
    rcases h with h | h
    · rw [h]
      decide
    · rw [h]
      decide
  rwa [hs] at h

theorem straight_quote {safe : Char → Bool} (hs : safe '/' = true) (h : Straight p) :
    Straight (Percent.quote safe p) := by
  intro seg hseg
  rw [Percent.pieces_quote hs] at hseg
  obtain ⟨t, ht, rfl⟩ := List.mem_map.1 hseg
  exact fun hd => h t ht (isDot_of_quote hd)

theorem safeInPath_slash : safeInPath '/' = true := by decide

theorem safeInPath_percent : safeInPath '%' = true := by decide

theorem safeInPath_hexDigit : ∀ n < 16, safeInPath (Percent.hexDigit n) = true := by decide

theorem safeInPath_of_unreserved {c : Char} (h : Percent.unreserved c = true) : safeInPath c = true := by
  have hascii : c.toNat < 128 := of_decide_eq_true (Percent.inert_unreserved c h).1
  have hall : ∀ n < 128, Percent.unreserved (Char.ofNat n) = true → safeInPath (Char.ofNat n) = true := by
    decide +kernel
  rw [← Char.ofNat_toNat c] at h ⊢
  exact hall _ hascii h

theorem safeInPath_marks : safeInPath '?' = false ∧ safeInPath '#' = false := by decide

theorem question_notMem_quote (p : Text) : '?' ∉ Percent.quote safeInPath p := by
  rw [Percent.mem_quote_iff (by decide) (by decide), safeInPath_marks.1]
  exact fun h => Bool.false_ne_true h.2

/-- A path in normal form stays as it is when it is brought into normal form once more. -/
theorem straighten_quote (p : Text) :
    Percent.quote safeInPath (straighten (Percent.quote safeInPath (straighten p))) =
      Percent.quote safeInPath (straighten p) := by
  rw [straighten_of_straight (straight_quote safeInPath_slash (straight_straighten p)),
    Percent.quote_quote safeInPath_percent safeInPath_hexDigit]

end CodeAddress.Url
