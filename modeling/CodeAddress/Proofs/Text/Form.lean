/-
Reading back what `Form.render` writes. A side of a pair holds neither of the two marks that part sides and pairs, so
the pairs are found again (`parse_render`), and a blank, which is written as a plus sign, is told from a plus sign,
which is written as an escape (`decode_encode`).
-/
import CodeAddress.Proofs.Text.Percent
import CodeAddress.Text.Form

namespace CodeAddress.Form

variable {s : Text} {c : Char} {pairs : List (Text × Text)}

/-! ## One side of a pair -/

/-- What a plus sign stands for. -/
def plain (c : Char) : Char := if c = '+' then ' ' else c

/-- The characters that stand for themselves once plus signs are read. -/
def safe (c : Char) : Bool := Percent.unreserved c || c == ' '

theorem inert_safe : Percent.Inert safe := by
  intro c h
  rcases Bool.or_eq_true_iff.1 h with h | h
  · exact Percent.inert_unreserved c h
  · rw [beq_iff_eq.1 h]
    decide

/-- A side of a pair holds unreserved characters, percent signs and plus signs. -/
theorem mem_encode (h : c ∈ encode s) : Percent.unreserved c = true ∨ c = '%' ∨ c = '+' := by
  obtain ⟨d, -, hd⟩ := List.mem_flatMap.1 h
  split at hd
  · exact .inr (.inr (List.mem_singleton.1 hd))
  · have hq : c ∈ Percent.quote Percent.unreserved [d] := List.mem_flatMap.2 ⟨d, List.mem_singleton_self d, hd⟩
    rcases Percent.mem_quote hq with hc | hc | ⟨n, hn, rfl⟩
    · exact .inl hc
    · exact .inr (.inl hc)
    · exact .inl (Percent.unreserved_hexDigit n hn)

theorem map_plain_of_notMem (h : '+' ∉ s) : s.map plain = s := by
  refine (List.map_congr_left fun c hc => ?_).trans (List.map_id s)
  refine if_neg ?_
  rintro rfl
  exact h hc

theorem plus_notMem_quote (s : Text) : '+' ∉ Percent.quote Percent.unreserved s := by
  rw [Percent.mem_quote_iff (by decide) (by decide), not_and]
  exact fun _ => by decide

/-- With plus signs read, a side is the text with blanks left as they are. -/
theorem map_plain_encode (s : Text) : (encode s).map plain = Percent.quote safe s := by
  induction s with
  | nil => rfl
  | cons c s ih =>
    rw [encode, List.flatMap_cons, List.map_append, Percent.quote_cons, ← ih]
    congr 1
    split
    · next hc =>
      rw [hc]
      rfl
    · next hc =>
      have hsafe : safe c = Percent.unreserved c := by simp [safe, hc]
      have hplus : '+' ∉ Percent.quoteChar Percent.unreserved c := fun h =>
        plus_notMem_quote [c] (List.mem_flatMap.2 ⟨c, List.mem_singleton_self c, h⟩)
      rw [map_plain_of_notMem hplus, Percent.quoteChar, Percent.quoteChar, hsafe]

theorem decode_encode (s : Text) : decode (encode s) = s := by
  change Percent.unquote ((encode s).map plain) = s
  rw [map_plain_encode]
  exact (Percent.spells_quote inert_safe s).unquote

/-! ## Pairs -/

theorem mark_notMem_encode (s : Text) : '&' ∉ encode s ∧ '=' ∉ encode s := by
  constructor
  · intro h
    rcases mem_encode h with h | h | h <;> revert h <;> decide
  · intro h
    rcases mem_encode h with h | h | h <;> revert h <;> decide

/-- The item of a pair. -/
def itemOf (p : Text × Text) : Text := encode p.1 ++ '=' :: encode p.2

theorem item_itemOf (p : Text × Text) : item (itemOf p) = p := by
  rw [item, itemOf, Text.cut?_append_cons (mark_notMem_encode p.1).2]
  simp only [decode_encode]

theorem ampersand_notMem_itemOf (p : Text × Text) : '&' ∉ itemOf p := by
  have h1 := (mark_notMem_encode p.1).1
  have h2 := (mark_notMem_encode p.2).1
  simp [itemOf, h1, h2]

/-- Written pairs hold the characters of their sides and the two marks. -/
theorem mem_render (h : c ∈ render pairs) : Percent.unreserved c = true ∨ c ∈ ['%', '+', '=', '&'] := by
  rcases Text.mem_joined h with rfl | ⟨item, hitem, hc⟩
  · exact .inr (by decide)
  · obtain ⟨p, -, rfl⟩ := List.mem_map.1 hitem
    have hside : c = '=' ∨ ∃ s, c ∈ encode s := by
      rcases List.mem_append.1 hc with hc | hc
      · exact .inr ⟨_, hc⟩
      · exact (List.mem_cons.1 hc).imp_right fun hc => ⟨_, hc⟩
    rcases hside with rfl | ⟨s, hc⟩
    · exact .inr (by decide)
    · rcases mem_encode hc with h | rfl | rfl
      · exact .inl h
      · exact .inr (by decide)
      · exact .inr (by decide)

/-- The pairs that are written are read back, in their order. -/
theorem parse_render (pairs : List (Text × Text)) : parse (render pairs) = pairs := by
  by_cases hne : pairs = []
  · rw [hne]
    rfl
  have hpieces : Text.pieces '&' (render pairs) = pairs.map itemOf := by
    refine Text.pieces_joined (by simpa using hne) fun item hitem => ?_
    obtain ⟨p, -, rfl⟩ := List.mem_map.1 hitem
    exact ampersand_notMem_itemOf p
  have hfilter : (pairs.map itemOf).filter (· ≠ []) = pairs.map itemOf := by
    refine List.filter_eq_self.2 fun item hitem => ?_
    obtain ⟨p, -, rfl⟩ := List.mem_map.1 hitem
    simp [itemOf]
  rw [parse, hpieces, hfilter, List.map_map]
  exact (List.map_congr_left fun p _ => item_itemOf p).trans (List.map_id pairs)

end CodeAddress.Form
