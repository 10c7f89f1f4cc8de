/-
Quoted values. A value is quoted piece by piece (`quoteValue_eq_joined`), and what comes out is read back as the
value (`unquote_quoteValue`), is made of unreserved characters, escapes and slashes (`escaped_quoteValue`), has no piece
that is a dot segment (`pieces_quoteValue`, `quotePiece_ne_dot`) and reads as the separator only where the value does
(`holds_separator_quoteValue_iff`).
-/
import CodeAddress.Proofs.Text.Basic
import CodeAddress.Proofs.Text.Percent
import CodeAddress.Route.Quote

namespace CodeAddress.Route

open Percent

theorem inert_safe (name : Text) : Inert (safe name) := by
  intro c h
  simp only [safe, Bool.or_eq_true, Bool.and_eq_true, beq_iff_eq] at h
  rcases h with h | ⟨rfl, -⟩
  · exact inert_unreserved c h
  · decide

/-! ## Pieces of a value -/

/-- A piece of a value as it stands in a path. -/
def quotePiece (name piece : Text) : Text := hideDots (quote (safe name) piece)

/-- What is quoted one by one: the segments of a value, or a unit type as a whole. -/
def valuePieces (name value : Text) : List Text :=
  if name = Var.unitType then [value] else Text.pieces '/' value

theorem valuePieces_ne_nil (name value : Text) : valuePieces name value ≠ [] := by
  unfold valuePieces
  split
  · exact List.cons_ne_nil _ _
  · exact Text.pieces_ne_nil _ _

theorem joined_valuePieces (name value : Text) : Text.joined '/' (valuePieces name value) = value := by
  unfold valuePieces
  split
  · rfl
  · exact Text.joined_pieces _ _

/-- Nothing but an unreserved character of a piece stands for itself. -/
theorem unreserved_of_mem_piece {name value p : Text} {c : Char} (hp : p ∈ valuePieces name value) (hc : c ∈ p)
    (hs : safe name c = true) : unreserved c = true := by
  simp only [safe, Bool.or_eq_true, Bool.and_eq_true, beq_iff_eq, bne_iff_ne] at hs
  rcases hs with hs | ⟨rfl, hn⟩
  · exact hs
  · rw [valuePieces, if_neg hn] at hp
    exact absurd hc (Text.notMem_of_mem_pieces hp)

theorem escaped_quote_piece {name value p : Text} (hp : p ∈ valuePieces name value) :
    Escaped (fun c => unreserved c = true) (quote (safe name) p) :=
  escaped_quote fun _ hc hs => unreserved_of_mem_piece hp hc hs

theorem escaped_quotePiece {name value p : Text} (hp : p ∈ valuePieces name value) :
    Escaped (fun c => unreserved c = true) (quotePiece name p) := by
  have hdot : Escaped (fun c => unreserved c = true) "%2E" := .escape (by decide) (by decide) .nil
  unfold quotePiece hideDots
  split
  · exact hdot
  split
  · exact hdot.append hdot
  · exact escaped_quote_piece hp

theorem slash_notMem_of_escaped {t : Text} (ht : Escaped (fun c => unreserved c = true) t) : '/' ∉ t := by
  intro h
  rcases ht.mem h with h | h | h <;> revert h <;> decide

/-- Cutting the quoted value at its slashes gives the quoted pieces of the value. -/
theorem pieces_quote_safe (name value : Text) :
    Text.pieces '/' (quote (safe name) value) = (valuePieces name value).map (quote (safe name)) := by
  by_cases hn : name = Var.unitType
  · have hv : valuePieces name value = [value] := if_pos hn
    have hmem : value ∈ valuePieces name value := by simp [hv]
    rw [hv, Text.pieces_of_notMem (slash_notMem_of_escaped (escaped_quote_piece hmem))]
    rfl
  · rw [pieces_quote (by simp [safe, hn]), valuePieces, if_neg hn]

/-- A value is quoted piece by piece. -/
theorem quoteValue_eq_joined (name value : Text) :
    quoteValue name value = Text.joined '/' ((valuePieces name value).map (quotePiece name)) := by
  rw [quoteValue, pieces_quote_safe, List.map_map]
  rfl

theorem pieces_quoteValue (name value : Text) :
    Text.pieces '/' (quoteValue name value) = (valuePieces name value).map (quotePiece name) := by
  rw [quoteValue_eq_joined]
  refine Text.pieces_joined (by simp [valuePieces_ne_nil]) ?_
  intro p hp
  obtain ⟨q, hq, rfl⟩ := List.mem_map.1 hp
  exact slash_notMem_of_escaped (escaped_quotePiece hq)

/-- No quoted piece is a dot segment. -/
theorem quotePiece_ne_dot (name piece : Text) : quotePiece name piece ≠ ['.'] ∧ quotePiece name piece ≠ ['.', '.'] := by
  unfold quotePiece hideDots
  split
  · exact ⟨by decide, by decide⟩
  split
  · exact ⟨by decide, by decide⟩
  · next h1 h2 => exact ⟨h1, h2⟩

/-! ## What a quoted value holds -/

/-- The characters that stand for themselves in the quoted value of a variable. -/
def Bare (name : Text) (c : Char) : Prop :=
  c.isAlphanum = true ∨ c ∈ ['_', '.', '-', '~'] ∨ c = '/' ∧ name ≠ Var.unitType

theorem bare_iff {name : Text} {c : Char} : Bare name c ↔ unreserved c = true ∨ c = '/' ∧ name ≠ Var.unitType := by
  simp only [Bare, unreserved, Bool.or_eq_true, beq_iff_eq, List.mem_cons, List.not_mem_nil, or_false, or_assoc]

theorem escaped_quoteValue (name value : Text) : Escaped (Bare name) (quoteValue name value) := by
  rw [quoteValue_eq_joined]
  refine escaped_joined (fun p hp => ?_) ?_
  · obtain ⟨q, hq, rfl⟩ := List.mem_map.1 hp
    exact (escaped_quotePiece hq).mono fun c hc => bare_iff.2 (.inl hc)
  -- a unit type is one piece, so no slash joins anything
  · by_cases hn : name = Var.unitType
    · exact .inl (by simp [valuePieces, hn])
    · exact .inr (bare_iff.2 (.inr ⟨rfl, hn⟩))

/-- A quoted value holds unreserved characters, percent signs and, except in a unit type, slashes. -/
theorem mem_quoteValue {name value : Text} {c : Char} (h : c ∈ quoteValue name value) :
    unreserved c = true ∨ c = '%' ∨ c = '/' ∧ name ≠ Var.unitType := by
  have hdigits : (digits.all unreserved) = true := by decide
  rcases (escaped_quoteValue name value).mem h with hc | hc | hc
  · exact (bare_iff.1 hc).imp_right .inr
  · exact .inr (.inl hc)
  · exact .inl (List.all_eq_true.1 hdigits c hc)

/-! ## Reading back -/

theorem spells_quotePiece (name piece : Text) : Spells (quotePiece name piece) (Utf8.encode piece) := by
  have hq := spells_quote (inert_safe name) piece
  unfold quotePiece hideDots
  split
  · next h =>
    have hp : quote (safe name) piece = piece := eq_of_percent_notMem_quote (by rw [h]; decide)
    rw [← hp, h]
    exact spells_escape 0x2E
  split
  · next h =>
    have hp : quote (safe name) piece = piece := eq_of_percent_notMem_quote (by rw [h]; decide)
    rw [← hp, h]
    exact (spells_escape 0x2E).append (spells_escape 0x2E)
  · exact hq

theorem spells_joined {f : Text → Text} (hf : ∀ p, Spells (f p) (Utf8.encode p)) (ps : List Text) :
    Spells (Text.joined '/' (ps.map f)) (Utf8.encode (Text.joined '/' ps)) := by
  induction ps with
  | nil => exact .nil
  | cons p ps ih =>
    cases ps with
    | nil => exact hf p
    | cons q qs =>
      have hslash : Spells ['/'] (Utf8.encode ['/']) := spells_ascii (by decide) (by decide)
      have := (hf p).append (hslash.append ih)
      rwa [← Utf8.encode_append, ← Utf8.encode_append] at this

/-- A quoted value is read back as the value, for every variable and every text. -/
theorem unquote_quoteValue (name value : Text) : unquote (quoteValue name value) = value := by
  apply Spells.unquote
  have := spells_joined (spells_quotePiece name) (valuePieces name value)
  rwa [joined_valuePieces, ← quoteValue_eq_joined] at this

theorem quoteValue_injective (name : Text) : Function.Injective (quoteValue name) := by
  intro v w h
  rw [← unquote_quoteValue name v, h, unquote_quoteValue]

theorem quoteValue_nil (name : Text) : quoteValue name [] = [] := by
  simp [quoteValue, Text.pieces, Text.joined, hideDots]

theorem quoteValue_eq_nil_iff {name value : Text} : quoteValue name value = [] ↔ value = [] := by
  constructor
  · intro h
    exact quoteValue_injective name (h.trans (quoteValue_nil name).symm)
  · rintro rfl
    exact quoteValue_nil name

/-! ## Separators -/

theorem quotePiece_eq_hyphen_iff {name piece : Text} : quotePiece name piece = ['-'] ↔ piece = ['-'] := by
  have hyphen : quotePiece name ['-'] = ['-'] := by
    have hsafe : ∀ c ∈ ['-'], safe name c = true := by simp [safe, unreserved]
    rw [quotePiece, quote_of_forall hsafe]
    rfl
  constructor
  · intro h
    rw [← (spells_quotePiece name piece).unquote, h]
    rfl
  · rintro rfl
    exact hyphen

theorem holds_separator_iff {t : Text} :
    Text.holds separator t = true ↔
      ∃ before after, before ≠ [] ∧ after ≠ [] ∧ Text.pieces '/' t = before ++ ['-'] :: after := by
  rw [Text.holds_iff (by decide), ← Text.infix_iff_pieces (by decide)]
  rfl

/-- A quoted value reads as the separator exactly if the value does, and not in a unit type. -/
theorem holds_separator_quoteValue_iff {name value : Text} :
    Text.holds separator (quoteValue name value ++ ['/']) = true ↔
      name ≠ Var.unitType ∧ Text.holds separator (value ++ ['/']) = true := by
  have hlast : Text.pieces '/' (quoteValue name value ++ ['/']) =
      (valuePieces name value).map (quotePiece name) ++ [[]] := by
    rw [Text.pieces_append_cons, pieces_quoteValue]
    rfl
  rw [holds_separator_iff, holds_separator_iff, hlast]
  by_cases hn : name = Var.unitType
  · -- two pieces have none between them
    have hv : valuePieces name value = [value] := if_pos hn
    refine iff_of_false ?_ fun h => h.1 hn
    rintro ⟨before, after, hb, ha, h⟩
    have hlen := congrArg List.length h
    have hb := List.length_pos_iff.2 hb
    have ha := List.length_pos_iff.2 ha
    simp only [hv, List.map_cons, List.map_nil, List.length_append, List.length_cons, List.length_nil] at hlen
    omega
  · have hv : valuePieces name value = Text.pieces '/' value := if_neg hn
    have hmap : (Text.pieces '/' value).map (quotePiece name) ++ [[]] =
        (Text.pieces '/' (value ++ ['/'])).map (quotePiece name) := by
      rw [Text.pieces_append_cons, List.map_append]
      rfl
    rw [hv, hmap, and_iff_right hn]
    constructor
    · rintro ⟨before, after, hb, ha, h⟩
      obtain ⟨before, rest, hps, rfl, hrest⟩ := List.map_eq_append_iff.1 h
      obtain ⟨piece, after, rfl, hpiece, rfl⟩ := List.map_eq_cons_iff.1 hrest
      rw [quotePiece_eq_hyphen_iff.1 hpiece] at hps
      exact ⟨before, after, mt List.map_eq_nil_iff.2 hb, mt List.map_eq_nil_iff.2 ha, hps⟩
    · rintro ⟨before, after, hb, ha, h⟩
      refine ⟨before.map (quotePiece name), after.map (quotePiece name), mt List.map_eq_nil_iff.1 hb,
        mt List.map_eq_nil_iff.1 ha, ?_⟩
      rw [h, List.map_append, List.map_cons, quotePiece_eq_hyphen_iff.2 rfl]

/-! ## Main statement -/

/-- A quoted value is made of bare characters and upper-case escapes, none of its segments is a dot segment, it is read
back as the value, so it is the quoted value of no other, and it reads as the separator exactly if the value does, and
never in a unit type. -/
theorem quoteValue_lossless (name value : Text) :
    Escaped (Bare name) (quoteValue name value) ∧
    ['.'] ∉ Text.pieces '/' (quoteValue name value) ∧ ['.', '.'] ∉ Text.pieces '/' (quoteValue name value) ∧
    unquote (quoteValue name value) = value ∧ Function.Injective (quoteValue name) ∧
    (separator <:+: quoteValue name value ++ ['/'] ↔ name ≠ Var.unitType ∧ separator <:+: value ++ ['/']) := by
  have hdots : ∀ p ∈ Text.pieces '/' (quoteValue name value), p ≠ ['.'] ∧ p ≠ ['.', '.'] := by
    intro p hp
    rw [pieces_quoteValue] at hp
    obtain ⟨q, -, rfl⟩ := List.mem_map.1 hp
    exact quotePiece_ne_dot name q
  refine ⟨escaped_quoteValue name value, fun h => (hdots _ h).1 rfl, fun h => (hdots _ h).2 rfl,
    unquote_quoteValue name value, quoteValue_injective name, ?_⟩
  have hne : separator ≠ [] := by decide
  rw [← Text.holds_iff hne, ← Text.holds_iff hne]
  exact holds_separator_quoteValue_iff

/-- In a unit type the slashes of a value are escaped, so it is one segment; elsewhere each segment of dots is hidden.
-/
example :
    quoteValue Var.rev "./..a/-/é@" = "%2E/..a/-/%C3%A9%40".toList ∧
      quoteValue Var.unitType "./..a/-/é@" = ".%2F..a%2F-%2F%C3%A9%40".toList := by
  decide

end CodeAddress.Route
