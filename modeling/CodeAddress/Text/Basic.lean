/-
Texts as lists of characters, with the cuts the rest of the library reads them by: a text without
a leading mark (`after?`, which is the same for lists of any letters), the two sides of the first mark
(`cut?`), and the pieces between separators (`pieces`). `after?_eq_some_iff`, `eq_append_of_cut?` and
`joined_pieces` say that no cut loses anything.
-/

namespace CodeAddress

/-- A text, character by character. -/
abbrev Text := List Char

instance : Coe String Text := ⟨String.toList⟩

namespace Text

/-! ## Marks -/

section After

variable {α : Type} [DecidableEq α] {mark s r : List α}

/-- What follows `mark`, if the text begins with it. -/
def after? : (mark s : List α) → Option (List α)
  | [], s => some s
  | _ :: _, [] => none
  | m :: mark, c :: s => if m = c then after? mark s else none

theorem after?_eq_some_iff : after? mark s = some r ↔ s = mark ++ r := by
  induction mark generalizing s with
  | nil => simp [after?, eq_comm]
  | cons m mark ih =>
    cases s with
    | nil => simp [after?]
    | cons c s =>
      by_cases h : m = c
      · simp [after?, h, ih]
      · simp [after?, h, Ne.symm h]

def beginsWith (mark s : List α) : Bool := (after? mark s).isSome

theorem beginsWith_iff : beginsWith mark s = true ↔ mark <+: s := by
  rw [beginsWith, Option.isSome_iff_exists]
  exact exists_congr fun r => after?_eq_some_iff.trans eq_comm

end After

/-- The text before the first `mark` and the text after it. -/
def cut? (mark : Text) : Text → Option (Text × Text)
  | [] => none
  | c :: s =>
    match after? mark (c :: s) with
    | some rest => some ([], rest)
    | none => (cut? mark s).map fun p => (c :: p.1, p.2)

theorem eq_append_of_cut? {mark s a b : Text} (h : cut? mark s = some (a, b)) : s = a ++ (mark ++ b) := by
  induction s generalizing a with
  | nil => simp [cut?] at h
  | cons c s ih =>
    unfold cut? at h
    split at h
    · next rest hr => cases h; simpa using after?_eq_some_iff.1 hr
    · obtain ⟨⟨a', b'⟩, hp, he⟩ := Option.map_eq_some_iff.1 h
      cases he
      simp [ih hp]

/-- Whether `mark` occurs anywhere in the text. -/
def holds (mark s : Text) : Bool := (cut? mark s).isSome

def endsWith (mark s : Text) : Bool := beginsWith mark.reverse s.reverse

/-- The text with a slash at its end, added if it has none. -/
def slashed (s : Text) : Text := if endsWith ['/'] s then s else s ++ ['/']

/-! ## Pieces -/

/-- The pieces between the separators; a text without one is a single piece. -/
def pieces (sep : Char) : Text → List Text
  | [] => [[]]
  | c :: s =>
    if c = sep then [] :: pieces sep s
    else match pieces sep s with
      | [] => [[c]]
      | p :: ps => (c :: p) :: ps

/-- The pieces with the separator between each two of them. -/
def joined (sep : Char) : List Text → Text
  | [] => []
  | [p] => p
  | p :: ps => p ++ sep :: joined sep ps

theorem pieces_ne_nil (sep : Char) (s : Text) : pieces sep s ≠ [] := by
  cases s with
  | nil => simp [pieces]
  | cons c s =>
    unfold pieces
    split
    · simp
    · split <;> simp

/-- Joining the pieces of a text gives the text. -/
theorem joined_pieces (sep : Char) (s : Text) : joined sep (pieces sep s) = s := by
  induction s with
  | nil => rfl
  | cons c s ih =>
    obtain ⟨p, ps, h⟩ := List.exists_cons_of_ne_nil (pieces_ne_nil sep s)
    rw [h] at ih
    by_cases hc : c = sep
    · simp only [pieces, hc, if_pos, h, joined, List.nil_append, ih]
    · simp only [pieces, hc, if_false, h]
      cases ps <;> simpa [joined] using ih

/-- No piece holds the separator. -/
theorem notMem_of_mem_pieces {sep : Char} {s p : Text} (h : p ∈ pieces sep s) : sep ∉ p := by
  induction s generalizing p with
  | nil => simp [pieces] at h; simp [h]
  | cons c s ih =>
    obtain ⟨q, qs, hq⟩ := List.exists_cons_of_ne_nil (pieces_ne_nil sep s)
    by_cases hc : c = sep
    · simp only [pieces, hc, if_pos, List.mem_cons] at h
      rcases h with rfl | h
      · simp
      · exact ih h
    · simp only [pieces, hc, if_false, hq, List.mem_cons] at h
      rcases h with rfl | h
      · have := ih (p := q) (by simp [hq])
        simp [this, Ne.symm hc]
      · exact ih (by simp [hq, h])

/-! ## ASCII -/

def isAscii (c : Char) : Bool := c.toNat < 0x80

/-- The lower-case form of the ASCII letters; all else stays. -/
def lower (s : Text) : Text := s.map Char.toLower

/-- The upper-case form of the ASCII letters; all else stays. -/
def upper (s : Text) : Text := s.map Char.toUpper

/-- The text without its leading and trailing characters of a class. -/
def trim (p : Char → Bool) (s : Text) : Text := ((s.dropWhile p).reverse.dropWhile p).reverse

end Text

end CodeAddress
