/-
Path templates. A template is literal text with slots in braces: `{Name}` must be filled, `{@Name}`
and `{/Name}` are written with their lead character or left out. `segments` cuts a template at its
slots, from left to right; a brace that begins no slot is literal text.
-/
import CodeAddress.Text.WordChar

namespace CodeAddress

/-- A place in a template that a route variable fills. -/
structure Slot where
  name : Text
  /-- The character before the value, in a slot that may be left out. -/
  lead : Option Char := none
deriving DecidableEq, Repr

def Slot.optional (s : Slot) : Bool := s.lead.isSome

inductive Segment where
  | literal (t : Text)
  | slot (s : Slot)
deriving DecidableEq, Repr

namespace Template

/-! ## Slots -/

/-- The lead character of a slot and the text after it. -/
def lead : Text → Option Char × Text
  | '@' :: s => (some '@', s)
  | '/' :: s => (some '/', s)
  | s => (none, s)

/-- The slot that begins a text, and the text after it. -/
def slot? : Text → Option (Slot × Text)
  | '{' :: s =>
    let name := (lead s).2.takeWhile Text.isWordChar
    match (lead s).2.dropWhile Text.isWordChar with
    | '}' :: rest => if name = [] then none else some ({ name, lead := (lead s).1 }, rest)
    | _ => none
  | _ => none

theorem length_lead_le (s : Text) : (lead s).2.length ≤ s.length := by
  unfold lead; split <;> simp

theorem length_lt_of_slot? {s rest : Text} {slot : Slot} (h : slot? s = some (slot, rest)) :
    rest.length < s.length := by
  unfold slot? at h
  split at h
  · next s =>
    split at h
    · next t ht =>
      dsimp only at h
      split at h
      · cases h
      · cases h
        have h1 := length_lead_le s
        have h2 := (List.dropWhile_sublist (l := (lead s).2) Text.isWordChar).length_le
        rw [ht] at h2
        simp only [List.length_cons] at h2 ⊢
        omega
    · cases h
  · cases h

/-! ## Segments -/

/-- A literal segment, unless there is no text for one. -/
def literal? (t : Text) : List Segment := if t = [] then [] else [.literal t]

/-- The segments of a text that follows the literal characters `before`, latest first. -/
def segmentsFrom (before s : Text) : List Segment :=
  match h : slot? s with
  | some (slot, rest) =>
    have := length_lt_of_slot? h
    literal? before.reverse ++ .slot slot :: segmentsFrom [] rest
  | none => match s with
    | [] => literal? before.reverse
    | c :: s => segmentsFrom (c :: before) s
termination_by s.length

def segments (template : Text) : List Segment := segmentsFrom [] template

def names (segs : List Segment) : List Text :=
  segs.filterMap fun
    | .literal _ => none
    | .slot s => some s.name

/-- Whether every slot has a proper name, and one of its own. -/
def wellNamed (segs : List Segment) : Bool := (names segs).all Text.isName && decide (names segs).Nodup

end Template

end CodeAddress
