/-
Values that a setting can be given as, with two texts for each: `Value.plain` takes a text as it is,
`Value.shown` writes it in quotes, and everything inside a list or table is shown. Equality is decided
by `Value.same`, since a type that is nested in lists has no derived one.
-/
import CodeAddress.Real.Shortest
import CodeAddress.Settings.Moment
import CodeAddress.Text.Quoted

namespace CodeAddress

/-- A value of a settings document or mapping; the fields of a table are in order. -/
inductive Value where
  | none
  | boolean (b : Bool)
  | integer (n : Int)
  | real (x : Binary64)
  | text (t : Text)
  | date (d : Date)
  | clock (t : Clock)
  | moment (m : Moment)
  | list (items : List Value)
  | table (fields : List (Text × Value))
deriving Inhabited, Repr

namespace Value

/-! ## Equality -/

mutual

/-- Whether two values are the same, the fields of a table in the same order. -/
def same : Value → Value → Bool
  | .none, .none => true
  | .boolean a, .boolean b => a == b
  | .integer m, .integer n => m == n
  | .real x, .real y => x == y
  | .text s, .text t => s == t
  | .date d, .date e => d == e
  | .clock t, .clock u => t == u
  | .moment m, .moment n => m == n
  | .list vs, .list ws => sameItems vs ws
  | .table fs, .table gs => sameFields fs gs
  | _, _ => false

def sameItems : List Value → List Value → Bool
  | [], [] => true
  | v :: vs, w :: ws => same v w && sameItems vs ws
  | _, _ => false

def sameFields : List (Text × Value) → List (Text × Value) → Bool
  | [], [] => true
  | (k, v) :: fs, (l, w) :: gs => k == l && same v w && sameFields fs gs
  | _, _ => false

end

mutual

theorem same_iff : ∀ v w : Value, same v w = true ↔ v = w
  | .none, w | .boolean _, w | .integer _, w | .real _, w | .text _, w | .date _, w | .clock _, w | .moment _, w => by
    cases w <;> simp [same]
  | .list vs, w => by
    cases w with
    | list ws => rw [same, sameItems_iff vs ws, list.injEq]
    | _ => simp [same]
  | .table fs, w => by
    cases w with
    | table gs => rw [same, sameFields_iff fs gs, table.injEq]
    | _ => simp [same]

theorem sameItems_iff : ∀ vs ws : List Value, sameItems vs ws = true ↔ vs = ws
  | [], ws => by cases ws <;> simp [sameItems]
  | v :: vs, ws => by
    cases ws with
    | nil => simp [sameItems]
    | cons w ws => rw [sameItems, Bool.and_eq_true, same_iff v w, sameItems_iff vs ws, List.cons.injEq]

theorem sameFields_iff : ∀ fs gs : List (Text × Value), sameFields fs gs = true ↔ fs = gs
  | [], gs => by cases gs <;> simp [sameFields]
  | (k, v) :: fs, gs => by
    cases gs with
    | nil => simp [sameFields]
    | cons q gs =>
      rw [sameFields, Bool.and_eq_true, Bool.and_eq_true, beq_iff_eq, same_iff v q.2, sameFields_iff fs gs,
        List.cons.injEq, Prod.ext_iff]

end

instance : DecidableEq Value := fun v w => decidable_of_iff _ (same_iff v w)

/-! ## Texts -/

/-- Items between brackets, parted by commas. -/
def enclosed (left right : Char) (items : List Text) : Text :=
  left :: List.intercalate [',', ' '] items ++ [right]

mutual

/-- The value as it is written in a list or a message. -/
def shown : Value → Text
  | .none => "None".toList
  | .boolean b => (if b then "True" else "False").toList
  | .integer n => Numeral.ofInt n
  | .real x => x.text
  | .text t => Text.quoted t
  | .date d => d.shown
  | .clock t => t.shown
  | .moment m => m.shown
  | .list items => enclosed '[' ']' (shownItems items)
  | .table fields => enclosed '{' '}' (shownFields fields)

def shownItems : List Value → List Text
  | [] => []
  | v :: vs => v.shown :: shownItems vs

/-- The fields of a table as they are written in it, each with its key. -/
def shownFields : List (Text × Value) → List Text
  | [] => []
  | (key, v) :: fields => (Text.quoted key ++ ':' :: ' ' :: v.shown) :: shownFields fields

end

/-- The text of a value on its own. -/
def plain : Value → Text
  | .text t => t
  | .date d => d.text
  | .clock t => t.text
  | .moment m => m.text
  | v => v.shown

/-! ## Long integers -/

mutual

/-- Whether every integer of a value is short enough to be written. -/
def isWritable : Value → Bool
  | .integer n => Numeral.isWritable n
  | .list items => areWritable items
  | .table fields => haveWritable fields
  | _ => true

def areWritable : List Value → Bool
  | [] => true
  | v :: vs => v.isWritable && areWritable vs

def haveWritable : List (Text × Value) → Bool
  | [] => true
  | (_, v) :: fields => v.isWritable && haveWritable fields

end

end Value

end CodeAddress
