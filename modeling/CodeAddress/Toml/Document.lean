/-
TOML documents: lines that each hold a header, a key with its value, or nothing but a comment.
`Document.read` gives the fields of the whole document.
-/
import CodeAddress.Toml.Value

namespace CodeAddress.Toml

/-- What has been read of a document: its fields, the table that keys are written in, and the number of
headers so far. -/
structure Draft where
  fields : Fields := []
  header : List Text := []
  part : Nat := 0

namespace Draft

/-! ## Statements -/

/-- Goes to the table at a path, which a header has changed. -/
def enter (d : Draft) (path : List Text) (change : Text → Fields → Option Fields) : Except Fault Draft :=
  match path.getLast? with
  | none => .error .malformed
  | some last =>
    match d.fields.within (change last) path.dropLast with
    | none => .error .malformed
    | some fields => .ok { fields, header := path, part := d.part + 1 }

/-- The draft after the header of an array's next table, whose opening brackets are read. -/
def arrayHeader (d : Draft) (s : Text) : Except Fault (Draft × Text) := do
  let (path, rest) ← key (skipBlanks s)
  let d ← d.enter path Fields.openNext
  match Text.after? [']', ']'] rest with
  | none => throw .malformed
  | some rest => return (d, rest)

/-- The draft after the header of a table, whose opening bracket is read. -/
def tableHeader (d : Draft) (s : Text) : Except Fault (Draft × Text) := do
  let (path, rest) ← key (skipBlanks s)
  let d ← d.enter path Fields.declare
  match Text.after? [']'] rest with
  | none => throw .malformed
  | some rest => return (d, rest)

/-- The draft after a key and its value. -/
def assign (d : Draft) (s : Text) : Except Fault (Draft × Text) := do
  let (path, v, rest) ← pair s
  match d.fields.within (Fields.assign d.part v path) d.header with
  | none => throw .malformed
  | some fields => return ({ d with fields }, rest)

def statement (d : Draft) : Text → Except Fault (Draft × Text)
  | [] => .ok (d, [])
  | '[' :: '[' :: s => d.arrayHeader s
  | '[' :: s => d.tableHeader s
  | c :: s =>
    if c = '#' ∨ c = '\n' then .ok (d, c :: s)
    else d.assign (c :: s)

/-! ## Lines -/

/-- The draft after all lines, of which there are at most `n`. -/
def lines : (n : Nat) → Draft → Text → Except Fault Draft
  | 0, _, _ => .error .malformed
  | n + 1, d, s => do
    let (d, rest) ← d.statement (skipBlanks s)
    match ← skipComment (skipBlanks rest) with
    | [] => return d
    | '\n' :: rest => lines n d rest
    | _ => throw .malformed

end Draft

/-- The text with each line end as a single line feed. -/
def unifyLineEnds : Text → Text
  | '\r' :: '\n' :: s => '\n' :: unifyLineEnds s
  | c :: s => c :: unifyLineEnds s
  | [] => []

def Document.read (s : Text) : Except Fault (List (Text × Value)) :=
  let s := unifyLineEnds s
  (Draft.lines (s.length + 1) {} s).map fun d => fieldValues d.fields

end CodeAddress.Toml
