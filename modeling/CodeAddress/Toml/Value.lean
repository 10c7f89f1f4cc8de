/-
Keys and values of TOML documents. Arrays and inline tables nest, so reading a value takes a bound on
the depth and the number of items, of which the length of the text is enough.
-/
import CodeAddress.Toml.Quoted
import CodeAddress.Toml.Scalar
import CodeAddress.Toml.Tree

namespace CodeAddress.Toml

/-! ## Keys -/

/-- Whether a character stands in a key without quotes. -/
def isBare (c : Char) : Bool := c.isAlphanum || c = '-' || c = '_'

def keyPart : Text → Read Text
  | [] => .error .malformed
  | c :: s =>
    if c = '"' ∨ c = '\'' then oneLine c s
    else if isBare c then .ok ((c :: s).takeWhile isBare, (c :: s).dropWhile isBare)
    else .error .malformed

/-- The parts of a dotted key, with the blanks around and after them; `n` bounds their number. -/
def keyFrom : (n : Nat) → Text → Except Fault (List Text × Text)
  | 0, _ => .error .malformed
  | n + 1, s => do
    let (part, rest) ← keyPart s
    match Text.after? ['.'] (skipBlanks rest) with
    | none => return ([part], skipBlanks rest)
    | some rest =>
      let (parts, rest) ← keyFrom n (skipBlanks rest)
      return (part :: parts, rest)

/-- The dotted key at the start of a text. -/
def key (s : Text) : Read (List Text) := keyFrom (s.length + 1) s

/-! ## Values -/

mutual

/-- The value at the start of a text. -/
def valueFrom : (n : Nat) → Text → Except Fault (Value × Text)
  | n + 1, c :: s =>
    if c = '"' ∨ c = '\'' then (string c s).map fun p => (.text p.1, p.2)
    else if c = '[' then do
      let (items, rest) ← itemsFrom n (← skipGap false s)
      return (.list items, rest)
    else if c = '{' then
      match Text.after? ['}'] (skipBlanks s) with
      | some rest => .ok (.table [], rest)
      | none => do
        let (fields, rest) ← fieldsFrom n [] (skipBlanks s)
        return (.table (fieldValues fields), rest)
    else scalar (c :: s)
  | _, _ => .error .malformed

/-- The items of an array up to its closing bracket; a comma may follow the last. -/
def itemsFrom : (n : Nat) → Text → Except Fault (List Value × Text)
  | 0, _ => .error .malformed
  | n + 1, s =>
    match Text.after? [']'] s with
    | some rest => .ok ([], rest)
    | none => do
      let (v, rest) ← valueFrom n s
      match ← skipGap false rest with
      | ',' :: rest =>
        let (vs, rest) ← itemsFrom n (← skipGap false rest)
        return (v :: vs, rest)
      | ']' :: rest => return ([v], rest)
      | _ => throw .malformed

/-- The fields of an inline table up to its closing brace, added to those before them. -/
def fieldsFrom : (n : Nat) → Fields → Text → Except Fault (Fields × Text)
  | 0, _, _ => .error .malformed
  | n + 1, fs, s => do
    let (path, v, rest) ← pairFrom n s
    match fs.assign 0 v path with
    | none => throw .malformed
    | some fs =>
      match skipBlanks rest with
      | ',' :: rest => fieldsFrom n fs (skipBlanks rest)
      | '}' :: rest => return (fs, rest)
      | _ => throw .malformed

/-- A dotted key and the value after its equals sign. -/
def pairFrom : (n : Nat) → Text → Except Fault (List Text × Value × Text)
  | 0, _ => .error .malformed
  | n + 1, s => do
    let (path, rest) ← key s
    match Text.after? ['='] rest with
    | none => throw .malformed
    | some rest =>
      let (v, rest) ← valueFrom n (skipBlanks rest)
      return (path, v, rest)

end

def pair (s : Text) : Except Fault (List Text × Value × Text) := pairFrom (2 * s.length + 2) s

end CodeAddress.Toml
