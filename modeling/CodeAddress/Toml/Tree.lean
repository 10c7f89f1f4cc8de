/-
The tree that a document grows, statement by statement. A node remembers how it came about, since that
decides what may still be added: a table that only lies on the way to others can be declared later, a
declared one cannot be declared again, one that a dotted key made is closed when its section ends, and
a value is closed from the start. Of an array of tables the last is open.
-/
import CodeAddress.Ordered
import CodeAddress.Settings.Value

namespace CodeAddress.Toml

/-- How a table came about. -/
inductive Origin where
  /-- It lies on the way to a declared one. -/
  | implied
  | declared
  /-- A dotted key of a section leads through it. -/
  | dotted (part : Nat)
deriving DecidableEq, Repr

inductive Node where
  | value (v : Value)
  | table (origin : Origin) (fields : List (Text × Node))
  /-- An array of tables: the closed ones, and the fields of the last. -/
  | tables (closed : List Value) (fields : List (Text × Node))
deriving Repr

/-- The fields of a table, in the order in which they came. -/
abbrev Fields := List (Text × Node)

/-! ## Values -/

mutual

def Node.toValue : Node → Value
  | .value v => v
  | .table _ fields => .table (fieldValues fields)
  | .tables closed fields => .list (closed ++ [.table (fieldValues fields)])

def fieldValues : List (Text × Node) → List (Text × Value)
  | [] => []
  | (key, node) :: fields => (key, node.toValue) :: fieldValues fields

end

namespace Fields

/-! ## Growth -/

/-- Makes a change at the table that a path leads to, through tables that are there or implied. -/
def within (change : Fields → Option Fields) : List Text → Fields → Option Fields
  | [], fs => change fs
  | key :: path, fs =>
    match fs.lookup key with
    | none => (within change path []).map fun sub => Ordered.put key (.table .implied sub) fs
    | some (.table origin sub) =>
      (within change path sub).map fun sub => Ordered.put key (.table origin sub) fs
    | some (.tables closed sub) =>
      (within change path sub).map fun sub => Ordered.put key (.tables closed sub) fs
    | some (.value _) => none

/-- Declares the table under a key. -/
def declare (key : Text) (fs : Fields) : Option Fields :=
  match fs.lookup key with
  | none => some (Ordered.put key (.table .declared []) fs)
  | some (.table .implied sub) => some (Ordered.put key (.table .declared sub) fs)
  | _ => none

/-- Opens one more table of the array under a key. -/
def openNext (key : Text) (fs : Fields) : Option Fields :=
  match fs.lookup key with
  | none => some (Ordered.put key (.tables [] []) fs)
  | some (.tables closed sub) =>
    some (Ordered.put key (.tables (closed ++ [.table (fieldValues sub)]) []) fs)
  | _ => none

/-- Writes a value under a dotted key of a section. -/
def assign (part : Nat) (v : Value) : List Text → Fields → Option Fields
  | [], _ => none
  | [key], fs => if (fs.lookup key).isSome then none else some (Ordered.put key (.value v) fs)
  | key :: path, fs =>
    let through (sub : Fields) : Option Fields :=
      (assign part v path sub).map fun sub => Ordered.put key (.table (.dotted part) sub) fs
    match fs.lookup key with
    | none => through []
    | some (.table .implied sub) => through sub
    | some (.table (.dotted other) sub) => if other = part then through sub else none
    | _ => none

end Fields

end CodeAddress.Toml
