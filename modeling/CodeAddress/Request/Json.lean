/-
JSON values and their compact text. Numbers that JSON has no numeral for, infinite ones and those that
are no number, keep a value from having a text.
-/
import CodeAddress.Real.Shortest
import CodeAddress.Text.Quoted

namespace CodeAddress

/-- A JSON value; the fields of an object are in order. -/
inductive Json where
  | null
  | boolean (b : Bool)
  | integer (n : Int)
  | real (x : Binary64)
  | text (t : Text)
  | array (items : List Json)
  | object (fields : List (Text × Json))
deriving Inhabited, Repr

namespace Json

/-! ## Strings -/

def stringChar (c : Char) : Text :=
  if c = '"' ∨ c = '\\' then ['\\', c]
  else if c = '\n' then ['\\', 'n']
  else if c = '\r' then ['\\', 'r']
  else if c = '\t' then ['\\', 't']
  else if c = Char.ofNat 8 then ['\\', 'b']
  else if c = Char.ofNat 12 then ['\\', 'f']
  else if c.toNat < 0x20 then '\\' :: 'u' :: Text.hexDigits 4 c.toNat
  else [c]

def string (t : Text) : Text := '"' :: t.flatMap stringChar ++ ['"']

/-! ## Values -/

mutual

/-- Whether all numbers of a value are finite. -/
def isFinite : Json → Bool
  | .real x => x.isFinite
  | .array items => areFinite items
  | .object fields => haveFinite fields
  | _ => true

def areFinite : List Json → Bool
  | [] => true
  | v :: vs => v.isFinite && areFinite vs

def haveFinite : List (Text × Json) → Bool
  | [] => true
  | (_, v) :: fields => v.isFinite && haveFinite fields

end

mutual

def render : Json → Text
  | .null => "null"
  | .boolean true => "true"
  | .boolean false => "false"
  | .integer n => Numeral.ofInt n
  | .real x => x.text
  | .text t => string t
  | .array items => '[' :: Text.joined ',' (renderItems items) ++ [']']
  | .object fields => '{' :: Text.joined ',' (renderFields fields) ++ ['}']

def renderItems : List Json → List Text
  | [] => []
  | v :: vs => v.render :: renderItems vs

def renderFields : List (Text × Json) → List Text
  | [] => []
  | (key, v) :: fields => (string key ++ ':' :: v.render) :: renderFields fields

end

/-- The text of a value, if all its numbers have a numeral. -/
def text? (v : Json) : Option Text := if v.isFinite then some v.render else none

end Json

end CodeAddress
