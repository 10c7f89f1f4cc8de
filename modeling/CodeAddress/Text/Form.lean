/-
Form-encoded pairs: `key=value` items joined by `&`, with a blank written `+`. `render` writes
pairs in their order; `parse` reads them back, gives an item without `=` an empty value and drops
empty items.
-/
import CodeAddress.Text.Percent

namespace CodeAddress.Form

/-- One side of a pair: unreserved characters as they are, a blank as `+`, all else escaped. -/
def encode (s : Text) : Text :=
  s.flatMap fun c => if c = ' ' then ['+'] else Percent.quoteChar Percent.unreserved c

def decode (s : Text) : Text := Percent.unquote (s.map fun c => if c = '+' then ' ' else c)

def render (pairs : List (Text × Text)) : Text :=
  Text.joined '&' (pairs.map fun p => encode p.1 ++ '=' :: encode p.2)

/-- One item: the key before the first `=` and the value after it. -/
def item (s : Text) : Text × Text :=
  match Text.cut? ['='] s with
  | some (key, value) => (decode key, decode value)
  | none => (decode s, [])

def parse (s : Text) : List (Text × Text) :=
  ((Text.pieces '&' s).filter (· ≠ [])).map item

end CodeAddress.Form
