/-
Values inside a path. A value is percent-quoted, slashes left as they are except in a unit type,
and then each segment that is one or two dots is escaped as well, since a reader of URLs would take
it for a step in the path.
-/
import CodeAddress.Text.Percent
import CodeAddress.Vars

namespace CodeAddress.Route

/-- The separator between the variable and the fixed parts of a path. -/
def separator : Text := "/-/"

/-- The characters that stand for themselves in the value of a variable. -/
def safe (name : Text) (c : Char) : Bool := Percent.unreserved c || (c == '/' && name != Var.unitType)

/-- A path segment with the dots of a dot segment escaped. -/
def hideDots (segment : Text) : Text :=
  if segment = ['.'] then "%2E" else if segment = ['.', '.'] then "%2E%2E" else segment

/-- A value as it stands in a path. -/
def quoteValue (name value : Text) : Text :=
  Text.joined '/' ((Text.pieces '/' (Percent.quote (safe name) value)).map hideDots)

end CodeAddress.Route
