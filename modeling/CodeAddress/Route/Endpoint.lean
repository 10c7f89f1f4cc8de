/-
Endpoints: a route with its method and its compiled template. `Endpoint.fill` writes the path of
given variables and `Endpoint.read?` reads the variables of a path. Of the ways to cut a path along
the template, reading takes the one that fills the slots from left to right, each rather than not
and as far as it can. A path that is read and values that are written may be in any letters.
-/
import CodeAddress.Ref.Address
import CodeAddress.Route.Quote
import CodeAddress.Route.Template
import CodeAddress.Text.CodePoint

namespace CodeAddress

structure Endpoint where
  route : Route
  method : Text
  template : Text
  segments : List Segment
deriving DecidableEq, Repr

namespace Endpoint

/-- The endpoint of a template, if its slots are well named. -/
def compile? (route : Route) (method template : Text) : Option Endpoint :=
  let segments := Template.segments template
  if Template.wellNamed segments then some { route, method, template, segments } else none

def names (e : Endpoint) : List Text := Template.names e.segments

/-- The kind of reference the variables make up, the most specific first. -/
def addressKind? (e : Endpoint) : Option Address.Kind :=
  if Var.deltaHead ∈ e.names then some .delta
  else if Var.unitType ∈ e.names then some .definition
  else if Var.rev ∈ e.names then some .revision
  else if Var.repo ∈ e.names then some .repo
  else none

section Letters

variable {α : Type} [DecidableEq α] [Letter α]

/-! ## Filling -/

/-- The text of a segment. A value must not read as the separator, not even with the slash that may
follow it. -/
def fillSegment (route : Route) (v : Vars α) : Segment → Except EncodeError Text
  | .literal t => .ok t
  | .slot s =>
    let value := v.get s.name
    if value = [] then
      if s.optional then .ok [] else .error (.missingVariable route s.name)
    else match Letter.text value with
      | .error fault => .error (.surrogates fault)
      | .ok value =>
        let quoted := Route.quoteValue s.name value
        if Text.holds Route.separator (quoted ++ ['/']) then .error (.separatorInValue s.name value)
        else .ok (s.lead.toList ++ quoted)

def fillSegments (route : Route) (v : Vars α) : List Segment → Except EncodeError Text
  | [] => .ok []
  | seg :: segs => do
    let t ← fillSegment route v seg
    let ts ← fillSegments route v segs
    return t ++ ts

def fill (e : Endpoint) (v : Vars α) : Except EncodeError Text := fillSegments e.route v e.segments

/-! ## Reading -/

/-- Whether a slot may take the first letter of a path: no `@`, and no slash of a unit type or of a
separator. -/
def admits (name : Text) : List α → Bool
  | [] => false
  | c :: s =>
    if c = Letter.ofChar '@' then false
    else if name = Var.unitType then c ≠ Letter.ofChar '/'
    else ¬ Text.beginsWith (Letter.ofText Route.separator) (c :: s)

/-- The longest non-empty run of admitted letters after which `next` succeeds, with what it gives. -/
def longest {β : Type} (name : Text) (next : List α → Option β) : List α → Option (List α × β)
  | [] => none
  | c :: s =>
    if admits name (c :: s) then
      match longest name next s with
      | some (run, b) => some (c :: run, b)
      | none => (next s).map fun b => ([c], b)
    else none

/-- The quoted values of the slots, if the segments cut the whole path. -/
def cutAlong : List Segment → List α → Option (Vars α)
  | [] => fun s => if s = [] then some [] else none
  | .literal t :: segs => fun s => (Text.after? (Letter.ofText t) s).bind (cutAlong segs)
  | .slot slot :: segs => fun s =>
    let filled (t : List α) := (longest slot.name (cutAlong segs) t).map fun p => (slot.name, p.1) :: p.2
    match slot.lead with
    | none => filled s
    | some c =>
      match (Text.after? (Letter.ofText [c]) s).bind filled with
      | some values => some values
      | none => (cutAlong segs s).map fun values => (slot.name, []) :: values

/-- The variables of a path; a slot that is left out is empty. -/
def read? (e : Endpoint) (path : List α) : Option (Vars α) :=
  (cutAlong e.segments path).map fun values => values.map fun p => (p.1, Letter.unquote p.2)

end Letters

end Endpoint

end CodeAddress
