/-
Rows of code points. Besides characters such a row may hold surrogates, which are the halves of pairs and no
characters; so no text holds one, and UTF-8 refuses it (`CodePoint.fault?`). What a router does with the letters of a
path it does with those of a text and of such a row alike (`Letter`).
-/
import CodeAddress.Text.Percent
import CodeAddress.Text.Quoted

namespace CodeAddress

inductive CodePoint where
  | char (c : Char)
  /-- The surrogate that lies `n` behind the first one, U+D800. -/
  | surrogate (n : Fin 2048)
deriving DecidableEq, Repr

namespace CodePoint

/-- The number of a surrogate behind a backslash. -/
def numbered (n : Fin 2048) : Text := '\\' :: 'u' :: Text.hexDigits 4 (0xD800 + n)

/-! ## UTF-8 -/

/-- A run of surrogates: the first of them, where it stands, and how many follow it. -/
structure Fault where
  first : Fin 2048
  position : Nat
  further : Nat
deriving DecidableEq, Repr

/-- The fault in words: one surrogate is shown, a run is given by its first and last position. -/
def Fault.message (f : Fault) : String :=
  let span :=
    if f.further = 0 then s!"character '{String.ofList (numbered f.first)}' in position {f.position}"
    else s!"characters in position {f.position}-{f.position + f.further}"
  s!"'utf-8' codec can't encode {span}: surrogates not allowed"

/-- How many surrogates the row begins with. -/
def run : List CodePoint → Nat
  | .surrogate _ :: s => run s + 1
  | _ => 0

/-- The text of a row, or the first run of surrogates in it. -/
def text : List CodePoint → Except Fault Text
  | [] => .ok []
  | .surrogate n :: s => .error { first := n, position := 0, further := run s }
  | .char c :: s =>
    match text s with
    | .ok t => .ok (c :: t)
    | .error f => .error { f with position := f.position + 1 }

/-! ## Escapes and messages -/

/-- Reads the row with the characters since the last surrogate, latest first, in `chars`. -/
def unquoteFrom (chars : Text) : List CodePoint → List CodePoint
  | [] => (Percent.unquote chars.reverse).map .char
  | .char c :: s => unquoteFrom (c :: chars) s
  | .surrogate n :: s => (Percent.unquote chars.reverse).map .char ++ .surrogate n :: unquoteFrom [] s

/-- Reads escapes back; a surrogate is beyond ASCII, so it stands for itself and parts the runs that are read. -/
def unquote (s : List CodePoint) : List CodePoint := unquoteFrom [] s

def quotedPoint (quote : Char) : CodePoint → Text
  | .char c => Text.quotedChar quote c
  | .surrogate n => numbered n

/-- The row as messages show it. -/
def shown (s : List CodePoint) : String :=
  let quote := Text.quoteOf (s.filterMap fun | .char c => some c | .surrogate _ => none)
  String.ofList (quote :: s.flatMap (quotedPoint quote) ++ [quote])

end CodePoint

/-- What a router needs to know of the letters of a path: how the characters of a text are written in them, whether
letters make up a text, and how escapes among them are read. -/
class Letter (α : Type) where
  ofChar : Char → α
  ofText : Text → List α := List.map ofChar
  ofText_eq_map : ∀ s, ofText s = s.map ofChar := by intro s; rfl
  text : List α → Except CodePoint.Fault Text
  unquote : List α → List α
  shown : List α → String

@[simp] theorem Letter.ofText_nil {α : Type} [Letter α] : (ofText [] : List α) = [] := ofText_eq_map []

instance : Letter Char where
  ofChar c := c
  ofText s := s
  ofText_eq_map s := (List.map_id s).symm
  text := .ok
  unquote := Percent.unquote
  shown := Text.shown

namespace Letter

@[simp] theorem ofChar_char (c : Char) : (ofChar c : Char) = c := rfl

@[simp] theorem ofText_char (s : Text) : (ofText s : Text) = s := rfl

@[simp] theorem text_char (s : Text) : text s = .ok s := rfl

@[simp] theorem unquote_char (s : Text) : unquote s = Percent.unquote s := rfl

end Letter

instance : Letter CodePoint where
  ofChar := .char
  text := CodePoint.text
  unquote := CodePoint.unquote
  shown := CodePoint.shown

namespace Letter

@[simp] theorem ofText_codePoint (s : Text) : (ofText s : List CodePoint) = s.map .char := rfl

@[simp] theorem text_codePoint (s : List CodePoint) : text s = CodePoint.text s := rfl

@[simp] theorem unquote_codePoint (s : List CodePoint) : unquote s = CodePoint.unquote s := rfl

end Letter

end CodeAddress
