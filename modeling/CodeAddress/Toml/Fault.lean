/-
Why a text is no TOML document.
-/
import CodeAddress.Text.Basic

namespace CodeAddress.Toml

inductive Fault where
  /-- It breaks the grammar, or says something twice. -/
  | malformed
  /-- It is well-formed so far, but an integer has more digits than one is read from. -/
  | numeralTooLong (digits : Nat)
deriving DecidableEq, Repr

/-- What reading the start of a text gives: a value, and the text that follows it. -/
abbrev Read (α : Type) := Except Fault (α × Text)

def isBlank (c : Char) : Bool := c = ' ' || c = '\t'

def skipBlanks (s : Text) : Text := s.dropWhile isBlank

/-- The control characters, which stand neither in comments nor in strings; a tab is none of them. -/
def isControl (c : Char) : Bool := (c.toNat < 0x20 && c ≠ '\t') || c.toNat = 0x7F

/-- The text after a comment, if one begins here. -/
def skipComment : Text → Except Fault Text
  | '#' :: s =>
    if (s.takeWhile (· ≠ '\n')).any isControl then .error .malformed else .ok (s.dropWhile (· ≠ '\n'))
  | s => .ok s

/-- The text after blanks, line ends and comments; `inComment` tells whether a comment is under way. -/
def skipGap (inComment : Bool) : Text → Except Fault Text
  | [] => .ok []
  | c :: s =>
    if inComment then
      if c = '\n' then skipGap false s else if isControl c then .error .malformed else skipGap true s
    else if isBlank c ∨ c = '\n' then skipGap false s
    else if c = '#' then skipGap true s
    else .ok (c :: s)

end CodeAddress.Toml
