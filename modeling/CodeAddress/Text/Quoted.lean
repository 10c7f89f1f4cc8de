/-
Quoted text, as messages show it. The quote is `'`, or `"` for a text that holds `'` and no `"`;
the quote in use and the backslash are escaped by a backslash, line feed, carriage return and tab
by their letter, and every other character that is not printable by its number in hexadecimal.
-/
import CodeAddress.Text.Printable

namespace CodeAddress.Text

/-- The last `width` lower-case hexadecimal digits of a number. -/
def hexDigits : (width : Nat) → Nat → Text
  | 0, _ => []
  | width + 1, n => hexDigits width (n / 16) ++ [Nat.digitChar (n % 16)]

/-- The number of a character behind a backslash, in the least of three widths. -/
def numbered (c : Char) : Text :=
  if c.toNat < 0x100 then '\\' :: 'x' :: hexDigits 2 c.toNat
  else if c.toNat < 0x10000 then '\\' :: 'u' :: hexDigits 4 c.toNat
  else '\\' :: 'U' :: hexDigits 8 c.toNat

def quotedChar (quote c : Char) : Text :=
  if c = quote ∨ c = '\\' then ['\\', c]
  else if c = '\n' then ['\\', 'n']
  else if c = '\r' then ['\\', 'r']
  else if c = '\t' then ['\\', 't']
  else if isPrintable c then [c]
  else numbered c

/-- The quote that a text is shown in. -/
def quoteOf (s : Text) : Char := if '\'' ∈ s ∧ '"' ∉ s then '"' else '\''

def quoted (s : Text) : Text := quoteOf s :: s.flatMap (quotedChar (quoteOf s)) ++ [quoteOf s]

def shown (s : Text) : String := String.ofList (quoted s)

end CodeAddress.Text
