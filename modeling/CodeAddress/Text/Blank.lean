/-
Blanks, in two classes. Around a number stand characters with the Unicode property White_Space; what
is trimmed around a setting are these and the four separators U+001C to U+001F.
-/
import CodeAddress.Text.Ranges

namespace CodeAddress.Text

/-- The code points with the property White_Space. -/
def spaceRanges : List (Nat × Nat) :=
  [(0x9, 0xD), (0x20, 0x20), (0x85, 0x85), (0xA0, 0xA0), (0x1680, 0x1680), (0x2000, 0x200A),
   (0x2028, 0x2029), (0x202F, 0x202F), (0x205F, 0x205F), (0x3000, 0x3000)]

def isSpace (c : Char) : Bool := inRanges spaceRanges c.toNat

/-- Whether the character is white space or one of the four separators. -/
def isBlank (c : Char) : Bool := isSpace c || (0x1C ≤ c.toNat && c.toNat ≤ 0x1F)

/-- The text without the blanks around it. -/
def trimmed (s : Text) : Text := trim isBlank s

/-- The text without the white space around it. -/
def unspaced (s : Text) : Text := trim isSpace s

end CodeAddress.Text
