/-
Texts that must be ASCII: the first run of characters beyond it, and what is said of them.
-/
import CodeAddress.Text.Quoted

namespace CodeAddress.Ascii

/-- A run of characters beyond ASCII: the first of them, where it stands, and how many follow it. -/
structure Fault where
  first : Char
  position : Nat
  further : Nat
deriving DecidableEq, Repr

/-- The first run of characters beyond ASCII. -/
def fault? (s : Text) : Option Fault :=
  match s.dropWhile Text.isAscii with
  | [] => none
  | c :: rest =>
    some
      { first := c
        position := (s.takeWhile Text.isAscii).length
        further := (rest.takeWhile fun d => !Text.isAscii d).length }

/-- The fault in words: one character is shown, a run is given by its first and last position. -/
def Fault.message (f : Fault) : String :=
  let span :=
    if f.further = 0 then s!"character '{String.ofList (Text.numbered f.first)}' in position {f.position}"
    else s!"characters in position {f.position}-{f.position + f.further}"
  s!"'ascii' codec can't encode {span}: ordinal not in range(128)"

end CodeAddress.Ascii
