/-
Quoted strings of TOML documents: basic ones, in which a backslash begins an escape, and literal ones;
each on one line, or on several between tripled quotes.
-/
import CodeAddress.Text.Percent
import CodeAddress.Toml.Fault

namespace CodeAddress.Toml

/-! ## Characters -/

/-- Whether a character must not stand in a string; one on several lines holds line feeds as well. -/
def isForbidden (multiline : Bool) (c : Char) : Bool := isControl c && !(multiline && c = '\n')

/-- The character that a letter stands for behind a backslash. -/
def escape? (c : Char) : Option Char :=
  if c = 'b' then some (Char.ofNat 8)
  else if c = 't' then some '\t'
  else if c = 'n' then some '\n'
  else if c = 'f' then some (Char.ofNat 12)
  else if c = 'r' then some '\r'
  else if c = '"' ∨ c = '\\' then some c
  else none

/-- Puts a character before what is read after it. -/
def before (c : Char) (r : Read Text) : Read Text := r.map fun p => (c :: p.1, p.2)

/-! ## Basic strings -/

/-- Where in a basic string a character stands. -/
inductive Place where
  | plain
  | escaped
  /-- Within the digits of a numbered character, with some of them left and the number so far. -/
  | numbered (left n : Nat)
  /-- Behind a backslash that ends a line, up to the line feed. -/
  | lineEnd
  /-- In the blanks and line feeds after such a line. -/
  | margin
deriving DecidableEq, Repr

/-- Reads a basic string from a place within it. -/
def basicFrom (multiline : Bool) : Place → Text → Read Text
  | _, [] => .error .malformed
  | .escaped, c :: s =>
    if c = 'u' then basicFrom multiline (.numbered 4 0) s
    else if c = 'U' then basicFrom multiline (.numbered 8 0) s
    else match escape? c with
      | some d => before d (basicFrom multiline .plain s)
      | none =>
        if ¬ multiline then .error .malformed
        else if c = '\n' then basicFrom multiline .margin s
        else if isBlank c then basicFrom multiline .lineEnd s
        else .error .malformed
  | .numbered left n, c :: s =>
    match Percent.hexValue? c with
    | none => .error .malformed
    | some d =>
      if 1 < left then basicFrom multiline (.numbered (left - 1) (16 * n + d)) s
      else if (16 * n + d).isValidChar then before (Char.ofNat (16 * n + d)) (basicFrom multiline .plain s)
      else .error .malformed
  | .lineEnd, c :: s =>
    if isBlank c then basicFrom multiline .lineEnd s
    else if c = '\n' then basicFrom multiline .margin s
    else .error .malformed
  | place, c :: s =>
    if place = .margin ∧ (isBlank c ∨ c = '\n') then basicFrom multiline .margin s
    else if c = '\\' then basicFrom multiline .escaped s
    else if c = '"' then
      if multiline then
        match s with
        | '"' :: '"' :: rest => .ok ([], rest)
        | _ => before c (basicFrom multiline .plain s)
      else .ok ([], s)
    else if isForbidden multiline c then .error .malformed
    else before c (basicFrom multiline .plain s)

/-! ## Literal strings -/

/-- Reads a literal string after its opening quote. -/
def literalFrom (multiline : Bool) : Text → Read Text
  | [] => .error .malformed
  | c :: s =>
    if c = '\'' then
      if multiline then
        match s with
        | '\'' :: '\'' :: rest => .ok ([], rest)
        | _ => before c (literalFrom multiline s)
      else .ok ([], s)
    else if isForbidden multiline c then .error .malformed
    else before c (literalFrom multiline s)

/-! ## Strings -/

/-- The text of a string on one line, after its opening quote. -/
def oneLine (quote : Char) (s : Text) : Read Text :=
  if quote = '"' then basicFrom false .plain s else literalFrom false s

/-- At most `n` quotes that begin a text, and the text after them. -/
def takeQuotes (quote : Char) : Nat → Text → Text × Text
  | n + 1, c :: s =>
    if c = quote then (c :: (takeQuotes quote n s).1, (takeQuotes quote n s).2) else ([], c :: s)
  | _, s => ([], s)

/-- The text of a string on several lines, after its opening quotes: a line feed that comes first does
not count, and up to two quotes before the closing ones do. -/
def multiLine (quote : Char) (s : Text) : Except Fault (Text × Text) := do
  let s := (Text.after? ['\n'] s).getD s
  let (t, rest) ← if quote = '"' then basicFrom true .plain s else literalFrom true s
  let (quotes, rest) := takeQuotes quote 2 rest
  return (t ++ quotes, rest)

/-- The text of a string, after its first quote. -/
def string (quote : Char) (s : Text) : Read Text :=
  match Text.after? [quote, quote] s with
  | some s => multiLine quote s
  | none => oneLine quote s

end CodeAddress.Toml
