/-
The kinds of error of the library, each with the wider kinds it belongs to, and what an error says that
is given its words instead of a cause.
-/
import CodeAddress.Ref.Error

namespace CodeAddress

inductive ErrorKind where
  /-- Any error of the library. -/
  | any
  /-- A reference that can never be written. -/
  | encode
  /-- A text that is no reference, in general or of a class of its own. -/
  | decode (kind : DecodeError.Kind)
  /-- A path that no endpoint fits. -/
  | notFound
  /-- Settings that are wrong or missing. -/
  | settings
deriving DecidableEq, Repr

namespace ErrorKind

/-- The wider kinds that a kind belongs to, the nearest first. -/
def wider : ErrorKind → List ErrorKind
  | any => []
  | decode .general => [any]
  | decode _ => [decode .general, any]
  | encode | notFound | settings => [any]

/-- What an error of given words says: nothing without any, one as it is, and several in quotes. -/
def saying : List Text → String
  | [] => ""
  | [words] => String.ofList words
  | several => "(" ++ ", ".intercalate (several.map Text.shown) ++ ")"

end ErrorKind

end CodeAddress
