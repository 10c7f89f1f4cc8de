/-
Why a reference cannot be written as route variables, or route variables cannot be read as one.
`EncodeError` blames the caller, `DecodeError` the text that came in; the wording of each is in
`message`.
-/
import CodeAddress.Route.Name
import CodeAddress.Text.Base64Url
import CodeAddress.Text.CodePoint
import CodeAddress.Text.Numeral
import CodeAddress.Text.Quoted
import CodeAddress.Text.Utf8

namespace CodeAddress

/-! ## Writing -/

/-- Why a reference has no route variables, or route variables no path. -/
inductive EncodeError where
  /-- The repository has neither a number nor a URI. -/
  | emptyRepo
  /-- The repository's number has more digits than an integer is written with. -/
  | numeralTooLong
  /-- A commit is given without the revision it resolves. -/
  | commitWithoutRev (commit : Text)
  /-- The head of a delta within one repository holds the mark of a delta across two. -/
  | colonInHead (rev : Text)
  /-- A definition lacks one of the texts it cannot do without. -/
  | emptyPart (name : Text)
  /-- The route has no template. -/
  | unknownRoute (route : Route)
  /-- A value would read as a separator once in the path. -/
  | separatorInValue (name value : Text)
  /-- A variable that the template requires is missing or empty. -/
  | missingVariable (route : Route) (name : Text)
  /-- A value holds surrogates, which cannot be percent-quoted. -/
  | surrogates (fault : CodePoint.Fault)
deriving DecidableEq, Repr

def EncodeError.message : EncodeError → String
  | emptyRepo => "empty RepoSpec"
  | numeralTooLong => Numeral.tooLongToWriteMessage
  | commitWithoutRev commit => s!"invalid empty Rev but non-empty CommitID ({String.ofList commit})"
  | colonInHead rev => s!"same-repository head revision {Text.shown rev} must not contain ':'"
  | emptyPart name => s!"empty {String.ofList name} in DefSpec"
  | unknownRoute route => s!"unknown route <Route.{route.label}: '{route.name}'>"
  | separatorInValue name value => s!"route variable {Text.shown name} value {Text.shown value} contains '/-/'"
  | missingVariable route name => s!"route {route.name} requires route variable {Text.shown name}"
  | surrogates fault => fault.message

/-! ## Reading -/

/-- The classes of text that does not read as a reference. -/
inductive DecodeError.Kind where
  | general
  | emptyPart
  | repoId
  | revision
  | deltaHead
deriving DecidableEq, Repr

/-- What is wrong with the text. -/
inductive DecodeError.Reason where
  | empty
  | idNotDecimal
  | idNotPositive
  | commitWithoutRev
  | notBase64Url
  | badBase64 (fault : Base64Url.Fault)
  | badUtf8 (fault : Utf8.Fault)
  /-- A reason in the words of whoever reports it. -/
  | said (words : Text)
deriving DecidableEq, Repr

/-- Why route variables read as no reference. -/
inductive DecodeError where
  /-- The text under a name is not of its form. -/
  | invalid (kind : DecodeError.Kind) (field value : Text) (reason : DecodeError.Reason)
  /-- A repository number has more digits than an integer is read from. -/
  | numeralTooLong (digits : Nat)
deriving DecidableEq, Repr

namespace DecodeError

/-- A part that is missing or empty. -/
def empty (field : Text) : DecodeError := .invalid .emptyPart field [] .empty

def Reason.words : Reason → String
  | empty => "empty spec"
  | idNotDecimal => "repository ID is not a decimal integer"
  | idNotPositive => "repository ID must be positive"
  | commitWithoutRev => "non-empty CommitID requires a non-empty Rev"
  | notBase64Url => "repository is not base64url"
  | badBase64 fault => s!"bad base64url repository: {fault.message}"
  | badUtf8 fault => s!"bad base64url repository: {fault.message}"
  | said words => String.ofList words

def message : DecodeError → String
  | invalid _ field value reason => s!"Invalid {String.ofList field} {Text.shown value}: {reason.words}"
  | numeralTooLong digits => Numeral.tooLongMessage digits

end DecodeError

end CodeAddress
