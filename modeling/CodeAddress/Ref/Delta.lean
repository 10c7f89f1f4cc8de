/-
References to deltas: what changes from a base revision to a head revision. Within one repository
the head travels as its revision token; across two, the base64url form of the head's repository
token and a colon stand before it.
-/
import CodeAddress.Ref.Revision

namespace CodeAddress

/-- The changes from `base` to `head`. -/
structure Delta where
  base : Revision
  head : Revision
deriving DecidableEq, Repr

namespace Delta

/-- What joins the repository and the revision of a head in another repository. -/
def crossMark : Char := ':'

/-- Whether base and head are given by different repositories. -/
def isCross (d : Delta) : Bool := d.base.repo != d.head.repo

/-! ## Writing -/

/-- The head token within one repository, which must not read as one across two. -/
def headWithin (head : Revision) : Except EncodeError Text := do
  let rev ← head.token
  if crossMark ∈ rev then throw (.colonInHead rev)
  return rev

/-- The head token across two repositories. -/
def headAcross (head : Revision) : Except EncodeError Text := do
  let repo ← head.repo.token
  let rev ← head.token
  return Base64Url.encode (Utf8.encode repo) ++ crossMark :: rev

def headToken (d : Delta) : Except EncodeError Text :=
  if d.isCross then headAcross d.head else headWithin d.head

def vars (d : Delta) : Except EncodeError Vars := do
  let base ← d.base.vars
  let head ← d.headToken
  return base ++ [(Var.deltaHead, head)]

/-! ## Reading -/

/-- The repository token in the base64url form that begins a head token. -/
def decodeRepo (headToken encoded : Text) : Except DecodeError Text :=
  let refuse (reason : DecodeError.Reason) : Except DecodeError Text :=
    .error (.invalid .deltaHead Var.deltaHead headToken reason)
  match Base64Url.spelling? encoded with
  | none => refuse .notBase64Url
  | some spelling => match spelling.decode with
    | .error fault => refuse (.badBase64 fault)
    | .ok bytes => match Utf8.decode bytes with
      | .error fault => refuse (.badUtf8 fault)
      | .ok token => .ok token

/-- The head of a token, in the base's repository unless the token names another. -/
def ofHeadToken (baseRepo headToken : Text) : Except DecodeError Revision :=
  match Text.cut? [crossMark] headToken with
  | some (encoded, rev) => do Revision.ofTokens (← decodeRepo headToken encoded) rev
  | none => Revision.ofTokens baseRepo headToken

def ofVars (v : Vars) : Except DecodeError Delta := do
  let base ← Revision.ofVars v
  let head ← ofHeadToken (v.get Var.repo) (v.get Var.deltaHead)
  return { base, head }

end Delta

end CodeAddress
