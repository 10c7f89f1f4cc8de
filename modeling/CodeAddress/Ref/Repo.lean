/-
References to repositories. A repository is given by its number or by its URI, and travels as one
token: `R$` and the number, or the URI, where a URI of the home instance's own organisation leaves
out the host.
-/
import CodeAddress.Ref.Error
import CodeAddress.Vars

namespace CodeAddress

/-- Which repository: by its number if that is positive, else by its URI. -/
structure Repo where
  uri : Text := []
  id : Int := 0
deriving DecidableEq, Repr

namespace Repo

/-- What a numeric token begins with. -/
def idMark : Text := "R$"

/-- The host of the home instance, as URIs begin with it. -/
def homeHost : Text := "sourcegraph.com/"

/-- The organisation whose repositories leave out the home host. -/
def homeOrg : Text := "sourcegraph/"

/-- The reference that keeps what identifies the repository and nothing else. -/
def canonical (r : Repo) : Repo := if 0 < r.id then { id := r.id } else { uri := r.uri }

/-! ## Writing -/

/-- The URI without the home host, if the home organisation follows it. -/
def shorten (uri : Text) : Text :=
  match Text.after? homeHost uri with
  | some rest => if Text.beginsWith homeOrg rest then rest else uri
  | none => uri

def token (r : Repo) : Except EncodeError Text :=
  if 0 < r.id then
    if Numeral.isWritable r.id then .ok (idMark ++ Numeral.ofInt r.id) else .error .numeralTooLong
  else if r.uri ≠ [] then .ok (shorten r.uri)
  else .error .emptyRepo

def vars (r : Repo) : Except EncodeError Vars := do return [(Var.repo, ← r.token)]

/-! ## Reading -/

/-- Reads the number of a numeric token, of which `digits` follow the mark. -/
def ofDigits (token digits : Text) : Except DecodeError Repo :=
  if digits = [] ∨ ¬ digits.all Char.isDigit then
    .error (.invalid .repoId Var.repo token .idNotDecimal)
  else if Numeral.digitLimit < digits.length then .error (.numeralTooLong digits.length)
  else if Numeral.toNat digits = 0 then .error (.invalid .repoId Var.repo token .idNotPositive)
  else .ok { id := Numeral.toNat digits }

def ofToken (t : Text) : Except DecodeError Repo :=
  if t = [] then .error (.empty Var.repo)
  else match Text.after? idMark t with
    | some digits => ofDigits t digits
    | none => .ok { uri := if Text.beginsWith homeOrg t then homeHost ++ t else t }

def ofVars (v : Vars) : Except DecodeError Repo := ofToken (v.get Var.repo)

end Repo

end CodeAddress
