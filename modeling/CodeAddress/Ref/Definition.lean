/-
References to definitions: a path within a unit of source code of a repository, at a commit if one
is given. The empty path travels as a single dot.
-/
import CodeAddress.Ref.Error
import CodeAddress.Vars

namespace CodeAddress

/-- A definition in a unit of a repository. -/
structure Definition where
  repo : Text
  unitType : Text
  unit : Text
  path : Text := []
  commit : Text := []
deriving DecidableEq, Repr

namespace Definition

def emptyPath : Text := "."

/-- The path as it travels. -/
def writePath (p : Text) : Text := if p = [] then emptyPath else p

/-- The path of the text that travelled. -/
def readPath (t : Text) : Text := if t = emptyPath then [] else t

/-- The route variables of a definition; a revision is among them only if a commit is given. -/
def vars (d : Definition) : Except EncodeError Vars :=
  if d.repo = [] then .error (.emptyPart Var.repo)
  else if d.unitType = [] then .error (.emptyPart Var.unitType)
  else if d.unit = [] then .error (.emptyPart Var.unit)
  else .ok ([(Var.repo, d.repo), (Var.unitType, d.unitType), (Var.unit, d.unit),
    (Var.path, writePath d.path)] ++ if d.commit = [] then [] else [(Var.rev, d.commit)])

def ofVars (v : Vars) : Except DecodeError Definition :=
  if v.get Var.repo = [] then .error (.empty Var.repo)
  else if v.get Var.unitType = [] then .error (.empty Var.unitType)
  else if v.get Var.unit = [] then .error (.empty Var.unit)
  else .ok
    { repo := v.get Var.repo
      unitType := v.get Var.unitType
      unit := v.get Var.unit
      path := readPath (v.get Var.path)
      commit := v.get Var.rev }

end Definition

end CodeAddress
