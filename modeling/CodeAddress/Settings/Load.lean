/-
Loading settings: the section `tool.sgclient` of a project's document, if there is one, and the
environment over it.
-/
import CodeAddress.Settings.Raw
import CodeAddress.Toml.Document

namespace CodeAddress.Settings

/-- The table under a key of some fields, if there is one. -/
def table? (key : Text) (fields : List (Text × Value)) : Option (List (Text × Value)) :=
  match fields.lookup key with
  | some (.table sub) => some sub
  | _ => none

/-- The section of the client within a document. -/
def clientSection? (document : List (Text × Value)) : Option (List (Text × Value)) :=
  (table? "tool" document).bind (table? "sgclient")

/-- The path of the document below the root of a project. -/
def documentPath (root : Text) : Text := root ++ '/' :: "pyproject.toml".toList

/-- The fields of a document's bytes. -/
def readDocument (path : Text) (bytes : List UInt8) : Except SettingsError (List (Text × Value)) :=
  match Utf8.decode bytes with
  | .error fault => .error (.badBytes fault)
  | .ok s => match Toml.Document.read s with
    | .ok fields => .ok fields
    | .error .malformed => .error (.badDocument path)
    | .error (.numeralTooLong digits) => .error (.numeralTooLong digits)

/-- The fields of the section in the document of a project, none without a document or a section. -/
def readSection (root : Text) : Option (List UInt8) → Except SettingsError (List (Text × Value))
  | none => .ok []
  | some bytes => (readDocument (documentPath root) bytes).map fun document =>
      (clientSection? document).getD []

/-- The settings that a section and the environment give. -/
def ofLayers (fields : List (Text × Value)) (env : List (Text × Text)) : Except SettingsError Settings :=
  ofRaw ((Raw.ofEnv env).overlay (Raw.ofFields fields))

/-- What loading settings gives, and the keys of the section that name no setting. -/
structure Loaded where
  settings : Except SettingsError Settings
  unknownKeys : List Text

/-- Loads the settings of the project at `root`, given the bytes of its document and the environment. -/
def load (root : Text) (document : Option (List UInt8)) (env : List (Text × Text)) : Loaded :=
  match readSection root document with
  | .error e => { settings := .error e, unknownKeys := [] }
  | .ok fields => { settings := ofLayers fields env, unknownKeys := Setting.unknownKeys fields }

end CodeAddress.Settings
