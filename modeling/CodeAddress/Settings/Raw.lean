/-
Settings as they are given, before they are checked. They come in layers: a document's section, and
over it the environment. `Raw.overlay` lays one layer over another, setting by setting, and
`Settings.ofRaw` checks what results.
-/
import CodeAddress.Real.Reader
import CodeAddress.Settings.Basic
import CodeAddress.Settings.Value
import CodeAddress.Text.Utf8

namespace CodeAddress

/-! ## Layers -/

inductive Setting where
  | baseUrl
  | userAgent
  | timeout
deriving DecidableEq, Repr

namespace Setting

def key : Setting → Text
  | baseUrl => "base_url"
  | userAgent => "user_agent"
  | timeout => "timeout_seconds"

def envName : Setting → Text
  | baseUrl => "SG_BASE_URL"
  | userAgent => "SG_USER_AGENT"
  | timeout => "SG_TIMEOUT_SECONDS"

def all : List Setting := [.baseUrl, .userAgent, .timeout]

end Setting

/-- A value or nothing for each setting. -/
structure Raw where
  baseUrl : Option Value := none
  userAgent : Option Value := none
  timeout : Option Value := none
deriving Repr

namespace Raw

/-- The layer that a look-up gives. -/
def ofLookup (find : Setting → Option Value) : Raw := ⟨find .baseUrl, find .userAgent, find .timeout⟩

/-- The settings among the fields of a table. -/
def ofFields (fields : List (Text × Value)) : Raw := ofLookup fun s => fields.lookup s.key

/-- The settings among environment variables; an empty one counts as absent. -/
def ofEnv (env : List (Text × Text)) : Raw :=
  ofLookup fun s => ((env.lookup s.envName).filter (· ≠ [])).map .text

def overlay (upper lower : Raw) : Raw where
  baseUrl := upper.baseUrl <|> lower.baseUrl
  userAgent := upper.userAgent <|> lower.userAgent
  timeout := upper.timeout <|> lower.timeout

end Raw

/-- The keys of fields that name no setting, in order. -/
def Setting.unknownKeys (fields : List (Text × Value)) : List Text :=
  (fields.map Prod.fst).filter fun k => Setting.all.all fun s => s.key ≠ k

/-- What is said of a key that names no setting. -/
def Setting.unknownKeyMessage (key : Text) : String := s!"Unknown key in [tool.sgclient]: {Text.shown key}"

/-! ## Checking -/

inductive SettingsError where
  /-- The base URL has another scheme, or none. -/
  | badBaseUrl (given : Text)
  /-- The timeout, as it is shown, is no number. -/
  | badTimeout (shown : Text)
  | timeoutNotPositive (t : Binary64)
  /-- An integer has more digits than one is written with. -/
  | longInteger
  /-- The document at a path breaks the grammar. -/
  | badDocument (path : Text)
  | badBytes (fault : Utf8.Fault)
  /-- The document has an integer of more digits than one is read from. -/
  | numeralTooLong (digits : Nat)
deriving DecidableEq, Repr

def SettingsError.message : SettingsError → String
  | badBaseUrl given => s!"base_url must be an http(s) URL, got {Text.shown given}"
  | badTimeout shown => s!"Invalid float for timeout_seconds: {String.ofList shown}"
  | timeoutNotPositive t => s!"timeout_seconds must be positive, got {String.ofList t.text}"
  | longInteger => Numeral.tooLongToWriteMessage
  | badDocument path => s!"Failed to parse {String.ofList path}"
  | badBytes fault => fault.message
  | numeralTooLong digits => Numeral.tooLongMessage digits

namespace Settings

/-- The text of a value, if its integers can be written. -/
def textOf (v : Value) : Except SettingsError Text :=
  if v.isWritable then .ok v.plain else .error .longInteger

/-- The base URL of a text: without the blanks around it, and with a slash at its end. -/
def readBaseUrl (given : Text) : Except SettingsError Text :=
  let url := Text.trimmed given
  if Text.beginsWith "http://" url ∨ Text.beginsWith "https://" url then .ok (Text.slashed url)
  else .error (.badBaseUrl url)

/-- The timeout of a value, which is read from the value's text. -/
def readTimeout (v : Value) : Except SettingsError Binary64 := do
  match Binary64.read? (← textOf v) with
  | none => throw (.badTimeout v.shown)
  | some t => if t.isAtMostZero then throw (.timeoutNotPositive t) else return t

/-- The settings of raw ones, with the default for each that is not given. -/
def ofRaw (raw : Raw) : Except SettingsError Settings := do
  let standard : Settings := {}
  let baseUrl ← match raw.baseUrl with
    | none => readBaseUrl standard.baseUrl
    | some v => do readBaseUrl (← textOf v)
  let userAgent ← match raw.userAgent with
    | none => .ok standard.userAgent
    | some v => textOf v
  let timeout ← match raw.timeout with
    | none => .ok standard.timeout
    | some v => readTimeout v
  return { baseUrl, userAgent, timeout }

end Settings

end CodeAddress
