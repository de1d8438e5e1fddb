import StatementGate.Settings.Reader
import StatementGate.Settings.Validation
import StatementGate.Text.Utf8

/-! # Loading settings

Which file the settings come from, and the settings that its bytes spell. -/

namespace StatementGate.Settings

def defaultPath : String := "query-relay.toml"

/-- The environment variable that names the file. -/
def pathVariable : String := "QUERY_RELAY_CONFIG"

def maxFileBytes : Nat := 1024 * 1024

/-- The path of the file: the one that is given, else the environment's, else the default. -/
def choosePath (given environment : Option String) : Except SettingsError String := do
  let path := (given <|> environment).getD defaultPath
  ensure (path.utf8ByteSize ≤ maxPathBytes) "config path exceeds max length"
  ensure (!hasLongComponent path) "config path component too long"
  pure path

def ofToml (text : String) : Except SettingsError Settings := do
  match ofToml? text with
  | none => throw .parse
  | some s =>
    s.validate
    pure s

def ofBytes (bytes : List UInt8) : Except SettingsError Settings := do
  ensure (bytes.length ≤ maxFileBytes) "config file exceeds size limit"
  match Utf8.decode bytes with
  | .error _ => throw (.invalid "config file must be utf-8")
  | .ok text => ofToml text

/-- Loads settings through a reader of files, which tells the text of its errors. -/
def load {m : Type → Type} [Monad m] (read : String → m (Except String (List UInt8)))
    (given environment : Option String) : m (Except SettingsError Settings) := do
  match choosePath given environment with
  | .error e => pure (.error e)
  | .ok path =>
    match ← read path with
    | .error reason => pure (.error (.io reason))
    | .ok bytes => pure (ofBytes bytes)

end StatementGate.Settings
