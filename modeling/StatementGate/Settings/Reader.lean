import StatementGate.Json.Reader
import StatementGate.Json.Record
import StatementGate.Settings.Basic
import StatementGate.Toml.Reader

/-! # Reading settings

Settings from JSON values and TOML documents. What is not given has its default, and what is not
known is refused. -/

namespace StatementGate.Settings

/-- Where the two forms differ: what may stand beside the name of a choice that is written as a
table of one entry, and whether an array that gives a record's fields may be longer. -/
structure Dialect where
  isUnit : Json → Bool
  allowsRest : Bool

def Dialect.json : Dialect := ⟨fun j => j == .null, false⟩

def Dialect.toml : Dialect := ⟨fun j => j == .array [] || j == .object [], true⟩

namespace Dialect

def record? (n : Dialect) (fields : List (String × Presence)) (j : Json) : Option Json :=
  let j := match j with
    | .array items => if n.allowsRest then Json.array (items.take fields.length) else j
    | j => j
  RecordShape.read? ⟨fields, false⟩ j

/-- The name of a choice. -/
def choice? (n : Dialect) : Json → Option String
  | .string name => some name
  | .object [(name, value)] => if n.isUnit value then some name else none
  | _ => none

def word64? (j : Json) : Option Nat := j.nat? (UInt64.size - 1)

def server? (n : Dialect) (j : Json) : Option ServerSettings := do
  let r ← n.record? [("bind", .defaulted), ("max_body_bytes", .defaulted),
    ("allow_non_loopback", .defaulted)] j
  let default : ServerSettings := {}
  let bind ← r.field? "bind" Json.string? default.bind
  let maxBodyBytes ← r.field? "max_body_bytes" word64? default.maxBodyBytes
  let allowNonLoopback ← r.field? "allow_non_loopback" Json.bool? default.allowNonLoopback
  pure ⟨bind, maxBodyBytes, allowNonLoopback⟩

def mode? (n : Dialect) (j : Json) : Option ApprovalMode := do
  match ← n.choice? j with
  | "terminal" => pure .terminal
  | "deny_all" => pure .denyAll
  | _ => none

def approval? (n : Dialect) (j : Json) : Option ApprovalSettings := do
  let r ← n.record? [("mode", .defaulted), ("timeout_ms", .defaulted)] j
  let default : ApprovalSettings := {}
  let mode ← r.field? "mode" n.mode? default.mode
  let timeoutMs ← r.field? "timeout_ms" word64? default.timeoutMs
  pure ⟨mode, timeoutMs⟩

def audit? (n : Dialect) (j : Json) : Option AuditSettings := do
  let r ← n.record? [("enabled", .defaulted), ("path", .defaulted)] j
  let enabled ← r.field? "enabled" Json.bool? true
  let path ← r.field? "path" (Json.optional? Json.string?) none
  pure ⟨enabled, path⟩

def database? (n : Dialect) (j : Json) : Option DatabaseSettings := do
  let r ← n.record? [("id", .required), ("path", .required), ("read_only", .defaulted),
    ("busy_timeout_ms", .defaulted)] j
  let id ← r.need? "id" Json.string?
  let path ← r.need? "path" Json.string?
  let default : DatabaseSettings := { id, path }
  let readOnly ← r.field? "read_only" Json.bool? default.readOnly
  let busyTimeoutMs ← r.field? "busy_timeout_ms" word64? default.busyTimeoutMs
  pure ⟨id, path, readOnly, busyTimeoutMs⟩

def kind? (n : Dialect) (j : Json) : Option SanitizationKind := do
  match ← n.choice? j with
  | "pass_through" => pure .passThrough
  | "column_mask" => pure .columnMask
  | _ => none

def rule? (n : Dialect) (j : Json) : Option MaskRule := do
  match ← n.choice? j with
  | "null" => pure .null
  | "fixed" => pure .fixed
  | "preserve_format" => pure .preserveFormat
  | _ => none

def sanitization? (n : Dialect) (j : Json) : Option SanitizationSettings := do
  let r ← n.record? [("entity_type", .required), ("table", .defaulted), ("policy", .required),
    ("columns", .defaulted)] j
  let entityType ← r.need? "entity_type" Json.string?
  let table ← r.field? "table" (Json.optional? Json.string?) none
  let policy ← r.need? "policy" n.kind?
  let columns ← r.field? "columns" (Json.keyMap? n.rule?) KeyMap.empty
  pure ⟨entityType, table, policy, columns⟩

def items? (read : Json → Option α) (j : Json) : Option (List α) := do (← j.array?).mapM read

def settings? (n : Dialect) (j : Json) : Option Settings := do
  let r ← n.record? [("server", .defaulted), ("approval", .defaulted), ("audit", .defaulted),
    ("databases", .defaulted), ("sanitization", .defaulted)] j
  let server ← r.field? "server" n.server? {}
  let approval ← r.field? "approval" n.approval? {}
  let audit ← r.field? "audit" n.audit? {}
  let databases ← r.field? "databases" (items? n.database?) []
  let sanitization ← r.field? "sanitization" (items? n.sanitization?) []
  pure ⟨server, approval, audit, databases, sanitization⟩

end Dialect

/-- The settings of a JSON value. -/
def decode? (j : Json) : Option Settings := Dialect.json.settings? j

/-- The settings of a TOML text. -/
def ofToml? (text : String) : Option Settings := do
  Dialect.toml.settings? (.object (Toml.entriesJson (← Toml.read? text)))

end StatementGate.Settings
