import StatementGate.Json.Basic
import StatementGate.Sanitization

/-! # Settings

What a gateway is configured with: where it listens, how writes are approved, where the audit trail
goes, its databases and its sanitization policies. -/

namespace StatementGate

structure ServerSettings where
  bind : String := "127.0.0.1:8710"
  maxBodyBytes : Nat := 1048576
  allowNonLoopback : Bool := false
  deriving DecidableEq

inductive ApprovalMode where
  | terminal | denyAll
  deriving DecidableEq

structure ApprovalSettings where
  mode : ApprovalMode := .terminal
  timeoutMs : Nat := 300000
  deriving DecidableEq

/-- Without a path the audit trail goes to standard error. -/
structure AuditSettings where
  enabled : Bool := true
  path : Option String := none
  deriving DecidableEq

structure DatabaseSettings where
  id : String
  path : String
  readOnly : Bool := false
  busyTimeoutMs : Nat := 5000
  deriving DecidableEq

inductive SanitizationKind where
  | passThrough | columnMask
  deriving DecidableEq

/-- A policy for the table of an entity type. -/
structure SanitizationSettings where
  entityType : String
  table : Option String
  policy : SanitizationKind
  columns : KeyMap MaskRule
  deriving DecidableEq

structure Settings where
  server : ServerSettings
  approval : ApprovalSettings
  audit : AuditSettings
  databases : List DatabaseSettings
  sanitization : List SanitizationSettings
  deriving DecidableEq

/-- An entity type in the spelling of tables: an underscore before every capital behind a small
letter or a digit, and all in small letters. ASCII only. -/
def snakeCase (name : String) : String :=
  String.ofList (words false name.toList)
where
  words (afterSmall : Bool) : List Char → List Char
    | [] => []
    | c :: rest =>
      if c.isUpper then
        (if afterSmall then ['_'] else []) ++ c.toLower :: words false rest
      else c :: words (c.isLower || c.isDigit) rest

namespace SanitizationSettings

def tableName (s : SanitizationSettings) : String := s.table.getD (snakeCase s.entityType)

def toPolicy (s : SanitizationSettings) : SanitizationPolicy :=
  match s.policy with
  | .passThrough => .passThrough
  | .columnMask => .columnMask s.columns

end SanitizationSettings

namespace SanitizerRegistry

/-- Registers the policies of all entries under their tables. -/
def ofSettings (entries : List SanitizationSettings) : SanitizerRegistry :=
  entries.foldl (fun r entry => r.register entry.tableName entry.toPolicy) empty

end SanitizerRegistry

namespace ApprovalMode

def label : ApprovalMode → String
  | .terminal => "terminal"
  | .denyAll => "deny_all"

end ApprovalMode

namespace SanitizationKind

def label : SanitizationKind → String
  | .passThrough => "pass_through"
  | .columnMask => "column_mask"

end SanitizationKind

namespace Settings

def database? (s : Settings) (id : String) : Option DatabaseSettings :=
  s.databases.find? (·.id == id)

private def databaseJson (d : DatabaseSettings) : Json :=
  .object [("busy_timeout_ms", .int d.busyTimeoutMs), ("id", .string d.id),
    ("path", .string d.path), ("read_only", .bool d.readOnly)]

private def sanitizationJson (s : SanitizationSettings) : Json :=
  .object [("columns", .object (s.columns.map fun rule => Json.string rule.label).entries),
    ("entity_type", .string s.entityType), ("policy", .string s.policy.label),
    ("table", Json.ofOptionString s.table)]

def encode (s : Settings) : Json :=
  .object [
    ("approval", .object [("mode", .string s.approval.mode.label),
      ("timeout_ms", .int s.approval.timeoutMs)]),
    ("audit", .object [("enabled", .bool s.audit.enabled),
      ("path", Json.ofOptionString s.audit.path)]),
    ("databases", .array (s.databases.map databaseJson)),
    ("sanitization", .array (s.sanitization.map sanitizationJson)),
    ("server", .object [("allow_non_loopback", .bool s.server.allowNonLoopback),
      ("bind", .string s.server.bind), ("max_body_bytes", .int s.server.maxBodyBytes)])]

end Settings

end StatementGate
