import StatementGate.Database.Basic
import StatementGate.Text.Ascii
import StatementGate.Text.CharClass

/-! # Sanitization

Policies by source table and masks by source column. A batch of rows is returned only when every
column has a known source and every source table a policy; tables and columns are compared without
regard to ASCII case. -/

namespace StatementGate

inductive MaskRule where
  | null | fixed | preserveFormat
  deriving DecidableEq

def MaskRule.label : MaskRule → String
  | .null => "null"
  | .fixed => "fixed"
  | .preserveFormat => "preserve_format"

inductive SanitizationPolicy where
  | passThrough
  | columnMask (rules : KeyMap MaskRule)
  deriving DecidableEq

/-- The rule of a column: the first in key order whose name matches. -/
def SanitizationPolicy.rule? : SanitizationPolicy → (column : String) → Option MaskRule
  | .passThrough, _ => none
  | .columnMask rules, column =>
    (rules.entries.find? fun (name, _) => Ascii.equalsIgnoringCase name column).map (·.2)

inductive SanitizeError where
  | unknownOrigin (column : String)
  | noPolicy (table : String)
  | notFormatPreserving (column : String)
  | unmaskable (column kind : String)
  deriving DecidableEq

namespace SanitizeError

def message : SanitizeError → String
  | .unknownOrigin column => s!"sanitization gap: result column {column} has no source table"
  | .noPolicy table => s!"sanitization gap: no policy for table {table}"
  | .notFormatPreserving column => s!"mask for column {column} is not format-preserving"
  | .unmaskable column kind => s!"column {column} holds {kind}, which cannot be masked in place"

end SanitizeError

namespace MaskRule

/-- A letter becomes `X`, any other numeric character `0`. -/
def preserveChar (classes : CharClasses) (c : Char) : Char :=
  if classes.isAlphabetic c then 'X' else if classes.isNumeric c then '0' else c

def maskText (classes : CharClasses) (rule : MaskRule) (s : String) : String :=
  String.ofList (s.toList.map fun c => if rule = .fixed then '*' else preserveChar classes c)

def maskValue (classes : CharClasses) (rule : MaskRule) (column : String) (v : Value) :
    Except SanitizeError Value :=
  match rule, v with
  | .null, _ => .ok .null
  | _, .null => .ok .null
  | rule, .string s =>
    let masked := rule.maskText classes s
    if masked.length = s.length then .ok (.string masked) else .error (.notFormatPreserving column)
  | _, v => .error (.unmaskable column v.kind)

end MaskRule

/-- Policies by table name in lower case, and the characters that masks tell apart. -/
structure SanitizerRegistry where
  policies : KeyMap SanitizationPolicy
  classes : CharClasses

namespace SanitizerRegistry

def empty : SanitizerRegistry := ⟨KeyMap.empty, .unicode17⟩

def register (r : SanitizerRegistry) (table : String) (policy : SanitizationPolicy) :
    SanitizerRegistry :=
  { r with policies := r.policies.insert (Ascii.lower table) policy }

def policy? (r : SanitizerRegistry) (table : String) : Option SanitizationPolicy :=
  r.policies.get? (Ascii.lower table)

/-- The mask of a result column, if it has one. -/
def mask? (r : SanitizerRegistry) (origin : ColumnOrigin) :
    Except SanitizeError (Option (String × MaskRule)) :=
  match origin.table, origin.column with
  | some table, some column =>
    match r.policy? table with
    | none => .error (.noPolicy table)
    | some policy => .ok ((policy.rule? column).map fun rule => (origin.name, rule))
  | _, _ => .error (.unknownOrigin origin.name)

/-- Masks one column of a row that has it. -/
def maskColumn (classes : CharClasses) (row : Row) (column : String) (rule : MaskRule) :
    Except SanitizeError Row :=
  match row.lookup column with
  | none => .ok row
  | some v => do pure (Entries.put column (← rule.maskValue classes column v) row)

def maskRow (classes : CharClasses) (masks : List (String × MaskRule)) (row : Row) :
    Except SanitizeError Row :=
  masks.foldlM (fun row (column, rule) => maskColumn classes row column rule) row

def sanitize (r : SanitizerRegistry) (output : QueryOutput) : Except SanitizeError (List Row) :=
  if output.rows.isEmpty then .ok []
  else do
    let masks ← output.columns.mapM r.mask?
    output.rows.mapM (maskRow r.classes (masks.filterMap id))

end SanitizerRegistry

end StatementGate
