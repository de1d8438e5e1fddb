import StatementGate.Rehearsal.Run

/-! # Scripted databases

Databases that answer each call with the next step of a script, whatever the statement says. -/

namespace StatementGate.Rehearsal

inductive ScriptStep where
  | output (output : QueryOutput)
  | changed (count : Nat)
  | fails (error : DatabaseError)

abbrev Scripts := KeyMap (List ScriptStep)

namespace Scripts

/-- The next step of a database's script. -/
def next (id : String) (s : Scripts) : Option ScriptStep × Scripts :=
  match s.get? id with
  | some (step :: rest) => (some step, s.insert id rest)
  | _ => (none, s)

def exhausted : DatabaseError := .backend "script exhausted"

def query (call : DatabaseCall) (s : Scripts) : Except CallFailure QueryOutput × Scripts :=
  let (step, s) := next call.databaseId s
  (match step with
  | some (.output output) => .ok output
  | some (.changed _) => .ok ⟨[], []⟩
  | some (.fails error) => .error (.database error)
  | none => .error (.database exhausted), s)

def execute (call : DatabaseCall) (s : Scripts) : Except CallFailure Nat × Scripts :=
  let (step, s) := next call.databaseId s
  (match step with
  | some (.changed count) => .ok count
  | some (.output _) => .error (.database (.backend "bad uint null"))
  | some (.fails error) => .error (.database error)
  | none => .error (.database exhausted), s)

def host : Host Scripts := ⟨query, execute⟩

end Scripts

end StatementGate.Rehearsal
