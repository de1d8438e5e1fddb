import StatementGate.CommandLine.Arguments
import StatementGate.Descriptor.Parser
import StatementGate.Gateway.Setup
import StatementGate.Settings.Load

/-! # Running commands

What a command prints and the code it ends with. A gateway that can be set up is left to the caller
to serve. -/

namespace StatementGate.CommandLine

/-- What a process leaves behind. -/
structure Exit where
  code : Nat
  output : String
  error : String
  deriving DecidableEq

inductive Outcome (Connection : Type) where
  | exit (exit : Exit)
  | serve (settings : Settings) (address : SocketAddress) (gateway : OpenGateway Connection)

namespace Exit

def success (output : String) : Exit := ⟨0, output, ""⟩

def failure (message : String) : Exit := ⟨1, "", message ++ "\n"⟩

end Exit

/-- The names in a descriptor, with their namespaces. -/
def names (d : Descriptor) : List String :=
  (Entries.ofList (d.names.map fun type => (s!"{type.space}.{type.name}", ()))).map (·.1)

/-- The lines that describe a descriptor. -/
def describe (text space : String) : Except String (List String) :=
  if (trimBlanks space).isEmpty then .error "--namespace must be non-empty"
  else
    match Descriptor.parse text space with
    | .error e => .error s!"invalid descriptor: {e.message}"
    | .ok d =>
      .ok ([d.render, "nullable: " ++ if d.acceptsNull then "yes" else "no"] ++
        (names d).map ("named: " ++ ·))

def validationSummary (s : Settings) : String :=
  let ending := if s.sanitization.length = 1 then "y" else "ies"
  s!"config valid: {s.databases.length} database(s), {s.sanitization.length} sanitization polic{ending}"

variable {m : Type → Type} [Monad m] {Connection : Type}

/-- Goes on with loaded settings. -/
def withSettings (access : FileAccess m Connection) (given environment : Option String)
    (go : Settings → m (Outcome Connection)) : m (Outcome Connection) := do
  match ← Settings.load access.read given environment with
  | .error e => pure (.exit (.failure s!"failed to load config: {e.message}"))
  | .ok s => go s

def serve (access : FileAccess m Connection) (s : Settings) : m (Outcome Connection) := do
  match s.server.address with
  | .error e => pure (.exit (.failure e.message))
  | .ok address =>
    match ← s.openGateway access with
    | .error e => pure (.exit (.failure s!"gateway init failed: {e.message}"))
    | .ok gateway => pure (.serve s address gateway)

def runCommand (access : FileAccess m Connection) (environment : Option String) :
    Command → m (Outcome Connection)
  | .serve given => withSettings access given environment (serve access)
  | .validate given =>
    withSettings access given environment fun s =>
      pure (.exit (.success (validationSummary s ++ "\n")))
  | .describe descriptor space =>
    pure (.exit (match describe descriptor space with
      | .ok lines => .success (String.join (lines.map (· ++ "\n")))
      | .error message => .failure message))

def Notice.exit : Notice → Exit
  | .help text => .success text
  | .version => .success (versionLine ++ "\n")
  | .usage => ⟨2, "", "error: unexpected arguments\n\nFor more information, try '--help'.\n"⟩

/-- Runs the command that arguments spell; `environment` is the path that the environment gives. -/
def run (access : FileAccess m Connection) (environment : Option String)
    (arguments : List String) : m (Outcome Connection) :=
  match readCommand arguments with
  | .error notice => pure (.exit notice.exit)
  | .ok command => runCommand access environment command

end StatementGate.CommandLine
