/-! # Command line arguments

The commands that arguments spell, and the texts that help and version show. Options may stand
before and behind other arguments, and a double hyphen ends them. -/

namespace StatementGate.CommandLine

inductive Command where
  | serve (settings : Option String)
  | validate (settings : Option String)
  | describe (descriptor space : String)
  deriving DecidableEq

/-- Why arguments lead to no command. -/
inductive Notice where
  | help (text : String)
  | version
  | usage
  deriving DecidableEq

def versionLine : String := "query-relay 0.1.0"

namespace Help

def lines (l : List String) : String := String.join (l.map (· ++ "\n"))

def pathOption : List String :=
  ["Options:",
    "      --config <PATH>  Optional config file path (defaults to query-relay.toml or env override)",
    "  -h, --help           Print help"]

def root : String := lines
  ["Top-level CLI definition", "",
    "Usage: query-relay <COMMAND>", "",
    "Commands:",
    "  serve     Start the execution gateway",
    "  config    Configuration utilities",
    "  describe  Parse a type descriptor and print its canonical form", "",
    "Options:",
    "  -h, --help     Print help",
    "  -V, --version  Print version"]

def serve : String := lines
  (["Start the execution gateway", "", "Usage: query-relay serve [OPTIONS]", ""] ++ pathOption)

def config : String := lines
  ["Configuration utilities", "",
    "Usage: query-relay config <COMMAND>", "",
    "Commands:",
    "  validate  Load and validate a config file", "",
    "Options:",
    "  -h, --help  Print help"]

def validate : String := lines
  (["Load and validate a config file", "", "Usage: query-relay config validate [OPTIONS]", ""] ++
    pathOption)

/-- The descriptor in the example stands between grave accents. -/
def describe : String :=
  let accent := String.ofList [Char.ofNat 0x60]
  lines
    ["Parse a type descriptor and print its canonical form", "",
      "Usage: query-relay describe --namespace <NAMESPACE> <DESCRIPTOR>", "",
      "Arguments:",
      "  <DESCRIPTOR>  Descriptor text, for example " ++ accent ++ "Optional[list[Acceptance]]" ++
        accent, "",
      "Options:",
      "      --namespace <NAMESPACE>  Namespace the descriptor was captured from",
      "  -h, --help                   Print help"]

end Help

/-- A command without subcommands: its option with a value, whether that may be empty, how many
other arguments it takes, and its help. -/
structure Shape where
  option : String
  allowsEmpty : Bool
  positionals : Nat
  help : String

/-- What has been read of a command's arguments. -/
structure Given where
  option : Option String
  positionals : List String
  deriving DecidableEq

/-- A single hyphen is a value, anything else behind a hyphen an option. -/
def isOption (argument : String) : Bool := argument.startsWith "-" && argument != "-"

def asksHelp (argument : String) : Bool :=
  argument == "--help" || argument.startsWith "-h"

namespace Shape

def setOption (s : Shape) (g : Given) (value : String) : Except Notice Given :=
  if g.option.isSome || (value.isEmpty && !s.allowsEmpty) then .error .usage
  else .ok { g with option := some value }

def addPositional (s : Shape) (g : Given) (value : String) : Except Notice Given :=
  if s.positionals ≤ g.positionals.length then .error .usage
  else .ok { g with positionals := g.positionals ++ [value] }

/-- The value of an option that carries it behind an equals sign. -/
def attached? (s : Shape) (argument : String) : Option String :=
  let start := (s.option ++ "=").toList
  if start.isPrefixOf argument.toList then
    some (String.ofList (argument.toList.drop start.length))
  else none

/-- Reads arguments from the left; the first that is wrong, or that asks for help, decides. -/
def read (s : Shape) (g : Given) : List String → Except Notice Given
  | [] => .ok g
  | argument :: rest =>
    if argument = "--" then rest.foldlM s.addPositional g
    else if argument = s.option then
      match rest with
      | value :: rest =>
        if isOption value then .error .usage
        else do (s.read (← s.setOption g value) rest)
      | [] => .error .usage
    else if asksHelp argument then
      .error (.help s.help)
    else if isOption argument then
      match s.attached? argument with
      | some value => do s.read (← s.setOption g value) rest
      | none => .error .usage
    else do s.read (← s.addPositional g argument) rest

end Shape

def readPathOption (help : String) (arguments : List String) : Except Notice (Option String) := do
  pure (← (Shape.mk "--config" false 0 help).read ⟨none, []⟩ arguments).option

def readDescribe (arguments : List String) : Except Notice Command := do
  match ← (Shape.mk "--namespace" true 1 Help.describe).read ⟨none, []⟩ arguments with
  | ⟨some space, [descriptor]⟩ => pure (.describe descriptor space)
  | _ => throw .usage

/-- The command that a list of arguments spells. -/
def readCommand : List String → Except Notice Command
  | "serve" :: rest => .serve <$> readPathOption Help.serve rest
  | "describe" :: rest => readDescribe rest
  | "config" :: "validate" :: rest => .validate <$> readPathOption Help.validate rest
  | "config" :: argument :: _ => .error (if asksHelp argument then .help Help.config else .usage)
  | argument :: _ =>
    .error (if asksHelp argument then .help Help.root
      else if argument = "--version" ∨ argument.startsWith "-V" then .version
      else .usage)
  | [] => .error .usage

end StatementGate.CommandLine
