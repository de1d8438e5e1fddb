import StatementGate.Files.Tree
import StatementGate.Gateway.Setup
import StatementGate.Rehearsal.Run
import StatementGate.Store.Connection

/-! # Databases in a file tree

Files of a rehearsed gateway, and databases that keep their tables in them. -/

namespace StatementGate.Rehearsal

inductive FileContent where
  | bytes (content : List UInt8)
  | tables (tables : Store.Tables)

abbrev Files := FileTree FileContent

namespace Files

/-- A path as it is in the tree that stands at `root`. -/
def within (root path : String) : String :=
  let start := (root ++ "/").toList
  if !root.isEmpty && start.isPrefixOf path.toList then
    String.ofList (path.toList.drop start.length)
  else path

def read (files : Files) (path : String) : Except String (List UInt8) :=
  match FileTree.read files path with
  | .ok (.bytes content) => .ok content
  | .ok (.tables _) => .ok []
  | .error e => .error e.message

/-- The parts of a file that is created unless it is there; an error leaves the files as they are. -/
def touch (content : FileContent) (path : String) (files : Files) :
    Except FileError (List String) × Files :=
  match files.writable path with
  | .ok parts => (.ok parts, files.create parts content)
  | .error e => (.error e, files)

/-- The parts of a database file. One that may only be read has to be there already. -/
def openDatabase (path : String) (readOnly : Bool) (files : Files) :
    Except FileError (List String) × Files :=
  if readOnly then ((FileTree.find files path).map (·.1), files)
  else touch (.tables []) path files

end Files

/-- An open database: its file, and the connection to it. -/
structure OpenDatabase where
  file : List String
  connection : Store.Connection

namespace Files

/-- Nobody else holds the file of a database, so that no time is spent on waiting for it. -/
def access (root : String) : FileAccess (StateM Files) OpenDatabase where
  read path files := (read files (within root path), files)
  openLog path files :=
    let (result, files) := touch (.bytes []) (within root path) files
    ((result.map fun _ => ()).mapError FileError.message, files)
  openDatabase path readOnly _ files :=
    let (result, files) := openDatabase (within root path) readOnly files
    let opened := result.map fun file => { file, connection := ⟨readOnly, 0⟩ : OpenDatabase }
    (opened.mapError fun _ => s!"unable to open database file: {path}", files)

end Files

structure Stored where
  files : Files
  databases : KeyMap OpenDatabase

namespace Stored

/-- The databases of settings whose files lie in the tree that stands at `root`; none if one of them
cannot be opened. -/
def ofSettings (root : String) (files : Files) (s : Settings) : Stored :=
  match Settings.openDatabases (Files.access root) .empty s.databases files with
  | (.ok catalog, files) => ⟨files, catalog.map (·.connection)⟩
  | (.error _, files) => ⟨files, .empty⟩

def tables (s : Stored) (d : OpenDatabase) : Store.Tables :=
  match s.files.file? d.file with
  | some (.tables tables) => tables
  | _ => []

def notOpen : CallFailure := .database (.backend "database is not open")

def query (call : DatabaseCall) (s : Stored) : Except CallFailure QueryOutput × Stored :=
  match s.databases.get? call.databaseId with
  | none => (.error notOpen, s)
  | some d => (((s.tables d).query call.sql call.parameters).mapError .database, s)

def execute (call : DatabaseCall) (s : Stored) : Except CallFailure Nat × Stored :=
  match s.databases.get? call.databaseId with
  | none => (.error notOpen, s)
  | some d =>
    let (answer, connection, tables) :=
      (s.tables d).execute d.connection call.sql call.parameters
    (answer.mapError .database,
      ⟨s.files.put d.file (.tables tables),
        s.databases.insert call.databaseId { d with connection }⟩)

def host : Host Stored := ⟨query, execute⟩

end Stored

end StatementGate.Rehearsal
