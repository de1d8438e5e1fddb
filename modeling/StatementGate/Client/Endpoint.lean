import StatementGate.Network.Host
import StatementGate.Text.Ascii

/-! # Endpoints

The URL of a gateway: its scheme, and the path under which the gateway's own paths lie. Hosts and
ports are checked, whatever the scheme, and otherwise left to the transport. -/

namespace StatementGate

inductive UrlError where
  | noScheme
  | invalidPort
  | host (error : HostError)
  deriving DecidableEq

namespace UrlError

def message : UrlError → String
  | .noScheme => "relative URL without a base"
  | .invalidPort => "invalid port number"
  | .host error => error.message

end UrlError

inductive EndpointError where
  | url (error : UrlError)
  | scheme (name : String)
  | hasQuery
  deriving DecidableEq

namespace EndpointError

def message : EndpointError → String
  | .url error => s!"invalid endpoint: {error.message}"
  | .scheme name => s!"unsupported endpoint scheme: {name}"
  | .hasQuery => "endpoint must not carry a query or fragment"

end EndpointError

/-- An endpoint's path begins and ends with a slash. -/
structure Endpoint where
  isSecure : Bool
  path : String
  deriving DecidableEq

namespace Endpoint

/-- Space and control characters, which are dropped at both ends. -/
def isEdge (c : Char) : Bool := c.toNat ≤ 32

def isIgnored (c : Char) : Bool := c == '\t' || c == '\n' || c == '\r'

def clean (text : String) : List Char :=
  (((text.toList.dropWhile isEdge).reverse.dropWhile isEdge).reverse).filter (!isIgnored ·)

def isSchemeChar (c : Char) : Bool := c.isAlphanum || c == '+' || c == '-' || c == '.'

/-- The scheme in small letters, and what is behind its colon. -/
def scheme? : List Char → Option (String × List Char)
  | [] => none
  | c :: rest =>
    let more := rest.takeWhile isSchemeChar
    match c.isAlpha, rest.drop more.length with
    | true, ':' :: rest => some (Ascii.lower (String.ofList (c :: more)), rest)
    | _, _ => none

def isSlash (c : Char) : Bool := c == '/' || c == '\\'

def endsAuthority (c : Char) : Bool := isSlash c || c == '?' || c == '#'

/-- What is behind the last `@`. -/
def afterUser (authority : List Char) : List Char :=
  (authority.reverse.takeWhile (· != '@')).reverse

/-- The host of an authority, up to a colon outside of brackets; and what follows it. -/
def splitHost (bracketed : Bool) : List Char → List Char × List Char
  | [] => ([], [])
  | c :: rest =>
    if c = ':' ∧ ¬ bracketed then ([], c :: rest)
    else
      let (host, port) := splitHost (c = '[' || (bracketed && c != ']')) rest
      (c :: host, port)

def checkPort : List Char → Except UrlError Unit
  | ':' :: digits =>
    if digits.all Char.isDigit && Digits.number 10 digits < 65536 then .ok ()
    else .error .invalidPort
  | _ => .ok ()

/-- Characters of a path that are written as they are. -/
def isPathChar (c : Char) : Bool :=
  32 < c.toNat && c.toNat < 127 && c.toNat != 0x60 &&
    !(['"', '<', '>', '\x7b', '\x7d'].contains c)

def hexUpper (b : UInt8) : List Char := (Nat.toDigits 16 b.toNat).map Char.toUpper

/-- A byte as a percent escape. -/
def escapeByte (b : UInt8) : List Char :=
  '%' :: (if b < 16 then '0' :: hexUpper b else hexUpper b)

def escape (c : Char) : List Char :=
  if isPathChar c then [c] else ((String.ofList [c]).toUTF8.toList.map escapeByte).flatten

/-- The segments of a path between its slashes. -/
def segments : List Char → List (List Char)
  | [] => [[]]
  | c :: rest =>
    if isSlash c then [] :: segments rest
    else
      match segments rest with
      | [] => [[c]]
      | segment :: more => (c :: segment) :: more

/-- A dot may be written as an escape. -/
def dots (segment : List Char) : String :=
  String.ofList (go (Ascii.lower (String.ofList segment)).toList)
where
  go : List Char → List Char
    | '%' :: '2' :: 'e' :: rest => '.' :: go rest
    | c :: rest => c :: go rest
    | [] => []

/-- Resolves dot segments. The last segment, which a path ends with, is empty behind a slash. -/
def resolve (reversed : List (List Char)) : List (List Char) → List (List Char)
  | [] => reversed.reverse
  | segment :: rest =>
    let up := dots segment == ".."
    if up || dots segment == "." then
      let reversed := if up then reversed.tail else reversed
      if rest.isEmpty then ([] :: reversed).reverse else resolve reversed rest
    else resolve (segment :: reversed) rest

/-- The path of a URL with a slash at both ends. -/
def directory (path : List Char) : String :=
  let path := match path with
    | c :: rest => if isSlash c then rest else c :: rest
    | [] => []
  let parts := (resolve [] (segments path)).map fun segment => (segment.map escape).flatten
  let text := '/' :: ("/".toList.intercalate parts)
  String.ofList (if text.getLast? = some '/' then text else text ++ ['/'])

/-- Schemes whose hosts are on a network. Any number of slashes is in front of the host. -/
def networked : List String := ["http", "https", "ws", "wss", "ftp"]

def checkNetwork (rest : List Char) : Except UrlError Unit := do
  let authority := (rest.dropWhile isSlash).takeWhile (!endsAuthority ·)
  let (host, port) := splitHost false (afterUser authority)
  (Host.check host).mapError .host
  checkPort port

/-- A drive letter, with which a path begins where a host could be. -/
def isDrive : List Char → Bool
  | [c, mark] => c.isAlpha && (mark == ':' || mark == '|')
  | _ => false

/-- A file may be on a host, which has no port. -/
def checkFile : (rest : List Char) → Except UrlError Unit
  | a :: b :: rest =>
    let host := rest.takeWhile (!endsAuthority ·)
    if !isSlash a || !isSlash b || host.isEmpty || isDrive host then .ok ()
    else (Host.check host).mapError .host
  | _ => .ok ()

/-- Without a host there must be no port and no user. A user of no name and no password does not
count, but a lone `@` has to end the URL. -/
def checkNoHost (user port behind : List Char) : Except UrlError Unit :=
  let isUser := !user.isEmpty && user != ['@'] && user != [':', '@']
  if !port.isEmpty || isUser || (user == ['@'] && !behind.isEmpty) then .error (.host .empty)
  else .ok ()

/-- Other schemes have a host only behind two slashes. -/
def checkOther : (rest : List Char) → Except UrlError Unit
  | '/' :: '/' :: rest => do
    let authority := rest.takeWhile fun c => c == '\\' || !endsAuthority c
    let (host, port) := splitHost false (afterUser authority)
    if host.isEmpty then
      checkNoHost (authority.take (authority.length - (afterUser authority).length)) port
        (rest.drop authority.length)
    else
      (Host.checkFree host).mapError .host
      checkPort (port.takeWhile (· != '\\'))
  | _ => .ok ()

/-- Checks what a URL has between its scheme and its path. -/
def checkAuthority (scheme : String) (rest : List Char) : Except UrlError Unit :=
  if networked.contains scheme then checkNetwork rest
  else if scheme == "file" then checkFile rest
  else checkOther rest

/-- The endpoint that a text names. -/
def parse (text : String) : Except EndpointError Endpoint := do
  match scheme? (clean text) with
  | none => throw (.url .noScheme)
  | some (scheme, rest) =>
    (checkAuthority scheme rest).mapError .url
    if scheme != "http" && scheme != "https" then throw (.scheme scheme)
    let behind := (rest.dropWhile isSlash).dropWhile (!endsAuthority ·)
    if behind.any fun c => c == '?' || c == '#' then throw .hasQuery
    pure ⟨scheme == "https", directory behind⟩

def target (e : Endpoint) (path : String) : String := e.path ++ path

end Endpoint

end StatementGate
