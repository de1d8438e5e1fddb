import StatementGate.Network.Address
import StatementGate.Text.Ascii
import StatementGate.Text.Utf8

/-! # Hosts of URLs

Which texts may stand for a host. On a network it is a domain, which may have percent escapes, or an
IP address. Elsewhere it is any text without delimiters. An IPv6 address is in brackets always. -/

namespace StatementGate

inductive HostError where
  | empty
  | invalidDomain
  | delimiter
  | invalidIpv4
  | invalidIpv6
  deriving DecidableEq

namespace HostError

def message : HostError → String
  | .empty => "empty host"
  | .invalidDomain => "invalid international domain name"
  | .delimiter => "invalid domain character"
  | .invalidIpv4 => "invalid IPv4 address"
  | .invalidIpv6 => "invalid IPv6 address"

end HostError

namespace Host

def hexPair? (a b : Char) : Option Nat := do
  pure ((← Digits.value? a) * 16 + (← Digits.value? b))

/-- The bytes of a text with percent escapes. -/
def unescape : List Char → List UInt8
  | '%' :: a :: b :: rest =>
    match hexPair? a b with
    | some n => UInt8.ofNat n :: unescape rest
    | none => '%'.toUInt8 :: unescape (a :: b :: rest)
  | c :: rest => (String.ofList [c]).toUTF8.toList ++ unescape rest
  | [] => []

/-- Characters between the parts of a URL, which no host may hold. -/
def isDelimiter (c : Char) : Bool :=
  c.toNat == 0 || c == ' ' ||
    ['#', '/', ':', '<', '>', '?', '@', '[', '\\', ']', '^', '|'].contains c

/-- Characters that no domain may hold. -/
def isForbidden (c : Char) : Bool :=
  isDelimiter c || c.toNat < 32 || c.toNat == 127 || c == '%'

/-- A part of an IPv4 address: decimal, octal behind `0` or hexadecimal behind `0x`. -/
def ipv4Part? : List Char → Option Nat
  | [] => none
  | '0' :: x :: rest =>
    if x = 'x' ∨ x = 'X' then
      if rest.all Digits.isHex then
        some (Digits.number 16 rest)
      else none
    else if (x :: rest).all fun c => '0' ≤ c ∧ c ≤ '7' then
      some (Digits.number 8 (x :: rest))
    else none
  | s => if s.all Char.isDigit then some (Digits.number 10 s) else none

/-- Up to four parts, each but the last a byte, and the last as many bytes as are left. -/
def isIpv4 (parts : List (List Char)) : Bool :=
  match parts.mapM ipv4Part? with
  | none => false
  | some numbers =>
    numbers.length ≤ 4 && numbers.dropLast.all (· < 256) &&
      numbers.getLastD 0 < Nat.pow 256 (5 - numbers.length)

/-- The parts of a domain between its dots; a last dot does not count. -/
def domainParts (domain : List Char) : List (List Char) :=
  let parts := splitDots domain
  if 1 < parts.length ∧ parts.getLast? = some [] then parts.dropLast else parts

/-- A domain whose last part is a number is an IPv4 address. -/
def endsInNumber (parts : List (List Char)) : Bool :=
  match parts.getLast? with
  | some part => !part.isEmpty && (part.all Char.isDigit || (ipv4Part? part).isSome)
  | none => false

def checkIpv6 (inside : List Char) : Except HostError Unit :=
  match inside.getLast?, SocketAddress.ipv6 inside.dropLast with
  | some ']', some (_, []) => .ok ()
  | _, _ => .error .invalidIpv6

def checkDomain (domain : List Char) : Except HostError Unit :=
  if domain.any isForbidden then .error .invalidDomain
  else if endsInNumber (domainParts domain) && !isIpv4 (domainParts domain) then
    .error .invalidIpv4
  else .ok ()

/-- A host on a network. -/
def check : (host : List Char) → Except HostError Unit
  | [] => .error .empty
  | '[' :: inside => checkIpv6 inside
  | host =>
    match Utf8.decode (unescape host) with
    | .ok domain => checkDomain domain.toList
    | .error _ => .error .invalidDomain

/-- A host that means something to its scheme only. -/
def checkFree : (host : List Char) → Except HostError Unit
  | '[' :: inside => checkIpv6 inside
  | host => if host.any isDelimiter then .error .delimiter else .ok ()

end Host

end StatementGate
