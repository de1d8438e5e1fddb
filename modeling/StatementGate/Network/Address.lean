import StatementGate.Text.Digits

/-! # Socket addresses

An IP address with a port, read from text and written in canonical form. -/

namespace StatementGate

inductive IpAddress where
  | v4 (a b c d : UInt8)
  /-- Eight groups, and the number of a scope or zero. -/
  | v6 (groups : List UInt16) (scope : UInt32)
  deriving DecidableEq

structure SocketAddress where
  ip : IpAddress
  port : UInt16
  deriving DecidableEq

namespace IpAddress

def isLoopback : IpAddress → Bool
  | .v4 a _ _ _ => a == 127
  | .v6 groups _ => groups == [0, 0, 0, 0, 0, 0, 0, 1]

def hexGroup (group : UInt16) : String := String.ofList (Nat.toDigits 16 group.toNat)

def dotted (a b c d : Nat) : String := s!"{a}.{b}.{c}.{d}"

/-- How many groups from the front are zero. -/
def zeroRun (groups : List UInt16) : Nat := (groups.takeWhile (· == 0)).length

/-- Start and length of the first longest run of zero groups. -/
def longestZeroRun (groups : List UInt16) : Nat × Nat :=
  (List.range groups.length).foldl (fun (start, size) i =>
    let here := zeroRun (groups.drop i)
    if size < here then (i, here) else (start, size)) (0, 0)

def joinGroups (groups : List UInt16) : String := ":".intercalate (groups.map hexGroup)

/-- A run of two zero groups or more is left out once; an IPv4 address stays visible in the form
that embeds it. -/
def renderGroups (groups : List UInt16) : String :=
  match groups with
  | [0, 0, 0, 0, 0, 0xFFFF, high, low] =>
    "::ffff:" ++ dotted (high.toNat / 256) (high.toNat % 256) (low.toNat / 256) (low.toNat % 256)
  | groups =>
    let (start, size) := longestZeroRun groups
    if size < 2 then joinGroups groups
    else joinGroups (groups.take start) ++ "::" ++ joinGroups (groups.drop (start + size))

end IpAddress

namespace SocketAddress

def render (a : SocketAddress) : String :=
  match a.ip with
  | .v4 w x y z => s!"{IpAddress.dotted w.toNat x.toNat y.toNat z.toNat}:{a.port}"
  | .v6 groups scope =>
    let zone := if scope = 0 then "" else s!"%{scope}"
    s!"[{IpAddress.renderGroups groups}{zone}]:{a.port}"

abbrev Reading (α : Type) := List Char → Option (α × List Char)

/-- A decimal number below a bound, written with any number of digits. -/
def decimal (bound : Nat) : Reading Nat := fun s =>
  let digits := s.takeWhile Char.isDigit
  let n := Digits.number 10 digits
  if digits.isEmpty || bound ≤ n then none else some (n, s.dropWhile Char.isDigit)

/-- One part of an IPv4 address: one to three digits without leading zeros. -/
def octet : Reading UInt8 := fun s => do
  let digits := s.takeWhile Char.isDigit
  if 3 < digits.length || (1 < digits.length && digits.head? == some '0') then none
  else
    let (n, rest) ← decimal 256 s
    pure (UInt8.ofNat n, rest)

def mark (c : Char) : Reading Unit
  | [] => none
  | d :: rest => if c = d then some ((), rest) else none

def ipv4 : Reading (UInt8 × UInt8 × UInt8 × UInt8) := fun s => do
  let (a, s) ← octet s
  let (_, s) ← mark '.' s
  let (b, s) ← octet s
  let (_, s) ← mark '.' s
  let (c, s) ← octet s
  let (_, s) ← mark '.' s
  let (d, s) ← octet s
  pure ((a, b, c, d), s)

/-- One group of an IPv6 address: one to four hexadecimal digits. -/
def hexGroup : Reading UInt16 := fun s =>
  let digits := s.takeWhile Digits.isHex
  if digits.isEmpty || 4 < digits.length then none
  else some (UInt16.ofNat (Digits.number 16 digits), s.drop digits.length)

def embedded (a b c d : UInt8) : List UInt16 :=
  [UInt16.ofNat (a.toNat * 256 + b.toNat), UInt16.ofNat (c.toNat * 256 + d.toNat)]

/-- Up to `room` groups, all but the first behind a colon. An IPv4 address may stand for the last
two, which ends the groups: then `true` is returned. -/
def groups : (room : Nat) → (first : Bool) → List Char → (List UInt16 × Bool) × List Char
  | 0, _, s => (([], false), s)
  | room + 1, first, s =>
    let start := if first then some ((), s) else mark ':' s
    match start with
    | none => (([], false), s)
    | some (_, inside) =>
      match if 0 < room then ipv4 inside else none with
      | some ((a, b, c, d), rest) => ((embedded a b c d, true), rest)
      | none =>
        match hexGroup inside with
        | none => (([], false), s)
        | some (group, rest) =>
          let ((more, ended), rest) := groups room false rest
          ((group :: more, ended), rest)

/-- Eight groups, of which a double colon leaves out zeros. -/
def ipv6 : Reading (List UInt16) := fun s => do
  let ((front, ended), s) := groups 8 true s
  if front.length = 8 then pure (front, s)
  else if ended then none
  else
    let (_, s) ← mark ':' s
    let (_, s) ← mark ':' s
    let ((back, _), s) := groups (7 - front.length) true s
    pure (front ++ List.replicate (8 - front.length - back.length) 0 ++ back, s)

def readPort : Reading UInt16 := fun s => do
  let (_, s) ← mark ':' s
  let (n, s) ← decimal 65536 s
  pure (UInt16.ofNat n, s)

/-- The number of a scope behind a percent sign, or zero. -/
def scope (s : List Char) : UInt32 × List Char :=
  match mark '%' s >>= fun (_, s) => decimal UInt32.size s with
  | some (n, s) => (UInt32.ofNat n, s)
  | none => (0, s)

def readV4 : Reading SocketAddress := fun s => do
  let ((a, b, c, d), s) ← ipv4 s
  let (p, s) ← readPort s
  pure (⟨.v4 a b c d, p⟩, s)

def readV6 : Reading SocketAddress := fun s => do
  let (_, s) ← mark '[' s
  let (groups, s) ← ipv6 s
  let (scope, s) := scope s
  let (_, s) ← mark ']' s
  let (p, s) ← readPort s
  pure (⟨.v6 groups scope, p⟩, s)

/-- The address that a whole text spells. -/
def parse? (text : String) : Option SocketAddress := do
  let s := text.toList
  match ← readV4 s <|> readV6 s with
  | (address, []) => pure address
  | _ => none

end SocketAddress

end StatementGate
