/-! # Decoding UTF-8

Bytes as text: strictly, with the place of the first byte that starts no character, and leniently,
with a replacement character for each maximal part of an ill-formed sequence. -/

namespace StatementGate.Utf8

/-- The number of bytes that spell a text. -/
def size (s : List Char) : Nat := s.foldr (fun c n => c.utf8Size + n) 0

private def isTail (b : UInt8) : Bool := 0x80 ≤ b && b ≤ 0xBF

/-- What the bytes start with: a character, an ill-formed part, or all that is left of a character
that the text cuts off. -/
inductive Head where
  | character (c : Char) (size : Nat)
  | illFormed (size : Nat)
  | truncated (size : Nat)

/-- The range of the second byte behind a lead byte, and the number of bytes; none for a byte that
starts no character. -/
private def lead? (b : UInt8) : Option (UInt8 × UInt8 × Nat) :=
  if 0xC2 ≤ b && b ≤ 0xDF then some (0x80, 0xBF, 2)
  else if b = 0xE0 then some (0xA0, 0xBF, 3)
  else if b = 0xED then some (0x80, 0x9F, 3)
  else if 0xE1 ≤ b && b ≤ 0xEF then some (0x80, 0xBF, 3)
  else if b = 0xF0 then some (0x90, 0xBF, 4)
  else if 0xF1 ≤ b && b ≤ 0xF3 then some (0x80, 0xBF, 4)
  else if b = 0xF4 then some (0x80, 0x8F, 4)
  else none

private def sixBits (b : UInt8) : Nat := b.toNat % 64

/-- Reads the head of a text that starts with `b`. -/
def head (b : UInt8) (rest : List UInt8) : Head :=
  if b < 0x80 then .character (Char.ofNat b.toNat) 1
  else
    match lead? b with
    | none => .illFormed 1
    | some (low, high, size) =>
      match rest with
      | [] => .truncated 1
      | second :: rest =>
        if second < low || high < second then .illFormed 1
        else if size = 2 then
          .character (Char.ofNat (b.toNat % 32 * 64 + sixBits second)) 2
        else
          match rest with
          | [] => .truncated 2
          | third :: rest =>
            if !isTail third then .illFormed 2
            else if size = 3 then
              .character (Char.ofNat ((b.toNat % 16 * 64 + sixBits second) * 64 + sixBits third)) 3
            else
              match rest with
              | [] => .truncated 3
              | fourth :: _ =>
                if !isTail fourth then .illFormed 3
                else
                  let high := (b.toNat % 8 * 64 + sixBits second) * 64 + sixBits third
                  .character (Char.ofNat (high * 64 + sixBits fourth)) 4

/-- The first place where bytes are no text. -/
inductive DecodeError where
  | illFormed (size index : Nat)
  | truncated (index : Nat)
  deriving DecidableEq

def DecodeError.message : DecodeError → String
  | .illFormed size index => s!"invalid utf-8 sequence of {size} bytes from index {index}"
  | .truncated index => s!"incomplete utf-8 byte sequence from index {index}"

/-- Reads on in well-formed bytes, of which `skip` belong to the character before; the characters
read so far come in reverse. -/
def decodeFrom (index : Nat) : (bytes : List UInt8) → (skip : Nat) → (reversed : List Char) →
    Except DecodeError (List Char)
  | [], _, reversed => .ok reversed.reverse
  | _ :: rest, skip + 1, reversed => decodeFrom (index + 1) rest skip reversed
  | b :: rest, 0, reversed =>
    match head b rest with
    | .character c size => decodeFrom (index + 1) rest (size - 1) (c :: reversed)
    | .illFormed size => .error (.illFormed size index)
    | .truncated _ => .error (.truncated index)

def decode (bytes : List UInt8) : Except DecodeError String :=
  (decodeFrom 0 bytes 0 []).map String.ofList

/-- Reads on in any bytes, with U+FFFD for each ill-formed part. -/
def decodeLossyFrom : (bytes : List UInt8) → (skip : Nat) → (reversed : List Char) → List Char
  | [], _, reversed => reversed.reverse
  | _ :: rest, skip + 1, reversed => decodeLossyFrom rest skip reversed
  | b :: rest, 0, reversed =>
    match head b rest with
    | .character c size => decodeLossyFrom rest (size - 1) (c :: reversed)
    | .illFormed size | .truncated size => decodeLossyFrom rest (size - 1) ('\uFFFD' :: reversed)

def decodeLossy (bytes : List UInt8) : String := String.ofList (decodeLossyFrom bytes 0 [])

end StatementGate.Utf8
