/-! # SHA-256

The digest of FIPS 180-4 over byte arrays, and its lower-case hexadecimal text. -/

namespace StatementGate.Sha256

/-- Fractional parts of the cube roots of the first 64 primes. -/
def roundConstants : Array UInt32 := #[
  0x428a2f98, 0x71374491, 0xb5c0fbcf, 0xe9b5dba5, 0x3956c25b, 0x59f111f1,
  0x923f82a4, 0xab1c5ed5, 0xd807aa98, 0x12835b01, 0x243185be, 0x550c7dc3,
  0x72be5d74, 0x80deb1fe, 0x9bdc06a7, 0xc19bf174, 0xe49b69c1, 0xefbe4786,
  0x0fc19dc6, 0x240ca1cc, 0x2de92c6f, 0x4a7484aa, 0x5cb0a9dc, 0x76f988da,
  0x983e5152, 0xa831c66d, 0xb00327c8, 0xbf597fc7, 0xc6e00bf3, 0xd5a79147,
  0x06ca6351, 0x14292967, 0x27b70a85, 0x2e1b2138, 0x4d2c6dfc, 0x53380d13,
  0x650a7354, 0x766a0abb, 0x81c2c92e, 0x92722c85, 0xa2bfe8a1, 0xa81a664b,
  0xc24b8b70, 0xc76c51a3, 0xd192e819, 0xd6990624, 0xf40e3585, 0x106aa070,
  0x19a4c116, 0x1e376c08, 0x2748774c, 0x34b0bcb5, 0x391c0cb3, 0x4ed8aa4a,
  0x5b9cca4f, 0x682e6ff3, 0x748f82ee, 0x78a5636f, 0x84c87814, 0x8cc70208,
  0x90befffa, 0xa4506ceb, 0xbef9a3f7, 0xc67178f2]

/-- Fractional parts of the square roots of the first 8 primes. -/
def initialState : Array UInt32 := #[
  0x6a09e667, 0xbb67ae85, 0x3c6ef372, 0xa54ff53a, 0x510e527f, 0x9b05688c,
  0x1f83d9ab, 0x5be0cd19]

private def rotateRight (x : UInt32) (n : UInt32) : UInt32 := (x >>> n) ||| (x <<< (32 - n))

/-- A one bit, zeros up to the last eight bytes of a block, and the length in bits. -/
def pad (message : ByteArray) : ByteArray :=
  let zeros := (119 - message.size % 64) % 64
  let bits := message.size * 8
  let length := (List.range 8).map fun i => UInt8.ofNat (bits / Nat.pow 2 (8 * (7 - i)))
  message ++ ByteArray.mk ((0x80 :: List.replicate zeros 0 ++ length).toArray)

private def word (bytes : ByteArray) (start : Nat) : UInt32 :=
  (List.range 4).foldl (fun w i => (w <<< 8) ||| (bytes.get! (start + i)).toUInt32) 0

/-- The 64 words of a block's message schedule. -/
private def schedule (bytes : ByteArray) (start : Nat) : Array UInt32 :=
  let first := ((List.range 16).map fun i => word bytes (start + 4 * i)).toArray
  (List.range 48).foldl (fun ws i =>
    let a := ws[i + 1]!
    let b := ws[i + 14]!
    let s0 := rotateRight a 7 ^^^ rotateRight a 18 ^^^ (a >>> 3)
    let s1 := rotateRight b 17 ^^^ rotateRight b 19 ^^^ (b >>> 10)
    ws.push (ws[i]! + s0 + ws[i + 9]! + s1)) first

private def round (state : Array UInt32) (k w : UInt32) : Array UInt32 :=
  let a := state[0]!
  let e := state[4]!
  let s1 := rotateRight e 6 ^^^ rotateRight e 11 ^^^ rotateRight e 25
  let choice := (e &&& state[5]!) ^^^ (~~~e &&& state[6]!)
  let t1 := state[7]! + s1 + choice + k + w
  let s0 := rotateRight a 2 ^^^ rotateRight a 13 ^^^ rotateRight a 22
  let majority := (a &&& state[1]!) ^^^ (a &&& state[2]!) ^^^ (state[1]! &&& state[2]!)
  #[t1 + s0 + majority, a, state[1]!, state[2]!, state[3]! + t1, e, state[5]!, state[6]!]

private def compress (state : Array UInt32) (bytes : ByteArray) (start : Nat) : Array UInt32 :=
  let ws := schedule bytes start
  let mixed := (List.range 64).foldl (fun s i => round s roundConstants[i]! ws[i]!) state
  Array.zipWith (· + ·) state mixed

def digest (message : ByteArray) : List UInt8 :=
  let padded := pad message
  let state := (List.range (padded.size / 64)).foldl
    (fun state i => compress state padded (64 * i)) initialState
  state.toList.flatMap fun w => (List.range 4).map fun i => (w >>> (UInt32.ofNat (24 - 8 * i))).toUInt8

/-- Two lower-case hexadecimal digits a byte. -/
def hex (bytes : List UInt8) : String :=
  String.ofList (bytes.flatMap fun b => [Nat.digitChar (b.toNat / 16), Nat.digitChar (b.toNat % 16)])

def hexDigest (message : ByteArray) : String := hex (digest message)

def ofText (text : String) : String := hexDigest text.toUTF8

end StatementGate.Sha256
