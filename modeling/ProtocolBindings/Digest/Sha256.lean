/-!
# SHA-256

The digest of FIPS 180-4 over a byte sequence, and its hexadecimal text.
-/

namespace ProtocolBindings.Sha256

/-- The first 32 bits of the fractional parts of the cube roots of the first 64 primes. -/
def roundConstants : List UInt32 :=
  [0x428a2f98, 0x71374491, 0xb5c0fbcf, 0xe9b5dba5, 0x3956c25b, 0x59f111f1, 0x923f82a4, 0xab1c5ed5,
   0xd807aa98, 0x12835b01, 0x243185be, 0x550c7dc3, 0x72be5d74, 0x80deb1fe, 0x9bdc06a7, 0xc19bf174,
   0xe49b69c1, 0xefbe4786, 0x0fc19dc6, 0x240ca1cc, 0x2de92c6f, 0x4a7484aa, 0x5cb0a9dc, 0x76f988da,
   0x983e5152, 0xa831c66d, 0xb00327c8, 0xbf597fc7, 0xc6e00bf3, 0xd5a79147, 0x06ca6351, 0x14292967,
   0x27b70a85, 0x2e1b2138, 0x4d2c6dfc, 0x53380d13, 0x650a7354, 0x766a0abb, 0x81c2c92e, 0x92722c85,
   0xa2bfe8a1, 0xa81a664b, 0xc24b8b70, 0xc76c51a3, 0xd192e819, 0xd6990624, 0xf40e3585, 0x106aa070,
   0x19a4c116, 0x1e376c08, 0x2748774c, 0x34b0bcb5, 0x391c0cb3, 0x4ed8aa4a, 0x5b9cca4f, 0x682e6ff3,
   0x748f82ee, 0x78a5636f, 0x84c87814, 0x8cc70208, 0x90befffa, 0xa4506ceb, 0xbef9a3f7, 0xc67178f2]

/-- The eight words of a chaining state. -/
structure State where
  a : UInt32
  b : UInt32
  c : UInt32
  d : UInt32
  e : UInt32
  f : UInt32
  g : UInt32
  h : UInt32
deriving DecidableEq, Repr

/-- The first 32 bits of the fractional parts of the square roots of the first eight primes. -/
def initial : State :=
  ⟨0x6a09e667, 0xbb67ae85, 0x3c6ef372, 0xa54ff53a, 0x510e527f, 0x9b05688c, 0x1f83d9ab, 0x5be0cd19⟩

/-- Rotation to the right. -/
def rotate (x : UInt32) (n : UInt32) : UInt32 :=
  (x >>> n) ||| (x <<< (32 - n))

def State.add (s t : State) : State :=
  ⟨s.a + t.a, s.b + t.b, s.c + t.c, s.d + t.d, s.e + t.e, s.f + t.f, s.g + t.g, s.h + t.h⟩

/-- One round, with a round constant and a word of the schedule. -/
def State.round (s : State) (constant word : UInt32) : State :=
  let sum1 := rotate s.e 6 ^^^ rotate s.e 11 ^^^ rotate s.e 25
  let choice := (s.e &&& s.f) ^^^ (~~~s.e &&& s.g)
  let first := s.h + sum1 + choice + constant + word
  let sum0 := rotate s.a 2 ^^^ rotate s.a 13 ^^^ rotate s.a 22
  let majority := (s.a &&& s.b) ^^^ (s.a &&& s.c) ^^^ (s.b &&& s.c)
  ⟨first + (sum0 + majority), s.a, s.b, s.c, s.d + first, s.e, s.f, s.g⟩

/-- The message followed by a one bit, zeros up to a multiple of 64 bytes less eight, and the
length in bits. -/
def pad (message : ByteArray) : ByteArray :=
  let zeros := (119 - message.size % 64) % 64
  let bits := message.size * 8
  let length := (List.range 8).map fun i => UInt8.ofNat (bits >>> (8 * (7 - i)))
  message.push 0x80 ++ ByteArray.mk (Array.replicate zeros 0) ++ ByteArray.mk length.toArray

def wordAt (bytes : ByteArray) (i : Nat) : UInt32 :=
  let byte (k : Nat) : UInt32 := (bytes.data.getD (i + k) 0).toUInt32
  (byte 0 <<< 24) ||| (byte 1 <<< 16) ||| (byte 2 <<< 8) ||| byte 3

/-- The 64 words of the schedule of the block at a byte position. -/
def schedule (bytes : ByteArray) (start : Nat) : Array UInt32 :=
  let input := (Array.range 16).map fun i => wordAt bytes (start + 4 * i)
  (List.range 48).foldl
    (fun words k =>
      let word (i : Nat) : UInt32 := words.getD i 0
      let x := word (k + 1)
      let y := word (k + 14)
      let small0 := rotate x 7 ^^^ rotate x 18 ^^^ (x >>> 3)
      let small1 := rotate y 17 ^^^ rotate y 19 ^^^ (y >>> 10)
      words.push (word k + small0 + word (k + 9) + small1))
    input

/-- The state after the block at a byte position. -/
def compress (bytes : ByteArray) (state : State) (start : Nat) : State :=
  let words := schedule bytes start
  ((roundConstants.zip words.toList).foldl (fun s (constant, word) => s.round constant word)
    state).add state

def digest (message : ByteArray) : State :=
  let padded := pad message
  (List.range (padded.size / 64)).foldl (fun s i => compress padded s (64 * i)) initial

/-- The eight hexadecimal digits of a word. -/
def wordText (w : UInt32) : List Char :=
  (List.range 8).map fun i => Nat.digitChar ((w.toNat >>> (4 * (7 - i))) % 16)

def hexDigest (message : ByteArray) : String :=
  let s := digest message
  String.ofList ([s.a, s.b, s.c, s.d, s.e, s.f, s.g, s.h].flatMap wordText)

/-- The first sixteen hexadecimal digits of the digest of a text in UTF-8. -/
def shortDigest (text : String) : String :=
  String.ofList ((hexDigest text.toUTF8).toList.take 16)

end ProtocolBindings.Sha256
