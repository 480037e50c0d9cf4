/-!
# Decoding UTF-8

A byte sequence is decoded as a whole.  If it is not UTF-8, the first place that rules it out is
reported: the bytes of the character that was begun, up to the byte that cannot follow.

A character's first byte settles how many bytes are owed and the range of the next one; every
byte after that lies between `0x80` and `0xBF`.
-/

namespace ProtocolBindings.Text.Utf8

/-- Why bytes cannot be decoded. -/
inductive Reason where
  | invalidStart
  | invalidContinuation
  | unexpectedEnd
deriving DecidableEq, Repr

/-- The bytes `first` to `last`, counted from zero, and what is wrong with them; `byte` is the
first of them. -/
structure Fault where
  byte : Nat
  first : Nat
  last : Nat
  reason : Reason
deriving DecidableEq, Repr

/-- How many bytes follow a first byte, and the range of the next one. -/
def owed? (b : Nat) : Option (Nat × Nat × Nat) :=
  if b ≤ 0x7F then some (0, 0x80, 0xBF)
  else if 0xC2 ≤ b && b ≤ 0xDF then some (1, 0x80, 0xBF)
  else if b == 0xE0 then some (2, 0xA0, 0xBF)
  else if b == 0xED then some (2, 0x80, 0x9F)
  else if 0xE1 ≤ b && b ≤ 0xEF then some (2, 0x80, 0xBF)
  else if b == 0xF0 then some (3, 0x90, 0xBF)
  else if 0xF1 ≤ b && b ≤ 0xF3 then some (3, 0x80, 0xBF)
  else if b == 0xF4 then some (3, 0x80, 0x8F)
  else none

/-- A character that was begun: its first byte and that byte's place, how many bytes are owed and
the range of the next one. -/
structure Begun where
  byte : Nat
  first : Nat
  owed : Nat
  low : Nat
  high : Nat

def faultFrom (begun : Option Begun) (position : Nat) : List UInt8 → Option Fault
  | [] =>
    begun.map fun c => ⟨c.byte, c.first, position - 1, .unexpectedEnd⟩
  | b :: rest =>
    let b := b.toNat
    match begun with
    | some c =>
      if c.low ≤ b && b ≤ c.high then
        let begun := if c.owed ≤ 1 then none else some { c with
          owed := c.owed - 1, low := 0x80, high := 0xBF }
        faultFrom begun (position + 1) rest
      else some ⟨c.byte, c.first, position - 1, .invalidContinuation⟩
    | none =>
      match owed? b with
      | none => some ⟨b, position, position, .invalidStart⟩
      | some (0, _, _) => faultFrom none (position + 1) rest
      | some (owed, low, high) =>
        faultFrom (some ⟨b, position, owed, low, high⟩) (position + 1) rest

def decode (bytes : ByteArray) : Except Fault String :=
  match String.fromUTF8? bytes with
  | some text => .ok text
  | none => .error ((faultFrom none 0 bytes.toList).getD ⟨0, 0, 0, .invalidStart⟩)

def Reason.message : Reason → String
  | .invalidStart => "invalid start byte"
  | .invalidContinuation => "invalid continuation byte"
  | .unexpectedEnd => "unexpected end of data"

/-- Two hexadecimal digits. -/
def hexByte (b : Nat) : String :=
  String.ofList [Nat.digitChar (b / 16 % 16), Nat.digitChar (b % 16)]

def Fault.message (fault : Fault) : String :=
  let place :=
    if fault.first == fault.last then
      "byte 0x" ++ hexByte fault.byte ++ " in position " ++ toString fault.first
    else "bytes in position " ++ toString fault.first ++ "-" ++ toString fault.last
  "'utf-8' codec can't decode " ++ place ++ ": " ++ fault.reason.message

/-- What was encoded is decoded to itself. -/
theorem decode_toUTF8 (text : String) : decode text.toUTF8 = .ok text := by
  have h : String.fromUTF8? text.toUTF8 = some text := by
    simp [String.fromUTF8?, String.fromUTF8, text.isValidUTF8]
  rw [decode, h]

end ProtocolBindings.Text.Utf8
