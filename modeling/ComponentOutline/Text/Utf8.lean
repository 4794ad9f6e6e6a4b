/-!
# UTF-8

Source text is kept as bytes, and the text of a node is the decoding of its
slice.  A slice that cuts a character apart has no text; the fault says where
decoding stopped and why.  The reader is a machine that remembers the character
it is inside of, and it stops at the first byte that no character can have
there.
-/

namespace ComponentOutline
namespace Utf8

/-- Why bytes are not UTF-8. -/
inductive Reason where
  | invalidStart
  | invalidContinuation
  | unexpectedEnd
  deriving DecidableEq

/-- The wording of a reason. -/
def Reason.message : Reason → String
  | .invalidStart => "invalid start byte"
  | .invalidContinuation => "invalid continuation byte"
  | .unexpectedEnd => "unexpected end of data"

/-- A place where bytes are not UTF-8: the positions `start` up to `stop`, the
byte at `start`, and the reason. -/
structure Fault where
  start : Nat
  stop : Nat
  lead : UInt8
  reason : Reason
  deriving DecidableEq

/-- Two lowercase hexadecimal digits. -/
def hexByte (byte : UInt8) : String :=
  String.ofList [Nat.digitChar (byte.toNat / 16), Nat.digitChar (byte.toNat % 16)]

/-- The wording of a fault names the byte, or the range where it is longer. -/
def Fault.message (fault : Fault) : String :=
  if fault.stop = fault.start + 1 then
    s!"'utf-8' codec can't decode byte 0x{hexByte fault.lead} in position " ++
      s!"{fault.start}: {fault.reason.message}"
  else
    s!"'utf-8' codec can't decode bytes in position " ++
      s!"{fault.start}-{fault.stop - 1}: {fault.reason.message}"

/-- A character that has been entered and still owes continuation bytes. -/
structure Pending where
  start : Nat
  lead : UInt8
  /-- The bits read so far. -/
  bits : Nat
  /-- How many continuation bytes are still owed after the next one. -/
  owed : Nat
  /-- The least next byte. -/
  low : UInt8
  /-- The greatest next byte. -/
  high : UInt8

/-- Enters a character at a byte of the upper half, if one can start there. -/
def enter? (position : Nat) (byte : UInt8) : Option Pending :=
  if byte < 0xC2 then none
  else if byte < 0xE0 then some ⟨position, byte, byte.toNat - 0xC0, 0, 0x80, 0xBF⟩
  else if byte = 0xE0 then some ⟨position, byte, 0, 1, 0xA0, 0xBF⟩
  else if byte = 0xED then some ⟨position, byte, 0xD, 1, 0x80, 0x9F⟩
  else if byte < 0xF0 then some ⟨position, byte, byte.toNat - 0xE0, 1, 0x80, 0xBF⟩
  else if byte = 0xF0 then some ⟨position, byte, 0, 2, 0x90, 0xBF⟩
  else if byte < 0xF4 then some ⟨position, byte, byte.toNat - 0xF0, 2, 0x80, 0xBF⟩
  else if byte = 0xF4 then some ⟨position, byte, 4, 2, 0x80, 0x8F⟩
  else none

/-- Reads bytes from a position on, inside a character or between two. -/
def decodeFrom (position : Nat) : Option Pending → List UInt8 → Except Fault (List Char)
  | none, [] => .ok []
  | some pending, [] => .error ⟨pending.start, position, pending.lead, .unexpectedEnd⟩
  | none, byte :: rest =>
      if byte < 0x80 then
        (decodeFrom (position + 1) none rest).map (Char.ofNat byte.toNat :: ·)
      else
        match enter? position byte with
        | some pending => decodeFrom (position + 1) (some pending) rest
        | none => .error ⟨position, position + 1, byte, .invalidStart⟩
  | some pending, byte :: rest =>
      if pending.low ≤ byte && byte ≤ pending.high then
        let bits := pending.bits * 64 + (byte.toNat - 0x80)
        match pending.owed with
        | 0 => (decodeFrom (position + 1) none rest).map (Char.ofNat bits :: ·)
        | owed + 1 =>
            decodeFrom (position + 1)
              (some { pending with bits := bits, owed := owed, low := 0x80, high := 0xBF }) rest
      else
        .error ⟨pending.start, position, pending.lead, .invalidContinuation⟩

/-- Decodes bytes, or says where they stop being UTF-8. -/
def decode (bytes : List UInt8) : Except Fault String :=
  (decodeFrom 0 none bytes).map String.ofList

/-- The bytes of a string. -/
def encode (string : String) : List UInt8 :=
  string.toUTF8.data.toList

end Utf8
end ComponentOutline
