import ComponentOutline.Text.Utf8

/-!
# The SHA-1 digest

Source texts are identified by the SHA-1 digest of their bytes: the message is padded
to whole blocks of sixteen words, and each block is mixed into five words of state in
eighty rounds.
-/

namespace ComponentOutline
namespace Digest

/-- Rotates a word to the left. -/
def rotate (word count : UInt32) : UInt32 :=
  (word <<< count) ||| (word >>> (32 - count))

/-- The bytes of a number, the most significant first. -/
def bigEndian : Nat → Nat → List UInt8
  | 0, _ => []
  | count + 1, number => UInt8.ofNat (number / Nat.pow 256 count) :: bigEndian count number

/-- The message with its mark, zeros up to a whole block, and its length in bits. -/
def pad (message : List UInt8) : List UInt8 :=
  let zeros := (119 - message.length % 64) % 64
  message ++ 0x80 :: List.replicate zeros 0 ++ bigEndian 8 (8 * message.length)

/-- The words of bytes, four bytes each. -/
def words : List UInt8 → List UInt32
  | a :: b :: c :: d :: rest =>
      ((a.toUInt32 <<< 24) ||| (b.toUInt32 <<< 16) ||| (c.toUInt32 <<< 8) ||| d.toUInt32) ::
        words rest
  | _ => []

/-- The eighty words that the sixteen words of a block expand to. -/
def schedule (block : List UInt32) : Array UInt32 :=
  (List.range 64).foldl
    (fun expanded index =>
      expanded.push (rotate
        (expanded.getD (index + 13) 0 ^^^ expanded.getD (index + 8) 0 ^^^
          expanded.getD (index + 2) 0 ^^^ expanded.getD index 0) 1))
    block.toArray

/-- The words of the state. -/
structure State where
  a : UInt32
  b : UInt32
  c : UInt32
  d : UInt32
  e : UInt32

/-- The state before the first block. -/
def initial : State :=
  ⟨0x67452301, 0xEFCDAB89, 0x98BADCFE, 0x10325476, 0xC3D2E1F0⟩

/-- One round. -/
def round (state : State) (entry : UInt32 × Nat) : State :=
  let (mixed, constant) : UInt32 × UInt32 :=
    if entry.2 < 20 then
      ((state.b &&& state.c) ||| (~~~state.b &&& state.d), 0x5A827999)
    else if entry.2 < 40 then (state.b ^^^ state.c ^^^ state.d, 0x6ED9EBA1)
    else if entry.2 < 60 then
      ((state.b &&& state.c) ||| (state.b &&& state.d) ||| (state.c &&& state.d), 0x8F1BBCDC)
    else (state.b ^^^ state.c ^^^ state.d, 0xCA62C1D6)
  { a := rotate state.a 5 + mixed + state.e + constant + entry.1
    b := state.a
    c := rotate state.b 30
    d := state.c
    e := state.d }

/-- Mixes a block into the state. -/
def absorb (state : State) (block : List UInt32) : State :=
  let mixed := (schedule block).toList.zipIdx.foldl round state
  { a := state.a + mixed.a
    b := state.b + mixed.b
    c := state.c + mixed.c
    d := state.d + mixed.d
    e := state.e + mixed.e }

/-- Mixes this many blocks of sixteen words into the state. -/
def absorbBlocks : Nat → State → List UInt32 → State
  | 0, state, _ => state
  | count + 1, state, message =>
      absorbBlocks count (absorb state (message.take 16)) (message.drop 16)

/-- A word in eight hexadecimal digits. -/
def hexWord (word : UInt32) : String :=
  let digits := Nat.toDigits 16 word.toNat
  String.ofList (List.replicate (8 - digits.length) '0' ++ digits)

/-- The digest of bytes in hexadecimal. -/
def ofBytes (message : List UInt8) : String :=
  let all := words (pad message)
  let state := absorbBlocks (all.length / 16) initial all
  String.join ([state.a, state.b, state.c, state.d, state.e].map hexWord)

/-- The digest of a source text. -/
def ofString (code : String) : String :=
  ofBytes (Utf8.encode code)

end Digest
end ComponentOutline
