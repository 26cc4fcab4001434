/-!
# UTF-8

Reading a text from its bytes.  A sequence that is no character is reported with the
place at which it starts and the number of bytes that could still be read as one.
-/

namespace AccessControl

/-- Why some bytes are no text: the place, the bytes in question and the reason. -/
structure DecodingFault where
  position : Nat
  bytes : List UInt8
  reason : String
  deriving DecidableEq, Inhabited

namespace Utf8

/-- The byte continues a character. -/
def isContinuation (b : UInt8) : Bool := 0x80 ≤ b && b ≤ 0xBF

/-- The number of bytes of the character that a byte starts, if it starts one. -/
def size? (b : UInt8) : Option Nat :=
  if b < 0x80 then some 1
  else if 0xC2 ≤ b && b ≤ 0xDF then some 2
  else if 0xE0 ≤ b && b ≤ 0xEF then some 3
  else if 0xF0 ≤ b && b ≤ 0xF4 then some 4
  else none

/-- The byte may follow the first byte of a character. -/
def maySecond (first b : UInt8) : Bool :=
  isContinuation b
    && (first != 0xE0 || 0xA0 ≤ b) && (first != 0xED || b < 0xA0)
    && (first != 0xF0 || 0x90 ≤ b) && (first != 0xF4 || b < 0x90)

/-- The bits of the first byte of a character of some size. -/
def leadBits (size : Nat) (b : UInt8) : Nat :=
  match size with
  | 1 => b.toNat
  | 2 => b.toNat % 32
  | 3 => b.toNat % 16
  | _ => b.toNat % 8

/-- The number of bytes after the first one that fit into a character of some size. -/
def fitting (first : UInt8) (size : Nat) (rest : List UInt8) : Nat :=
  match rest with
  | [] => 0
  | b :: more =>
    if maySecond first b then 1 + ((more.take (size - 2)).takeWhile isContinuation).length
    else 0

/-- Reads bytes from a position on, at most `fuel` characters. -/
def decodeFrom : Nat → Nat → List UInt8 → Except DecodingFault (List Char)
  | 0, _, _ | _ + 1, _, [] => .ok []
  | fuel + 1, position, b :: rest =>
    match size? b with
    | none => .error ⟨position, [b], "invalid start byte"⟩
    | some size =>
      let n := if size = 1 then 0 else fitting b size rest
      if n + 1 = size then do
        let code := (rest.take n).foldl (fun code c => code * 64 + c.toNat % 64) (leadBits size b)
        let others ← decodeFrom fuel (position + size) (rest.drop n)
        return Char.ofNat code :: others
      else
        let reason := if n = rest.length then "unexpected end of data"
          else "invalid continuation byte"
        .error ⟨position, b :: rest.take n, reason⟩

/-- The text of some bytes. -/
def decode (bytes : List UInt8) : Except DecodingFault String :=
  (decodeFrom bytes.length 0 bytes).map String.ofList

/-- The bytes of a text. -/
def encode (s : String) : List UInt8 := s.toUTF8.toList

end Utf8

end AccessControl
