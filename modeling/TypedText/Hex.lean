import TypedText.Text.Quoted

/-!
# TypedText.Hex

Bytes written as two hexadecimal digits each. Writing uses small letters; reading takes both, and
nothing but digits: no blanks between bytes, no digits of other scripts.
-/

namespace TypedText
namespace Hex

inductive HexError
  | oddLength (length : Nat)
  | notHex (text : Text)
  deriving DecidableEq, Repr

def HexError.message : HexError → Text
  | oddLength length =>
    Text.ofString s!"Input hex string length must be an even number. Length = {length}"
  | notHex text =>
    Text.ofString "Input hex string holds a character that is not a hex digit: " ++ text.quoted

def digit? (c : CodePoint) : Option Nat :=
  if 0x30 ≤ c.val ∧ c.val ≤ 0x39 then some (c.val - 0x30)
  else if 0x41 ≤ c.val ∧ c.val ≤ 0x46 then some (c.val - 0x37)
  else if 0x61 ≤ c.val ∧ c.val ≤ 0x66 then some (c.val - 0x57)
  else none

def encodeByte (b : UInt8) : Text :=
  Text.hexDigits 2 b.toNat

def encode (bytes : List UInt8) : Text :=
  bytes.flatMap encodeByte

/-- Two digits for each byte, and nothing left over. -/
def decodePairs? : Text → Option (List UInt8)
  | [] => some []
  | [_] => none
  | c :: d :: rest =>
    match digit? c, digit? d, decodePairs? rest with
    | some x, some y, some bytes => some (UInt8.ofNat (16 * x + y) :: bytes)
    | _, _, _ => none

/-- Nothing comes of no text and of the empty one. -/
def decode : Option Text → Except HexError (Option (List UInt8))
  | none => .ok none
  | some t =>
    if t.isEmpty then .ok none
    else if t.length % 2 ≠ 0 then .error (.oddLength t.length)
    else
      match decodePairs? t with
      | some bytes => .ok (some bytes)
      | none => .error (.notHex t)

end Hex
end TypedText
