import TypedText.Text

/-!
# TypedText.Utf8

Texts as files hold them: bytes in UTF-8, which have no form for surrogates. A file is decoded as it
comes in, so bytes at its end that only begin a code point are looked at once more, on their own, when
nothing follows.

* `Utf8.encode?`: the bytes of a text without surrogates.
* `Utf8.decode`: the text of bytes, or the first bytes that cannot be decoded and why.
* `Utf8.decodeFile`: the same, with all line ends made line feeds.
* `Utf8.stream`: what a reader gets of a file, up to where it cannot be decoded.
-/

namespace TypedText
namespace Utf8

inductive Reason
  | invalidStart
  | invalidContinuation
  | unexpectedEnd
  deriving DecidableEq, Repr

/-- The bytes that cannot be decoded, by where the first one stands, and why. -/
structure DecodeError where
  position : Nat
  bytes : List UInt8
  reason : Reason
  deriving DecidableEq, Repr

namespace Reason

def text : Reason → String
  | invalidStart => "invalid start byte"
  | invalidContinuation => "invalid continuation byte"
  | unexpectedEnd => "unexpected end of data"

end Reason

def hexByte (b : UInt8) : String :=
  String.ofList [Nat.digitChar (b.toNat / 16), Nat.digitChar (b.toNat % 16)]

namespace DecodeError

def message (e : DecodeError) : String :=
  let start := e.position
  let why := e.reason.text
  match e.bytes with
  | [b] =>
    let byte := hexByte b
    s!"'utf-8' codec can't decode byte 0x{byte} in position {start}: {why}"
  | bytes =>
    let last := start + bytes.length - 1
    s!"'utf-8' codec can't decode bytes in position {start}-{last}: {why}"

end DecodeError

def encodeUnit (c : CodePoint) : List UInt8 :=
  let n := c.val
  let byte (k : Nat) : UInt8 := UInt8.ofNat k
  let tail (k : Nat) : UInt8 := UInt8.ofNat (0x80 + k % 0x40)
  if n < 0x80 then [byte n]
  else if n < 0x800 then [byte (0xC0 + n / 0x40), tail n]
  else if n < 0x10000 then [byte (0xE0 + n / 0x1000), tail (n / 0x40), tail n]
  else [byte (0xF0 + n / 0x40000), tail (n / 0x1000), tail (n / 0x40), tail n]

def encode? (t : Text) : Option (List UInt8) :=
  if t.hasSurrogate then none else some (t.flatMap encodeUnit)

/-- What stands at the front of bytes. -/
inductive Front
  | codePoint (c : CodePoint) (rest : List UInt8)
  /-- The bytes begin a code point and end within it. -/
  | cut
  | bad (length : Nat) (reason : Reason)

def isTail (b : UInt8) : Bool :=
  0x80 ≤ b && b < 0xC0

/-- Whether the second byte suits the first one: no code point has a longer form than it needs,
none is a surrogate, and none is above the greatest. -/
def secondFits (first second : UInt8) : Bool :=
  isTail second &&
    !(first == 0xE0 && second < 0xA0) && !(first == 0xED && 0xA0 ≤ second) &&
    !(first == 0xF0 && second < 0x90) && !(first == 0xF4 && 0x90 ≤ second)

def bits (b : UInt8) : Nat :=
  b.toNat % 0x40

/-- `more` says that further bytes may follow those given. -/
def front (more : Bool) (first : UInt8) (rest : List UInt8) : Front :=
  if first < 0x80 then .codePoint (.ofNat first.toNat) rest
  else if first < 0xC2 ∨ 0xF5 ≤ first then .bad 1 .invalidStart
  else
    match rest with
    | [] => .cut
    | second :: rest =>
      if !secondFits first second then
        if more && first == 0xED && isTail second && rest.isEmpty then .cut
        else .bad 1 .invalidContinuation
      else if first < 0xE0 then
        .codePoint (.ofNat (first.toNat % 0x20 * 0x40 + bits second)) rest
      else
        match rest with
        | [] => .cut
        | third :: rest =>
          if !isTail third then .bad 2 .invalidContinuation
          else if first < 0xF0 then
            .codePoint
              (.ofNat (first.toNat % 0x10 * 0x1000 + bits second * 0x40 + bits third)) rest
          else
            match rest with
            | [] => .cut
            | fourth :: rest =>
              if !isTail fourth then .bad 3 .invalidContinuation
              else
                .codePoint
                  (.ofNat (first.toNat % 0x08 * 0x40000 + bits second * 0x1000 +
                    bits third * 0x40 + bits fourth)) rest

/-- What is wrong with bytes at the end of a file that begin a code point. -/
def cutError (bytes : List UInt8) : DecodeError :=
  match bytes with
  | [] => ⟨0, [], .unexpectedEnd⟩
  | first :: rest =>
    match front false first rest with
    | .bad n reason => ⟨0, (first :: rest).take n, reason⟩
    | _ => ⟨0, first :: rest, .unexpectedEnd⟩

/-- Decodes bytes that stand at `position`; every code point takes a byte, so their number bounds
the number of steps. -/
def decodeFrom : Nat → Nat → List UInt8 → Except DecodeError Text
  | _, _, [] => .ok []
  | 0, position, bytes => .error ⟨position, bytes, .unexpectedEnd⟩
  | fuel + 1, position, first :: rest =>
    match front true first rest with
    | .cut => .error (cutError (first :: rest))
    | .bad n reason => .error ⟨position, (first :: rest).take n, reason⟩
    | .codePoint c rest' =>
      match decodeFrom fuel (position + (rest.length + 1 - rest'.length)) rest' with
      | .error e => .error e
      | .ok t => .ok (c :: t)

def decode (bytes : List UInt8) : Except DecodeError Text :=
  decodeFrom bytes.length 0 bytes

def lineFeeds : Text → Text
  | [] => []
  | c :: rest =>
    if c.val = 0x0D then
      match rest with
      | [] => [0x0A]
      | d :: rest' => if d.val = 0x0A then 0x0A :: lineFeeds rest' else 0x0A :: lineFeeds (d :: rest')
    else c :: lineFeeds rest

def decodeFile (bytes : List UInt8) : Except DecodeError Text :=
  (decode bytes).map lineFeeds

/-- The text of a file up to the first bytes that cannot be decoded, and what is wrong with these, if
there are any. -/
structure Stream where
  text : Text
  fault? : Option DecodeError
  deriving DecidableEq, Repr

def readableFrom : Nat → List UInt8 → Text
  | fuel + 1, first :: rest =>
    match front true first rest with
    | .codePoint c rest' => c :: readableFrom fuel rest'
    | _ => []
  | _, _ => []

def stream (bytes : List UInt8) : Stream :=
  match decodeFile bytes with
  | .ok t => ⟨t, none⟩
  | .error e => ⟨lineFeeds (readableFrom bytes.length bytes), some e⟩

end Utf8
end TypedText
