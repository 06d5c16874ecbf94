/-
  UTF-8 — bytes to characters and back.

  `Utf8.front` looks at the front of some bytes: there is a well-formed
  character, or a broken stretch, which is the longest start of a well-formed
  sequence that goes no further (one byte at least). The strict reader, `Utf8.decode`,
  stops at a broken stretch; the lenient one, `Utf8.decodeLossy`, puts U+FFFD in its place.
-/

namespace RecordBridge

/-- A sequence of octets. -/
abbrev Bytes := List UInt8

namespace Utf8

/-- What the front of some bytes holds. -/
inductive Front
  | ended
  | char (value : Char) (rest : Bytes)
  | broken (rest : Bytes)

/-- Whether a byte continues a character. -/
def isTail (b : UInt8) : Bool := 0x80 ≤ b && b ≤ 0xBF

/-- The six payload bits of a continuation byte. -/
def tailBits (b : UInt8) : Nat := b.toNat % 64

/-- Whether `second` may follow `first` in a sequence of three. -/
def fitsThree (first second : UInt8) : Bool :=
  if first = 0xE0 then 0xA0 ≤ second && second ≤ 0xBF
  else if first = 0xED then 0x80 ≤ second && second ≤ 0x9F
  else isTail second

/-- Whether `second` may follow `first` in a sequence of four. -/
def fitsFour (first second : UInt8) : Bool :=
  if first = 0xF0 then 0x90 ≤ second && second ≤ 0xBF
  else if first = 0xF4 then 0x80 ≤ second && second ≤ 0x8F
  else isTail second

/-- Two bytes after the first have been seen to belong to a sequence of four. -/
def frontFour (a b : UInt8) : Bytes → Front
  | c :: rest =>
    if isTail c then
      match rest with
      | d :: rest' =>
        if isTail d then
          .char (Char.ofNat ((a.toNat % 8) * 262144 + tailBits b * 4096 + tailBits c * 64
            + tailBits d)) rest'
        else .broken rest
      | [] => .broken []
    else .broken (c :: rest)
  | [] => .broken []

/-- The front of some bytes. -/
def front : Bytes → Front
  | [] => .ended
  | a :: rest =>
    if a < 0x80 then .char (Char.ofNat a.toNat) rest
    else if 0xC2 ≤ a && a ≤ 0xDF then
      match rest with
      | b :: rest' =>
        if isTail b then .char (Char.ofNat ((a.toNat % 32) * 64 + tailBits b)) rest'
        else .broken rest
      | [] => .broken []
    else if 0xE0 ≤ a && a ≤ 0xEF then
      match rest with
      | b :: rest' =>
        if fitsThree a b then
          match rest' with
          | c :: rest'' =>
            if isTail c then
              .char (Char.ofNat ((a.toNat % 16) * 4096 + tailBits b * 64 + tailBits c)) rest''
            else .broken rest'
          | [] => .broken []
        else .broken rest
      | [] => .broken []
    else if 0xF0 ≤ a && a ≤ 0xF4 then
      match rest with
      | b :: rest' => if fitsFour a b then frontFour a b rest' else .broken rest
      | [] => .broken []
    else .broken rest

/-- Reads up to the first broken stretch with at most `fuel` steps; the characters read so
far are in `seen`, last first. -/
def strictLoop : Nat → List Char → Bytes → List Char × Bytes
  | 0, seen, bytes => (seen.reverse, bytes)
  | fuel + 1, seen, bytes =>
    match front bytes with
    | .char c rest => strictLoop fuel (c :: seen) rest
    | _ => (seen.reverse, bytes)

/-- The characters up to the first broken stretch, and the bytes from there on. -/
def decode (bytes : Bytes) : List Char × Bytes := strictLoop (bytes.length + 1) [] bytes

/-- Reads with at most `fuel` steps, putting U+FFFD for each broken stretch; the
characters read so far are in `seen`, last first. -/
def lossyLoop : Nat → List Char → Bytes → List Char
  | 0, seen, _ => seen.reverse
  | fuel + 1, seen, bytes =>
    match front bytes with
    | .ended => seen.reverse
    | .char c rest => lossyLoop fuel (c :: seen) rest
    | .broken rest => lossyLoop fuel (Char.ofNat 0xFFFD :: seen) rest

/-- The characters of any bytes, with U+FFFD for each broken stretch. -/
def decodeLossy (bytes : Bytes) : List Char := lossyLoop (bytes.length + 1) [] bytes

/-- The bytes of a string. -/
def encode (s : String) : Bytes := s.toList.flatMap String.utf8EncodeChar

end Utf8

end RecordBridge
