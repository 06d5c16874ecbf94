import RecordBridge.Text.Utf8

/-
  Padding — how a message is filled up to whole blocks of 64 bytes: a byte
  `0x80`, then zeros, then the length of the message in bits as eight bytes.
-/

namespace RecordBridge.Digest

/-- The `count` low bytes of a number, the least one first. -/
def littleEndian (count n : Nat) : Bytes :=
  (List.range count).map fun i => UInt8.ofNat (n / Nat.pow 256 i % 256)

/-- The `count` low bytes of a number, the least one last. -/
def bigEndian (count n : Nat) : Bytes := (littleEndian count n).reverse

/-- A word of bytes, the least one first. -/
def wordOfLittleEndian (bytes : Bytes) : UInt32 :=
  bytes.foldr (fun b word => word * 256 + UInt32.ofNat b.toNat) 0

/-- A word of bytes, the least one last. -/
def wordOfBigEndian (bytes : Bytes) : UInt32 :=
  bytes.foldl (fun word b => word * 256 + UInt32.ofNat b.toNat) 0

/-- A message filled up to whole blocks; `lengthBytes` writes the length in bits. -/
def pad (lengthBytes : Nat → Bytes) (message : Bytes) : Bytes :=
  let zeros := (55 - (message.length : Int)) % 64
  message ++ 0x80 ::
    (List.replicate zeros.toNat 0 ++ lengthBytes (message.length * 8 % Nat.pow 2 64))

/-- Pieces of `size` elements; a piece at the end that is too short is left out. -/
def pieces {α : Type} (size : Nat) (list : List α) : List (List α) :=
  (List.range (list.length / size)).map fun i => (list.drop (i * size)).take size

/-- A word turned left by `n` bits. -/
def rotateLeft (word : UInt32) (n : UInt32) : UInt32 :=
  (word <<< n) ||| (word >>> (32 - n))

/-- A word turned right by `n` bits. -/
def rotateRight (word : UInt32) (n : UInt32) : UInt32 :=
  (word >>> n) ||| (word <<< (32 - n))

/-- The hexadecimal text of some bytes, lower case. -/
def hex (bytes : Bytes) : String :=
  let digit (n : Nat) : Char := if n < 10 then Char.ofNat (48 + n) else Char.ofNat (87 + n)
  String.ofList (bytes.flatMap fun b => [digit (b.toNat / 16), digit (b.toNat % 16)])

end RecordBridge.Digest
