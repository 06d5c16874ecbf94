import RecordBridge.Digest.Padding

/-
  SHA-256 — the secure hash of 256 bits.
-/

namespace RecordBridge.Digest.Sha256

/-- The constant of each step: the first 32 bits of the fractional part of the cube root
of its prime. -/
def cubeRoots : Array UInt32 := #[
  0x428a2f98, 0x71374491, 0xb5c0fbcf, 0xe9b5dba5, 0x3956c25b, 0x59f111f1,
  0x923f82a4, 0xab1c5ed5, 0xd807aa98, 0x12835b01, 0x243185be, 0x550c7dc3,
  0x72be5d74, 0x80deb1fe, 0x9bdc06a7, 0xc19bf174, 0xe49b69c1, 0xefbe4786,
  0x0fc19dc6, 0x240ca1cc, 0x2de92c6f, 0x4a7484aa, 0x5cb0a9dc, 0x76f988da,
  0x983e5152, 0xa831c66d, 0xb00327c8, 0xbf597fc7, 0xc6e00bf3, 0xd5a79147,
  0x06ca6351, 0x14292967, 0x27b70a85, 0x2e1b2138, 0x4d2c6dfc, 0x53380d13,
  0x650a7354, 0x766a0abb, 0x81c2c92e, 0x92722c85, 0xa2bfe8a1, 0xa81a664b,
  0xc24b8b70, 0xc76c51a3, 0xd192e819, 0xd6990624, 0xf40e3585, 0x106aa070,
  0x19a4c116, 0x1e376c08, 0x2748774c, 0x34b0bcb5, 0x391c0cb3, 0x4ed8aa4a,
  0x5b9cca4f, 0x682e6ff3, 0x748f82ee, 0x78a5636f, 0x84c87814, 0x8cc70208,
  0x90befffa, 0xa4506ceb, 0xbef9a3f7, 0xc67178f2]

/-- The chaining values. -/
structure State where
  a : UInt32
  b : UInt32
  c : UInt32
  d : UInt32
  e : UInt32
  f : UInt32
  g : UInt32
  h : UInt32

/-- The chaining values at the start: the first 32 bits of the fractional parts of the
square roots of the first eight primes. -/
def State.initial : State :=
  ⟨0x6a09e667, 0xbb67ae85, 0x3c6ef372, 0xa54ff53a,
    0x510e527f, 0x9b05688c, 0x1f83d9ab, 0x5be0cd19⟩

/-- The schedule of a block, extended by one word. -/
def extendSchedule (w : Array UInt32) (i : Nat) : Array UInt32 :=
  let early := w.getD (i - 15) 0
  let late := w.getD (i - 2) 0
  let s0 := rotateRight early 7 ^^^ rotateRight early 18 ^^^ (early >>> 3)
  let s1 := rotateRight late 17 ^^^ rotateRight late 19 ^^^ (late >>> 10)
  w.push (w.getD (i - 16) 0 + s0 + w.getD (i - 7) 0 + s1)

/-- The schedule of a block: its sixteen words and 48 more. -/
def schedule (bytes : Bytes) : Array UInt32 :=
  (List.range' 16 48).foldl extendSchedule ((pieces 4 bytes).map wordOfBigEndian).toArray

/-- One step. -/
def step (w : Array UInt32) (s : State) (i : Nat) : State :=
  let s1 := rotateRight s.e 6 ^^^ rotateRight s.e 11 ^^^ rotateRight s.e 25
  let choice := (s.e &&& s.f) ^^^ (~~~s.e &&& s.g)
  let t1 := s.h + s1 + choice + cubeRoots.getD i 0 + w.getD i 0
  let s0 := rotateRight s.a 2 ^^^ rotateRight s.a 13 ^^^ rotateRight s.a 22
  let majority := (s.a &&& s.b) ^^^ (s.a &&& s.c) ^^^ (s.b &&& s.c)
  ⟨t1 + (s0 + majority), s.a, s.b, s.c, s.d + t1, s.e, s.f, s.g⟩

/-- One block. -/
def block (s : State) (bytes : Bytes) : State :=
  let t := (List.range 64).foldl (step (schedule bytes)) s
  ⟨s.a + t.a, s.b + t.b, s.c + t.c, s.d + t.d, s.e + t.e, s.f + t.f, s.g + t.g, s.h + t.h⟩

/-- The digest of a message. -/
def digest (message : Bytes) : Bytes :=
  let s := (pieces 64 (pad (bigEndian 8) message)).foldl block State.initial
  [s.a, s.b, s.c, s.d, s.e, s.f, s.g, s.h].flatMap fun word => bigEndian 4 word.toNat

end RecordBridge.Digest.Sha256
