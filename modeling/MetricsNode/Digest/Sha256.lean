/-!
# SHA-256

The hash of FIPS 180-4. The message is padded with a one bit, zeros, and its length in bits as
a 64-bit big-endian number, to a whole number of 64-byte blocks; each block is expanded to 64
schedule words and mixed into eight state words by 64 rounds; the digest is the final state,
each word written big-endian.

Everything is a fold over a list of indices, so the definitions are total and evaluate by
unfolding.
-/

namespace MetricsNode.Digest

/-- The round constants: the first 32 bits of the fractional parts of the cube roots of the
first 64 primes. -/
def roundConstants : Array UInt32 := #[
  0x428a2f98, 0x71374491, 0xb5c0fbcf, 0xe9b5dba5, 0x3956c25b, 0x59f111f1, 0x923f82a4, 0xab1c5ed5,
  0xd807aa98, 0x12835b01, 0x243185be, 0x550c7dc3, 0x72be5d74, 0x80deb1fe, 0x9bdc06a7, 0xc19bf174,
  0xe49b69c1, 0xefbe4786, 0x0fc19dc6, 0x240ca1cc, 0x2de92c6f, 0x4a7484aa, 0x5cb0a9dc, 0x76f988da,
  0x983e5152, 0xa831c66d, 0xb00327c8, 0xbf597fc7, 0xc6e00bf3, 0xd5a79147, 0x06ca6351, 0x14292967,
  0x27b70a85, 0x2e1b2138, 0x4d2c6dfc, 0x53380d13, 0x650a7354, 0x766a0abb, 0x81c2c92e, 0x92722c85,
  0xa2bfe8a1, 0xa81a664b, 0xc24b8b70, 0xc76c51a3, 0xd192e819, 0xd6990624, 0xf40e3585, 0x106aa070,
  0x19a4c116, 0x1e376c08, 0x2748774c, 0x34b0bcb5, 0x391c0cb3, 0x4ed8aa4a, 0x5b9cca4f, 0x682e6ff3,
  0x748f82ee, 0x78a5636f, 0x84c87814, 0x8cc70208, 0x90befffa, 0xa4506ceb, 0xbef9a3f7, 0xc67178f2]

/-- The eight words of the hash state. -/
structure HashState where
  a : UInt32
  b : UInt32
  c : UInt32
  d : UInt32
  e : UInt32
  f : UInt32
  g : UInt32
  h : UInt32
  deriving DecidableEq, Repr

/-- The initial state: the first 32 bits of the fractional parts of the square roots of the
first eight primes. -/
def initialState : HashState :=
  ⟨0x6a09e667, 0xbb67ae85, 0x3c6ef372, 0xa54ff53a, 0x510e527f, 0x9b05688c, 0x1f83d9ab, 0x5be0cd19⟩

/-- Rotates a word right. -/
def rotateRight (x : UInt32) (n : UInt32) : UInt32 := (x >>> n) ||| (x <<< (32 - n))

/-- The mixing function `Σ₀` of the rounds. -/
def bigSigma0 (x : UInt32) : UInt32 := rotateRight x 2 ^^^ rotateRight x 13 ^^^ rotateRight x 22

/-- The mixing function `Σ₁` of the rounds. -/
def bigSigma1 (x : UInt32) : UInt32 := rotateRight x 6 ^^^ rotateRight x 11 ^^^ rotateRight x 25

/-- The mixing function `σ₀` of the schedule. -/
def smallSigma0 (x : UInt32) : UInt32 := rotateRight x 7 ^^^ rotateRight x 18 ^^^ (x >>> 3)

/-- The mixing function `σ₁` of the schedule. -/
def smallSigma1 (x : UInt32) : UInt32 := rotateRight x 17 ^^^ rotateRight x 19 ^^^ (x >>> 10)

/-- Bitwise choice: `y` where `x` is set, `z` elsewhere. -/
def choose (x y z : UInt32) : UInt32 := (x &&& y) ^^^ (~~~x &&& z)

/-- Bitwise majority of three words. -/
def majority (x y z : UInt32) : UInt32 := (x &&& y) ^^^ (x &&& z) ^^^ (y &&& z)

/-- The word of four bytes, big-endian, at a byte offset. -/
def wordAt (bytes : Array UInt8) (offset : Nat) : UInt32 :=
  (List.range 4).foldl (fun w i => (w <<< 8) ||| (bytes.getD (offset + i) 0).toUInt32) 0

/-- The 64 schedule words of the block at a byte offset. -/
def schedule (bytes : Array UInt8) (offset : Nat) : Array UInt32 :=
  let first := ((List.range 16).map fun i => wordAt bytes (offset + 4 * i)).toArray
  (List.range 48).foldl (fun w t =>
    let i := t + 16
    w.push (smallSigma1 (w.getD (i - 2) 0) + w.getD (i - 7) 0 + smallSigma0 (w.getD (i - 15) 0) +
      w.getD (i - 16) 0)) first

/-- One round with its constant `k` and schedule word `w`. -/
def round (s : HashState) (k w : UInt32) : HashState :=
  let t1 := s.h + bigSigma1 s.e + choose s.e s.f s.g + k + w
  let t2 := bigSigma0 s.a + majority s.a s.b s.c
  ⟨t1 + t2, s.a, s.b, s.c, s.d + t1, s.e, s.f, s.g⟩

/-- Mixes the block at a byte offset into the state. -/
def compress (s : HashState) (bytes : Array UInt8) (offset : Nat) : HashState :=
  let w := schedule bytes offset
  let r := (List.range 64).foldl (fun r t => round r (roundConstants.getD t 0) (w.getD t 0)) s
  ⟨s.a + r.a, s.b + r.b, s.c + r.c, s.d + r.d, s.e + r.e, s.f + r.f, s.g + r.g, s.h + r.h⟩

/-- The eight big-endian bytes of a number below `2 ^ 64`. -/
def bigEndian64 (n : Nat) : List UInt8 :=
  (List.range 8).reverse.map fun i => (n / Nat.pow 2 (8 * i) % 256).toUInt8

/-- The padded message: the bytes, a one bit, zeros up to 56 bytes past a block boundary, and
the length in bits. -/
def pad (msg : List UInt8) : List UInt8 :=
  let zeros := (119 - msg.length % 64) % 64
  msg ++ [0x80] ++ List.replicate zeros 0 ++ bigEndian64 (8 * msg.length)

/-- The four big-endian bytes of a word. -/
def wordBytes (w : UInt32) : List UInt8 :=
  [(w >>> 24).toUInt8, (w >>> 16).toUInt8, (w >>> 8).toUInt8, w.toUInt8]

/-- The 32-byte digest of a message. -/
def sha256 (msg : List UInt8) : List UInt8 :=
  let padded := (pad msg).toArray
  let s := (List.range (padded.size / 64)).foldl (fun s i => compress s padded (64 * i)) initialState
  [s.a, s.b, s.c, s.d, s.e, s.f, s.g, s.h].flatMap wordBytes

end MetricsNode.Digest
