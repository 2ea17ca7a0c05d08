/-!
# SHA-256

The SHA-256 digest of a byte list, as specified in FIPS 180-4. The message is padded to whole
64-byte blocks; each block is expanded into a schedule of sixty-four words and folded into the
eight-word state by sixty-four rounds.

## Main definitions

* `hash`: the digest.
-/

namespace TradeLedger

namespace Sha256

/-- The round constants: the first 32 bits of the fractional parts of the cube roots of the
first sixty-four primes. -/
def roundConstants : Array UInt32 := #[
  0x428a2f98, 0x71374491, 0xb5c0fbcf, 0xe9b5dba5,
  0x3956c25b, 0x59f111f1, 0x923f82a4, 0xab1c5ed5,
  0xd807aa98, 0x12835b01, 0x243185be, 0x550c7dc3,
  0x72be5d74, 0x80deb1fe, 0x9bdc06a7, 0xc19bf174,
  0xe49b69c1, 0xefbe4786, 0x0fc19dc6, 0x240ca1cc,
  0x2de92c6f, 0x4a7484aa, 0x5cb0a9dc, 0x76f988da,
  0x983e5152, 0xa831c66d, 0xb00327c8, 0xbf597fc7,
  0xc6e00bf3, 0xd5a79147, 0x06ca6351, 0x14292967,
  0x27b70a85, 0x2e1b2138, 0x4d2c6dfc, 0x53380d13,
  0x650a7354, 0x766a0abb, 0x81c2c92e, 0x92722c85,
  0xa2bfe8a1, 0xa81a664b, 0xc24b8b70, 0xc76c51a3,
  0xd192e819, 0xd6990624, 0xf40e3585, 0x106aa070,
  0x19a4c116, 0x1e376c08, 0x2748774c, 0x34b0bcb5,
  0x391c0cb3, 0x4ed8aa4a, 0x5b9cca4f, 0x682e6ff3,
  0x748f82ee, 0x78a5636f, 0x84c87814, 0x8cc70208,
  0x90befffa, 0xa4506ceb, 0xbef9a3f7, 0xc67178f2]

/-- The eight working words. -/
structure Words where
  a : UInt32
  b : UInt32
  c : UInt32
  d : UInt32
  e : UInt32
  f : UInt32
  g : UInt32
  h : UInt32

/-- The initial chaining state: the first 32 bits of the fractional parts of the square roots
of the first eight primes. -/
def initial : Words :=
  ⟨0x6a09e667, 0xbb67ae85, 0x3c6ef372, 0xa54ff53a, 0x510e527f, 0x9b05688c, 0x1f83d9ab,
   0x5be0cd19⟩

/-- Rotate right by `n` bits, `0 < n < 32`. -/
def rotr (x n : UInt32) : UInt32 := (x >>> n) ||| (x <<< (32 - n))

/-- The big sigma of the `a` word. -/
def bigSigma0 (x : UInt32) : UInt32 := rotr x 2 ^^^ rotr x 13 ^^^ rotr x 22

/-- The big sigma of the `e` word. -/
def bigSigma1 (x : UInt32) : UInt32 := rotr x 6 ^^^ rotr x 11 ^^^ rotr x 25

/-- The small sigma applied to the word fifteen back in the schedule. -/
def sigma0 (x : UInt32) : UInt32 := rotr x 7 ^^^ rotr x 18 ^^^ (x >>> 3)

/-- The small sigma applied to the word two back in the schedule. -/
def sigma1 (x : UInt32) : UInt32 := rotr x 17 ^^^ rotr x 19 ^^^ (x >>> 10)

/-- Choose: bits of `y` where `x` is set, of `z` elsewhere. -/
def choose (x y z : UInt32) : UInt32 := (x &&& y) ^^^ (~~~x &&& z)

/-- Majority of three bits. -/
def majority (x y z : UInt32) : UInt32 := (x &&& y) ^^^ (x &&& z) ^^^ (y &&& z)

/-- Big-endian words of a byte list; a tail shorter than four bytes is ignored. -/
def words : List UInt8 → List UInt32
  | b0 :: b1 :: b2 :: b3 :: rest =>
    ((b0.toUInt32 <<< 24) ||| (b1.toUInt32 <<< 16) ||| (b2.toUInt32 <<< 8) ||| b3.toUInt32) ::
      words rest
  | _ => []

/-- Big-endian bytes of a word. -/
def wordBytes (w : UInt32) : List UInt8 :=
  [(w >>> 24).toUInt8, (w >>> 16).toUInt8, (w >>> 8).toUInt8, w.toUInt8]

/-- The sixty-four schedule words of a block of sixteen words. -/
def schedule (block : List UInt32) : Array UInt32 :=
  (List.range 48).foldl (fun (w : Array UInt32) i =>
    let t := i + 16
    w.push (sigma1 (w.getD (t - 2) 0) + w.getD (t - 7) 0 + sigma0 (w.getD (t - 15) 0) +
      w.getD (t - 16) 0)) block.toArray

/-- One round with schedule word `w` and round constant `k`. -/
def round (s : Words) (k w : UInt32) : Words :=
  let t1 := s.h + bigSigma1 s.e + choose s.e s.f s.g + k + w
  let t2 := bigSigma0 s.a + majority s.a s.b s.c
  ⟨t1 + t2, s.a, s.b, s.c, s.d + t1, s.e, s.f, s.g⟩

/-- Fold one block of sixteen words into the chaining state. -/
def compress (s : Words) (block : List UInt32) : Words :=
  let w := schedule block
  let r := (List.range 64).foldl (fun acc i => round acc (roundConstants.getD i 0) (w.getD i 0)) s
  ⟨s.a + r.a, s.b + r.b, s.c + r.c, s.d + r.d, s.e + r.e, s.f + r.f, s.g + r.g, s.h + r.h⟩

/-- The message with a one bit, zeros up to 56 bytes modulo 64, and the 64-bit big-endian bit
length. -/
def pad (msg : List UInt8) : List UInt8 :=
  let n := msg.length
  let zeros := (119 - n % 64) % 64
  let bits := 8 * n
  msg ++ 0x80 :: List.replicate zeros 0 ++
    (List.range 8).reverse.map (fun i => (bits / Nat.pow 256 i % 256).toUInt8)

/-- Blocks of sixteen words. -/
def blocks (ws : List UInt32) : List (List UInt32) :=
  if ws.length ≤ 16 then (if ws.isEmpty then [] else [ws])
  else ws.take 16 :: blocks (ws.drop 16)
termination_by ws.length
decreasing_by simp only [List.length_drop]; omega

/-- The digest of a message. -/
def hash (msg : List UInt8) : List UInt8 :=
  let s := (blocks (words (pad msg))).foldl compress initial
  [s.a, s.b, s.c, s.d, s.e, s.f, s.g, s.h].flatMap wordBytes

end Sha256

end TradeLedger
