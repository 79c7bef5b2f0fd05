/-!
# SHA-256

The message is padded to whole blocks of 64 bytes; each block is stretched to a schedule of 64 words
and folded into a state of eight words.
-/

namespace Alerting.Sha256

/-- Eight words: the state between two blocks. -/
structure Words where
  a : UInt32
  b : UInt32
  c : UInt32
  d : UInt32
  e : UInt32
  f : UInt32
  g : UInt32
  h : UInt32

/-- The state before the first block. -/
def start : Words :=
  ⟨0x6a09e667, 0xbb67ae85, 0x3c6ef372, 0xa54ff53a, 0x510e527f, 0x9b05688c, 0x1f83d9ab, 0x5be0cd19⟩

def roundConstants : List UInt32 :=
  [0x428a2f98, 0x71374491, 0xb5c0fbcf, 0xe9b5dba5, 0x3956c25b, 0x59f111f1, 0x923f82a4, 0xab1c5ed5,
   0xd807aa98, 0x12835b01, 0x243185be, 0x550c7dc3, 0x72be5d74, 0x80deb1fe, 0x9bdc06a7, 0xc19bf174,
   0xe49b69c1, 0xefbe4786, 0x0fc19dc6, 0x240ca1cc, 0x2de92c6f, 0x4a7484aa, 0x5cb0a9dc, 0x76f988da,
   0x983e5152, 0xa831c66d, 0xb00327c8, 0xbf597fc7, 0xc6e00bf3, 0xd5a79147, 0x06ca6351, 0x14292967,
   0x27b70a85, 0x2e1b2138, 0x4d2c6dfc, 0x53380d13, 0x650a7354, 0x766a0abb, 0x81c2c92e, 0x92722c85,
   0xa2bfe8a1, 0xa81a664b, 0xc24b8b70, 0xc76c51a3, 0xd192e819, 0xd6990624, 0xf40e3585, 0x106aa070,
   0x19a4c116, 0x1e376c08, 0x2748774c, 0x34b0bcb5, 0x391c0cb3, 0x4ed8aa4a, 0x5b9cca4f, 0x682e6ff3,
   0x748f82ee, 0x78a5636f, 0x84c87814, 0x8cc70208, 0x90befffa, 0xa4506ceb, 0xbef9a3f7, 0xc67178f2]

def rotateRight (x n : UInt32) : UInt32 := (x >>> n) ||| (x <<< (32 - n))

/-- The least `k` with `n + k` a multiple of 64. -/
def gap (n : Nat) : Nat := (64 - n % 64) % 64

/-- The bytes of `n`, highest first, in `count` places. -/
def bigEndian (count n : Nat) : List UInt8 :=
  (List.range count).reverse.map fun i => UInt8.ofNat (n >>> (8 * i))

/-- The message, a set bit, zeros up to eight bytes before a block ends, and the length in bits. -/
def pad (message : List UInt8) : List UInt8 :=
  let n := message.length
  message ++ 0x80 :: List.replicate (gap (n + 9)) 0 ++ bigEndian 8 (8 * n)

/-- The words of a list of bytes, four bytes each, highest first. -/
def words : List UInt8 → List UInt32
  | a :: b :: c :: d :: rest =>
    ((a.toUInt32 <<< 24) ||| (b.toUInt32 <<< 16) ||| (c.toUInt32 <<< 8) ||| d.toUInt32) ::
      words rest
  | _ => []

/-- The schedule grown by `n` words; it is kept with the newest word first. -/
def stretch : Nat → List UInt32 → List UInt32
  | 0, ws => ws
  | n + 1, ws =>
    let w15 := ws.getD 14 0
    let w2 := ws.getD 1 0
    let s₀ := rotateRight w15 7 ^^^ rotateRight w15 18 ^^^ (w15 >>> 3)
    let s₁ := rotateRight w2 17 ^^^ rotateRight w2 19 ^^^ (w2 >>> 10)
    stretch n ((ws.getD 15 0 + s₀ + ws.getD 6 0 + s₁) :: ws)

def schedule (block : List UInt32) : List UInt32 := (stretch 48 block.reverse).reverse

def round (s : Words) (k w : UInt32) : Words :=
  let S₁ := rotateRight s.e 6 ^^^ rotateRight s.e 11 ^^^ rotateRight s.e 25
  let choice := (s.e &&& s.f) ^^^ (~~~s.e &&& s.g)
  let t₁ := s.h + S₁ + choice + k + w
  let S₀ := rotateRight s.a 2 ^^^ rotateRight s.a 13 ^^^ rotateRight s.a 22
  let majority := (s.a &&& s.b) ^^^ (s.a &&& s.c) ^^^ (s.b &&& s.c)
  ⟨t₁ + (S₀ + majority), s.a, s.b, s.c, s.d + t₁, s.e, s.f, s.g⟩

/-- Folds one block of sixteen words into the state. -/
def absorb (s : Words) (block : List UInt32) : Words :=
  let t := (roundConstants.zip (schedule block)).foldl (fun t kw => round t kw.1 kw.2) s
  ⟨s.a + t.a, s.b + t.b, s.c + t.c, s.d + t.d, s.e + t.e, s.f + t.f, s.g + t.g, s.h + t.h⟩

/-- Folds `count` blocks into the state. -/
def absorbAll : Nat → Words → List UInt32 → Words
  | 0, s, _ => s
  | count + 1, s, ws => absorbAll count (absorb s (ws.take 16)) (ws.drop 16)

def digestWords (message : List UInt8) : List UInt32 :=
  let ws := words (pad message)
  let s := absorbAll (ws.length / 16) start ws
  [s.a, s.b, s.c, s.d, s.e, s.f, s.g, s.h]

def digest (message : List UInt8) : List UInt8 :=
  (digestWords message).flatMap fun w => bigEndian 4 w.toNat

end Alerting.Sha256
