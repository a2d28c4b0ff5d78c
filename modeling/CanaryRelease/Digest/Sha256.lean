import CanaryRelease.Text.Hex

/-!
# SHA-256

The message is padded to whole blocks of 64 bytes; each block is expanded to a schedule of 64 words
and mixed into the state of eight words. The digest is the final state in hexadecimal.
-/

namespace CanaryRelease.Sha256

/-- The round constants: the first 32 bits of the fractions of the cube roots of the first 64
primes. -/
def roundConstants : List UInt32 := [
  0x428a2f98, 0x71374491, 0xb5c0fbcf, 0xe9b5dba5, 0x3956c25b, 0x59f111f1, 0x923f82a4, 0xab1c5ed5,
  0xd807aa98, 0x12835b01, 0x243185be, 0x550c7dc3, 0x72be5d74, 0x80deb1fe, 0x9bdc06a7, 0xc19bf174,
  0xe49b69c1, 0xefbe4786, 0x0fc19dc6, 0x240ca1cc, 0x2de92c6f, 0x4a7484aa, 0x5cb0a9dc, 0x76f988da,
  0x983e5152, 0xa831c66d, 0xb00327c8, 0xbf597fc7, 0xc6e00bf3, 0xd5a79147, 0x06ca6351, 0x14292967,
  0x27b70a85, 0x2e1b2138, 0x4d2c6dfc, 0x53380d13, 0x650a7354, 0x766a0abb, 0x81c2c92e, 0x92722c85,
  0xa2bfe8a1, 0xa81a664b, 0xc24b8b70, 0xc76c51a3, 0xd192e819, 0xd6990624, 0xf40e3585, 0x106aa070,
  0x19a4c116, 0x1e376c08, 0x2748774c, 0x34b0bcb5, 0x391c0cb3, 0x4ed8aa4a, 0x5b9cca4f, 0x682e6ff3,
  0x748f82ee, 0x78a5636f, 0x84c87814, 0x8cc70208, 0x90befffa, 0xa4506ceb, 0xbef9a3f7, 0xc67178f2]

/-- The eight words that a message is mixed into. -/
structure State where
  a : UInt32
  b : UInt32
  c : UInt32
  d : UInt32
  e : UInt32
  f : UInt32
  g : UInt32
  h : UInt32
  deriving DecidableEq, Repr

/-- The state before the first block: the first 32 bits of the fractions of the square roots of the
first eight primes. -/
def initialState : State :=
  ⟨0x6a09e667, 0xbb67ae85, 0x3c6ef372, 0xa54ff53a, 0x510e527f, 0x9b05688c, 0x1f83d9ab, 0x5be0cd19⟩

/-- A word turned right by a number of bits. -/
def rotate (w : UInt32) (n : UInt32) : UInt32 := (w >>> n) ||| (w <<< (32 - n))

/-- The next word of a schedule from the words so far, the latest first. -/
def nextWord (latest : List UInt32) : UInt32 :=
  let near := latest.getD 1 0
  let far := latest.getD 14 0
  (rotate near 17 ^^^ rotate near 19 ^^^ (near >>> 10)) + latest.getD 6 0 +
    (rotate far 7 ^^^ rotate far 18 ^^^ (far >>> 3)) + latest.getD 15 0

/-- A schedule continued by a number of words, the latest first. -/
def extend : Nat → List UInt32 → List UInt32
  | 0, latest => latest
  | n + 1, latest => extend n (nextWord latest :: latest)

/-- One round: a constant and a word of the schedule are mixed into the state. -/
def mixWord (s : State) (constant word : UInt32) : State :=
  let first := s.h + (rotate s.e 6 ^^^ rotate s.e 11 ^^^ rotate s.e 25) +
    ((s.e &&& s.f) ^^^ (~~~s.e &&& s.g)) + constant + word
  let second := (rotate s.a 2 ^^^ rotate s.a 13 ^^^ rotate s.a 22) +
    ((s.a &&& s.b) ^^^ (s.a &&& s.c) ^^^ (s.b &&& s.c))
  ⟨first + second, s.a, s.b, s.c, s.d + first, s.e, s.f, s.g⟩

/-- The sum of two states, word by word. -/
def State.add (s t : State) : State :=
  ⟨s.a + t.a, s.b + t.b, s.c + t.c, s.d + t.d, s.e + t.e, s.f + t.f, s.g + t.g, s.h + t.h⟩

/-- Mixes the sixteen words of a block into the state. -/
def mixBlock (s : State) (words : List UInt32) : State :=
  let schedule := (extend 48 words.reverse).reverse
  s.add ((roundConstants.zip schedule).foldl (fun t round => mixWord t round.1 round.2) s)

/-- The bytes of a number, most significant first. -/
def bigEndian : Nat → Nat → List UInt8
  | 0, _ => []
  | count + 1, n => bigEndian count (n / 256) ++ [UInt8.ofNat n]

/-- A message padded to whole blocks: a bit one, zeros, and the length in bits. -/
def pad (message : List UInt8) : List UInt8 :=
  message ++ 0x80 :: List.replicate ((119 - message.length % 64) % 64) 0 ++
    bigEndian 8 (8 * message.length)

/-- The words of a text of bytes, four bytes each. -/
def words : List UInt8 → List UInt32
  | a :: b :: c :: d :: rest =>
    ((a.toUInt32 <<< 24) ||| (b.toUInt32 <<< 16) ||| (c.toUInt32 <<< 8) ||| d.toUInt32) ::
      words rest
  | _ => []

/-- Mixes words into the state, sixteen at a time; the first argument bounds the number of blocks.
-/
def mixBlocks : Nat → State → List UInt32 → State
  | 0, s, _ => s
  | n + 1, s, ws => if ws.isEmpty then s else mixBlocks n (mixBlock s (ws.take 16)) (ws.drop 16)

/-- The digest of a message. -/
def digest (message : List UInt8) : State :=
  let ws := words (pad message)
  mixBlocks ws.length initialState ws

/-- A state in hexadecimal, eight digits for each word. -/
def State.toHex (s : State) : String :=
  String.ofList <|
    [s.a, s.b, s.c, s.d, s.e, s.f, s.g, s.h].flatMap fun word => Text.hex 8 word.toNat

end CanaryRelease.Sha256
