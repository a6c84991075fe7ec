import StatementBundler.Text.Hexadecimal

/-!
# Fingerprints of module texts

The report of a build names every module's text by its SHA-256 digest.  The digest works on
32-bit words: the message is padded to whole blocks of 64 bytes, each block is expanded to a
schedule of 64 words, and 64 rounds mix the schedule into a state of eight words.
-/

namespace StatementBundler.Digest

/-- The additive constants of the 64 rounds. -/
def roundConstants : Array UInt32 :=
  #[0x428a2f98, 0x71374491, 0xb5c0fbcf, 0xe9b5dba5, 0x3956c25b, 0x59f111f1, 0x923f82a4, 0xab1c5ed5,
    0xd807aa98, 0x12835b01, 0x243185be, 0x550c7dc3, 0x72be5d74, 0x80deb1fe, 0x9bdc06a7, 0xc19bf174,
    0xe49b69c1, 0xefbe4786, 0x0fc19dc6, 0x240ca1cc, 0x2de92c6f, 0x4a7484aa, 0x5cb0a9dc, 0x76f988da,
    0x983e5152, 0xa831c66d, 0xb00327c8, 0xbf597fc7, 0xc6e00bf3, 0xd5a79147, 0x06ca6351, 0x14292967,
    0x27b70a85, 0x2e1b2138, 0x4d2c6dfc, 0x53380d13, 0x650a7354, 0x766a0abb, 0x81c2c92e, 0x92722c85,
    0xa2bfe8a1, 0xa81a664b, 0xc24b8b70, 0xc76c51a3, 0xd192e819, 0xd6990624, 0xf40e3585, 0x106aa070,
    0x19a4c116, 0x1e376c08, 0x2748774c, 0x34b0bcb5, 0x391c0cb3, 0x4ed8aa4a, 0x5b9cca4f, 0x682e6ff3,
    0x748f82ee, 0x78a5636f, 0x84c87814, 0x8cc70208, 0x90befffa, 0xa4506ceb, 0xbef9a3f7, 0xc67178f2]

/-- The eight words of the state. -/
structure State where
  a : UInt32
  b : UInt32
  c : UInt32
  d : UInt32
  e : UInt32
  f : UInt32
  g : UInt32
  h : UInt32
deriving Repr, DecidableEq

/-- The state before the first block. -/
def State.start : State :=
  ⟨0x6a09e667, 0xbb67ae85, 0x3c6ef372, 0xa54ff53a, 0x510e527f, 0x9b05688c, 0x1f83d9ab, 0x5be0cd19⟩

/-- The words of a state in order. -/
def State.words (s : State) : List UInt32 :=
  [s.a, s.b, s.c, s.d, s.e, s.f, s.g, s.h]

/-- The word-wise sum of two states. -/
def State.plus (s t : State) : State :=
  ⟨s.a + t.a, s.b + t.b, s.c + t.c, s.d + t.d, s.e + t.e, s.f + t.f, s.g + t.g, s.h + t.h⟩

/-- A word turned right by `n` places. -/
def rotate (x n : UInt32) : UInt32 :=
  (x >>> n) ||| (x <<< (32 - n))

/-- One round with the scheduled word `w` and the constant `k`. -/
def State.round (s : State) (k w : UInt32) : State :=
  let choice := (s.e &&& s.f) ^^^ (~~~s.e &&& s.g)
  let majority := (s.a &&& s.b) ^^^ (s.a &&& s.c) ^^^ (s.b &&& s.c)
  let first := s.h + (rotate s.e 6 ^^^ rotate s.e 11 ^^^ rotate s.e 25) + choice + k + w
  let second := (rotate s.a 2 ^^^ rotate s.a 13 ^^^ rotate s.a 22) + majority
  ⟨first + second, s.a, s.b, s.c, s.d + first, s.e, s.f, s.g⟩

/-- The schedule of a block: its sixteen words and 48 more, each mixed from four earlier ones. -/
def schedule (block : Array UInt32) : Array UInt32 :=
  (List.range 48).foldl (fun words i =>
    let near := words.getD (i + 14) 0
    let far := words.getD (i + 1) 0
    words.push (words.getD i 0 + words.getD (i + 9) 0 +
      (rotate far 7 ^^^ rotate far 18 ^^^ (far >>> 3)) +
      (rotate near 17 ^^^ rotate near 19 ^^^ (near >>> 10)))) block

/-- The state after one more block. -/
def State.absorb (s : State) (block : Array UInt32) : State :=
  s.plus ((roundConstants.toList.zip (schedule block).toList).foldl
    (fun t (k, w) => t.round k w) s)

/-- The bytes of a number from the highest to the lowest, `count` of them. -/
def bigEndian (count n : Nat) : List UInt8 :=
  (List.range count).reverse.map fun i => (n >>> (8 * i)).toUInt8

/-- A message of whole blocks: a one bit, zeros, and the length of the message in bits. -/
def pad (message : List UInt8) : List UInt8 :=
  let zeros := (119 - message.length % 64) % 64
  message ++ 0x80 :: List.replicate zeros 0 ++ bigEndian 8 (8 * message.length)

/-- Reads bytes as words, four at a time. -/
def toWords : List UInt8 → List UInt32
  | a :: b :: c :: d :: rest =>
    (a.toUInt32 <<< 24 ||| b.toUInt32 <<< 16 ||| c.toUInt32 <<< 8 ||| d.toUInt32) :: toWords rest
  | _ => []

/-- Absorbs `count` blocks of sixteen words. -/
def absorbBlocks : Nat → State → List UInt32 → State
  | 0, s, _ => s
  | count + 1, s, words => absorbBlocks count (s.absorb (words.take 16).toArray) (words.drop 16)

/-- The SHA-256 digest of a message in lower-case hexadecimal digits. -/
def sha256 (message : List UInt8) : String :=
  let words := toWords (pad message)
  let final := absorbBlocks (words.length / 16) .start words
  String.ofList (final.words.flatMap fun w => (bigEndian 4 w.toNat).flatMap Text.hexByte)

/-- The digest of the UTF-8 form of a text. -/
def ofText (text : String) : String :=
  sha256 text.toUTF8.toList

end StatementBundler.Digest
