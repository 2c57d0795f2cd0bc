/-!
# Digests

The SHA-256 digest of a text, by which a stored template is recognised as unchanged.

* **Message**: the bytes of the text, a one bit, zeros, and the length in bits in 64 bits
  (`padded`), cut into blocks of sixteen words.
* **Blocks** are mixed into a state of eight words in 64 rounds (`compress`), each with one word of
  a schedule that starts with the block (`schedule`).
* **`digest`** writes the final state in hexadecimal digits.
-/

namespace TemplateEngine.Digest

/-- The constants of the rounds. -/
def roundConstants : List UInt32 := [
  0x428a2f98, 0x71374491, 0xb5c0fbcf, 0xe9b5dba5, 0x3956c25b, 0x59f111f1, 0x923f82a4, 0xab1c5ed5,
  0xd807aa98, 0x12835b01, 0x243185be, 0x550c7dc3, 0x72be5d74, 0x80deb1fe, 0x9bdc06a7, 0xc19bf174,
  0xe49b69c1, 0xefbe4786, 0x0fc19dc6, 0x240ca1cc, 0x2de92c6f, 0x4a7484aa, 0x5cb0a9dc, 0x76f988da,
  0x983e5152, 0xa831c66d, 0xb00327c8, 0xbf597fc7, 0xc6e00bf3, 0xd5a79147, 0x06ca6351, 0x14292967,
  0x27b70a85, 0x2e1b2138, 0x4d2c6dfc, 0x53380d13, 0x650a7354, 0x766a0abb, 0x81c2c92e, 0x92722c85,
  0xa2bfe8a1, 0xa81a664b, 0xc24b8b70, 0xc76c51a3, 0xd192e819, 0xd6990624, 0xf40e3585, 0x106aa070,
  0x19a4c116, 0x1e376c08, 0x2748774c, 0x34b0bcb5, 0x391c0cb3, 0x4ed8aa4a, 0x5b9cca4f, 0x682e6ff3,
  0x748f82ee, 0x78a5636f, 0x84c87814, 0x8cc70208, 0x90befffa, 0xa4506ceb, 0xbef9a3f7, 0xc67178f2]

/-- The state of the computation. -/
structure State where
  /-- First word. -/
  a : UInt32
  /-- Second word. -/
  b : UInt32
  /-- Third word. -/
  c : UInt32
  /-- Fourth word. -/
  d : UInt32
  /-- Fifth word. -/
  e : UInt32
  /-- Sixth word. -/
  f : UInt32
  /-- Seventh word. -/
  g : UInt32
  /-- Eighth word. -/
  h : UInt32
  deriving Repr, DecidableEq

/-- The state before the first block. -/
def State.first : State :=
  ⟨0x6a09e667, 0xbb67ae85, 0x3c6ef372, 0xa54ff53a, 0x510e527f, 0x9b05688c, 0x1f83d9ab, 0x5be0cd19⟩

/-- The word sum of two states. -/
def State.add (s t : State) : State :=
  ⟨s.a + t.a, s.b + t.b, s.c + t.c, s.d + t.d, s.e + t.e, s.f + t.f, s.g + t.g, s.h + t.h⟩

/-- The words of a state in order. -/
def State.words (s : State) : List UInt32 := [s.a, s.b, s.c, s.d, s.e, s.f, s.g, s.h]

/-- Rotation to the right. -/
def rotate (x : UInt32) (n : UInt32) : UInt32 := (x >>> n) ||| (x <<< (32 - n))

/-- One round with a constant and a word of the schedule. -/
def round (s : State) (constant word : UInt32) : State :=
  let sum1 := rotate s.e 6 ^^^ rotate s.e 11 ^^^ rotate s.e 25
  let choice := (s.e &&& s.f) ^^^ (~~~s.e &&& s.g)
  let first := s.h + sum1 + choice + constant + word
  let sum0 := rotate s.a 2 ^^^ rotate s.a 13 ^^^ rotate s.a 22
  let majority := (s.a &&& s.b) ^^^ (s.a &&& s.c) ^^^ (s.b &&& s.c)
  ⟨first + (sum0 + majority), s.a, s.b, s.c, s.d + first, s.e, s.f, s.g⟩

/-- The next word of a schedule whose words so far are given from the last to the first. -/
def nextWord (before : List UInt32) : UInt32 :=
  let x := before.getD 14 0
  let y := before.getD 1 0
  let small0 := rotate x 7 ^^^ rotate x 18 ^^^ (x >>> 3)
  let small1 := rotate y 17 ^^^ rotate y 19 ^^^ (y >>> 10)
  before.getD 15 0 + small0 + before.getD 6 0 + small1

/-- Adds `n` words to a schedule given from the last word to the first. -/
def extendSchedule : Nat → List UInt32 → List UInt32
  | 0, before => before
  | n + 1, before => extendSchedule n (nextWord before :: before)

/-- The words of all rounds for a block. -/
def schedule (block : List UInt32) : List UInt32 := (extendSchedule 48 block.reverse).reverse

/-- Mixes a block of sixteen words into a state. -/
def compress (s : State) (block : List UInt32) : State :=
  s.add ((roundConstants.zip (schedule block)).foldl (fun t (k, w) => round t k w) s)

/-- The word of four bytes. -/
def word (a b c d : UInt8) : UInt32 :=
  (a.toUInt32 <<< 24) ||| (b.toUInt32 <<< 16) ||| (c.toUInt32 <<< 8) ||| d.toUInt32

/-- The words of a list of bytes; bytes that fill no word are left out. -/
def toWords : List UInt8 → List UInt32
  | a :: b :: c :: d :: rest => word a b c d :: toWords rest
  | _ => []

/-- The message with the one bit, the zeros and its length in bits. -/
def padded (bytes : List UInt8) : List UInt8 :=
  let size := bytes.length
  let zeros := (55 + 64 - size % 64) % 64
  bytes ++ 0x80 :: List.replicate zeros 0 ++
    (List.range 8).map fun i => UInt8.ofNat (size * 8 / Nat.pow 2 (8 * (7 - i)) % 256)

/-- Mixes all blocks of sixteen words, at most `n` of them, into a state. -/
def absorb : Nat → State → List UInt32 → State
  | 0, s, _ => s
  | n + 1, s, ws =>
    match ws with
    | [] => s
    | ws => absorb n (compress s (ws.take 16)) (ws.drop 16)

/-- The hexadecimal digits of a word. -/
def hexDigits (x : UInt32) : List Char :=
  (List.range 8).map fun i => Nat.digitChar (x.toNat / Nat.pow 16 (7 - i) % 16)

/-- The SHA-256 digest of a text in hexadecimal digits. -/
def digest (text : String) : String :=
  let ws := toWords (padded text.toUTF8.toList)
  String.ofList ((absorb ws.length State.first ws).words.flatMap hexDigits)

end TemplateEngine.Digest
