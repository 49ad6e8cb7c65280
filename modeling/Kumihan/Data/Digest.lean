/-!
# The SHA-1 digest

## Main definitions

* `sha1 bs` — the twenty bytes of the digest.
-/

namespace Kumihan.Data

/-- The five words that the digest is computed in. -/
structure DigestWords where
  /-- The first word. -/
  a : UInt32
  /-- The second word. -/
  b : UInt32
  /-- The third word. -/
  c : UInt32
  /-- The fourth word. -/
  d : UInt32
  /-- The fifth word. -/
  e : UInt32
  deriving DecidableEq, Repr

/-- The words before the first block. -/
def DigestWords.start : DigestWords :=
  ⟨0x67452301, 0xEFCDAB89, 0x98BADCFE, 0x10325476, 0xC3D2E1F0⟩

/-- The sum of two states, word by word. -/
def DigestWords.add (x y : DigestWords) : DigestWords :=
  ⟨x.a + y.a, x.b + y.b, x.c + y.c, x.d + y.d, x.e + y.e⟩

/-- The bits of a word, turned to the left. -/
def turnLeft (x : UInt32) (n : UInt32) : UInt32 := x <<< n ||| x >>> (32 - n)

/-- The bytes of a number, the most significant one first. -/
def bigEndian (width n : Nat) : List UInt8 :=
  (List.range width).map fun i => UInt8.ofNat (n / Nat.pow 256 (width - 1 - i))

/-- The message with its padding: a one bit, zeros, and the length in bits, so that
the whole is a number of blocks of 64 bytes. -/
def padMessage (bs : List UInt8) : List UInt8 :=
  bs ++ 0x80 :: List.replicate ((119 - bs.length % 64) % 64) 0 ++ bigEndian 8 (8 * bs.length)

/-- The words of a block. -/
def wordsOf : List UInt8 → List UInt32
  | a :: b :: c :: d :: rest =>
    (a.toUInt32 <<< 24 ||| b.toUInt32 <<< 16 ||| c.toUInt32 <<< 8 ||| d.toUInt32) :: wordsOf rest
  | _ => []

/-- The schedule, the latest word first, made `n` words longer. -/
def schedule : Nat → List UInt32 → List UInt32
  | 0, ws => ws
  | n + 1, ws =>
    let word := turnLeft (ws.getD 2 0 ^^^ ws.getD 7 0 ^^^ ws.getD 13 0 ^^^ ws.getD 15 0) 1
    schedule n (word :: ws)

/-- The function and the constant of a round. -/
def roundTerm (round : Nat) (x : DigestWords) : UInt32 :=
  if round < 20 then ((x.b &&& x.c) ||| (~~~x.b &&& x.d)) + 0x5A827999
  else if round < 40 then (x.b ^^^ x.c ^^^ x.d) + 0x6ED9EBA1
  else if round < 60 then ((x.b &&& x.c) ||| (x.b &&& x.d) ||| (x.c &&& x.d)) + 0x8F1BBCDC
  else (x.b ^^^ x.c ^^^ x.d) + 0xCA62C1D6

/-- One round for each word of the schedule. -/
def rounds : Nat → List UInt32 → DigestWords → DigestWords
  | _, [], x => x
  | round, w :: ws, x =>
    rounds (round + 1) ws
      ⟨turnLeft x.a 5 + roundTerm round x + x.e + w, x.a, turnLeft x.b 30, x.c, x.d⟩

/-- One block of 64 bytes. -/
def digestBlock (x : DigestWords) (block : List UInt8) : DigestWords :=
  x.add (rounds 0 (schedule 64 (wordsOf block).reverse).reverse x)

/-- The first `n` blocks of a padded message. -/
def digestBlocks : Nat → DigestWords → List UInt8 → DigestWords
  | 0, x, _ => x
  | n + 1, x, bs => digestBlocks n (digestBlock x (bs.take 64)) (bs.drop 64)

/-- The SHA-1 digest of a message. -/
def sha1 (bs : List UInt8) : List UInt8 :=
  let padded := padMessage bs
  let x := digestBlocks (padded.length / 64) .start padded
  [x.a, x.b, x.c, x.d, x.e].flatMap fun w => bigEndian 4 w.toNat

end Kumihan.Data
