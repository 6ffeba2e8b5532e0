/-!
# SHA-256

The digest of FIPS 180-4 on a list of octets: the message is padded to whole blocks of sixteen
words, and each block is mixed into eight words of state.

## Main definitions

* `Sha256.digest`: the thirty-two octets of the digest
* `Sha256.hexOctets`: octets as hexadecimal digits
-/

namespace DeepCopy.Digest.Sha256

/-- The first thirty-two bits of the fractional parts of the cube roots of the first primes. -/
def roundConstants : List UInt32 := [
  0x428a2f98, 0x71374491, 0xb5c0fbcf, 0xe9b5dba5, 0x3956c25b, 0x59f111f1, 0x923f82a4, 0xab1c5ed5,
  0xd807aa98, 0x12835b01, 0x243185be, 0x550c7dc3, 0x72be5d74, 0x80deb1fe, 0x9bdc06a7, 0xc19bf174,
  0xe49b69c1, 0xefbe4786, 0x0fc19dc6, 0x240ca1cc, 0x2de92c6f, 0x4a7484aa, 0x5cb0a9dc, 0x76f988da,
  0x983e5152, 0xa831c66d, 0xb00327c8, 0xbf597fc7, 0xc6e00bf3, 0xd5a79147, 0x06ca6351, 0x14292967,
  0x27b70a85, 0x2e1b2138, 0x4d2c6dfc, 0x53380d13, 0x650a7354, 0x766a0abb, 0x81c2c92e, 0x92722c85,
  0xa2bfe8a1, 0xa81a664b, 0xc24b8b70, 0xc76c51a3, 0xd192e819, 0xd6990624, 0xf40e3585, 0x106aa070,
  0x19a4c116, 0x1e376c08, 0x2748774c, 0x34b0bcb5, 0x391c0cb3, 0x4ed8aa4a, 0x5b9cca4f, 0x682e6ff3,
  0x748f82ee, 0x78a5636f, 0x84c87814, 0x8cc70208, 0x90befffa, 0xa4506ceb, 0xbef9a3f7, 0xc67178f2]

/-- The eight words of state. -/
structure State where
  a : UInt32
  b : UInt32
  c : UInt32
  d : UInt32
  e : UInt32
  f : UInt32
  g : UInt32
  h : UInt32

namespace State

/-- The state before the first block. -/
def start : State :=
  ⟨0x6a09e667, 0xbb67ae85, 0x3c6ef372, 0xa54ff53a, 0x510e527f, 0x9b05688c, 0x1f83d9ab, 0x5be0cd19⟩

/-- Word by word sum. -/
def add (s t : State) : State :=
  ⟨s.a + t.a, s.b + t.b, s.c + t.c, s.d + t.d, s.e + t.e, s.f + t.f, s.g + t.g, s.h + t.h⟩

/-- The words in order. -/
def words (s : State) : List UInt32 :=
  [s.a, s.b, s.c, s.d, s.e, s.f, s.g, s.h]

end State

/-- Rotation to the right. -/
def rotate (x n : UInt32) : UInt32 :=
  x >>> n ||| x <<< (32 - n)

/-- One round with a constant and a word of the schedule. -/
def round (s : State) (constant word : UInt32) : State :=
  let mixed := rotate s.e 6 ^^^ rotate s.e 11 ^^^ rotate s.e 25
  let choice := (s.e &&& s.f) ^^^ ((~~~ s.e) &&& s.g)
  let first := s.h + mixed + choice + constant + word
  let spread := rotate s.a 2 ^^^ rotate s.a 13 ^^^ rotate s.a 22
  let majority := (s.a &&& s.b) ^^^ (s.a &&& s.c) ^^^ (s.b &&& s.c)
  ⟨first + spread + majority, s.a, s.b, s.c, s.d + first, s.e, s.f, s.g⟩

/-- The word that follows the latest sixteen words of the schedule. -/
def nextWord (window : List UInt32) : UInt32 :=
  let w (i : Nat) : UInt32 := window.getD i 0
  let low := rotate (w 1) 7 ^^^ rotate (w 1) 18 ^^^ (w 1 >>> 3)
  let high := rotate (w 14) 17 ^^^ rotate (w 14) 19 ^^^ (w 14 >>> 10)
  w 0 + low + w 9 + high

/-- All rounds on a block, the schedule being extended as it is read. -/
def rounds : List UInt32 → List UInt32 → State → State
  | [], _, s => s
  | _, [], s => s
  | constant :: constants, word :: window, s =>
    rounds constants (window ++ [nextWord (word :: window)]) (round s constant word)

/-- The state after a block of sixteen words. -/
def compress (s : State) (block : List UInt32) : State :=
  s.add (rounds roundConstants block s)

/-- Octets as words, the high octet first. -/
def wordsOf : List UInt8 → List UInt32
  | a :: b :: c :: d :: rest =>
    (a.toUInt32 <<< 24 ||| b.toUInt32 <<< 16 ||| c.toUInt32 <<< 8 ||| d.toUInt32) :: wordsOf rest
  | _ => []

/-- The octets of a number of eight octets, the high octet first. -/
def octets64 (n : Nat) : List UInt8 :=
  [56, 48, 40, 32, 24, 16, 8, 0].map fun s => UInt8.ofNat (n >>> s)

/-- The message with a one bit, zeros and its length in bits, as whole blocks. -/
def pad (message : List UInt8) : List UInt8 :=
  let zeros := (119 - message.length % 64) % 64
  message ++ 0x80 :: List.replicate zeros 0 ++ octets64 (8 * message.length)

/-- The state after a number of blocks. -/
def absorb : Nat → State → List UInt32 → State
  | 0, s, _ => s
  | n + 1, s, ws => absorb n (compress s (ws.take 16)) (ws.drop 16)

/-- The octets of a word, the high octet first. -/
def octets32 (w : UInt32) : List UInt8 :=
  [(w >>> 24).toUInt8, (w >>> 16).toUInt8, (w >>> 8).toUInt8, w.toUInt8]

/-- The digest of a message. -/
def digest (message : List UInt8) : List UInt8 :=
  let ws := wordsOf (pad message)
  (absorb (ws.length / 16) .start ws).words.flatMap octets32

/-- Two hexadecimal digits for each octet. -/
def hexOctets (octets : List UInt8) : String :=
  String.ofList <| octets.flatMap fun o =>
    [Nat.digitChar (o.toNat / 16), Nat.digitChar (o.toNat % 16)]

end DeepCopy.Digest.Sha256
