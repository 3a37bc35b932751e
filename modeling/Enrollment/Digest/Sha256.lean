/-!
# SHA-256

The hash of FIPS 180-4: the message is padded to whole blocks of sixty-four bytes, each block is
expanded to sixty-four words, and the words are compressed one after another into a state of eight
words. A digest is always thirty-two bytes long.
-/

namespace Enrollment.Sha256

/-- The chaining state. -/
structure State where
  a : UInt32
  b : UInt32
  c : UInt32
  d : UInt32
  e : UInt32
  f : UInt32
  g : UInt32
  h : UInt32
  deriving Repr, DecidableEq, Inhabited

/-- The state before the first block. -/
def State.initial : State :=
  ⟨0x6a09e667, 0xbb67ae85, 0x3c6ef372, 0xa54ff53a, 0x510e527f, 0x9b05688c, 0x1f83d9ab, 0x5be0cd19⟩

/-- One constant for each of the sixty-four rounds. -/
def roundConstants : List UInt32 :=
  [0x428a2f98, 0x71374491, 0xb5c0fbcf, 0xe9b5dba5, 0x3956c25b, 0x59f111f1, 0x923f82a4, 0xab1c5ed5,
   0xd807aa98, 0x12835b01, 0x243185be, 0x550c7dc3, 0x72be5d74, 0x80deb1fe, 0x9bdc06a7, 0xc19bf174,
   0xe49b69c1, 0xefbe4786, 0x0fc19dc6, 0x240ca1cc, 0x2de92c6f, 0x4a7484aa, 0x5cb0a9dc, 0x76f988da,
   0x983e5152, 0xa831c66d, 0xb00327c8, 0xbf597fc7, 0xc6e00bf3, 0xd5a79147, 0x06ca6351, 0x14292967,
   0x27b70a85, 0x2e1b2138, 0x4d2c6dfc, 0x53380d13, 0x650a7354, 0x766a0abb, 0x81c2c92e, 0x92722c85,
   0xa2bfe8a1, 0xa81a664b, 0xc24b8b70, 0xc76c51a3, 0xd192e819, 0xd6990624, 0xf40e3585, 0x106aa070,
   0x19a4c116, 0x1e376c08, 0x2748774c, 0x34b0bcb5, 0x391c0cb3, 0x4ed8aa4a, 0x5b9cca4f, 0x682e6ff3,
   0x748f82ee, 0x78a5636f, 0x84c87814, 0x8cc70208, 0x90befffa, 0xa4506ceb, 0xbef9a3f7, 0xc67178f2]

/-- A word rotated to the right by between one and thirty-one bits. -/
def rotateRight (x : UInt32) (bits : UInt32) : UInt32 :=
  (x >>> bits) ||| (x <<< (32 - bits))

/-- The word that follows the last sixteen, which are given newest first. -/
def nextWord (newest : List UInt32) : UInt32 :=
  let back (i : Nat) : UInt32 := newest[i - 1]?.getD 0
  let small0 := rotateRight (back 15) 7 ^^^ rotateRight (back 15) 18 ^^^ (back 15 >>> 3)
  let small1 := rotateRight (back 2) 17 ^^^ rotateRight (back 2) 19 ^^^ (back 2 >>> 10)
  back 16 + small0 + back 7 + small1

/-- The sixteen words of a block followed by the forty-eight words they determine. -/
def schedule (block : List UInt32) : List UInt32 :=
  (Nat.repeat (fun newest => nextWord newest :: newest) 48 block.reverse).reverse

/-- One round with its constant and its word. -/
def round (s : State) (constant word : UInt32) : State :=
  let big1 := rotateRight s.e 6 ^^^ rotateRight s.e 11 ^^^ rotateRight s.e 25
  let choice := (s.e &&& s.f) ^^^ (~~~ s.e &&& s.g)
  let first := s.h + big1 + choice + constant + word
  let big0 := rotateRight s.a 2 ^^^ rotateRight s.a 13 ^^^ rotateRight s.a 22
  let majority := (s.a &&& s.b) ^^^ (s.a &&& s.c) ^^^ (s.b &&& s.c)
  ⟨first + (big0 + majority), s.a, s.b, s.c, s.d + first, s.e, s.f, s.g⟩

/-- The sum of two states, word by word. -/
def State.add (s t : State) : State :=
  ⟨s.a + t.a, s.b + t.b, s.c + t.c, s.d + t.d, s.e + t.e, s.f + t.f, s.g + t.g, s.h + t.h⟩

/-- A block's sixty-four rounds, added to the state before them. -/
def compress (s : State) (block : List UInt32) : State :=
  let rounds := roundConstants.zip (schedule block)
  s.add (rounds.foldl (fun s round => Sha256.round s round.1 round.2) s)

/-- Bytes grouped into big-endian words; a last group of fewer than four bytes is dropped. -/
def words : List UInt8 → List UInt32
  | b₀ :: b₁ :: b₂ :: b₃ :: rest =>
      (b₀.toUInt32 <<< 24 ||| b₁.toUInt32 <<< 16 ||| b₂.toUInt32 <<< 8 ||| b₃.toUInt32) ::
        words rest
  | _ => []

/-- The four bytes of a word, the high one first. -/
def bytesOf (word : UInt32) : List UInt8 :=
  [(word >>> 24).toUInt8, (word >>> 16).toUInt8, (word >>> 8).toUInt8, word.toUInt8]

/-- The eight bytes of a length in bits. -/
def lengthBytes (bits : Nat) : List UInt8 :=
  bytesOf (UInt32.ofNat (bits / UInt32.size)) ++ bytesOf (UInt32.ofNat bits)

/-- How many zeros separate the delimiter from the length. -/
def paddingZeros (size : Nat) : Nat :=
  (119 - size % 64) % 64

/-- The message, the delimiter byte, zeros and the length, which together fill whole blocks. -/
def pad (message : List UInt8) : List UInt8 :=
  message ++ [0x80] ++ List.replicate (paddingZeros message.length) 0 ++
    lengthBytes (8 * message.length)

/-- Compresses `count` blocks of sixteen words. -/
def compressBlocks (s : State) : Nat → List UInt32 → State
  | 0, _ => s
  | count + 1, ws => compressBlocks (compress s (ws.take 16)) count (ws.drop 16)

def State.toBytes (s : State) : List UInt8 :=
  [s.a, s.b, s.c, s.d, s.e, s.f, s.g, s.h].flatMap bytesOf

def hash (message : List UInt8) : List UInt8 :=
  let padded := pad message
  (compressBlocks .initial (padded.length / 64) (words padded)).toBytes

theorem length_pad (message : List UInt8) : (pad message).length % 64 = 0 := by
  simp only [pad, lengthBytes, bytesOf, List.length_append, List.length_cons, List.length_nil,
    List.length_replicate, paddingZeros]
  omega

@[simp] theorem length_hash (message : List UInt8) : (hash message).length = 32 := by
  simp [hash, State.toBytes, bytesOf]

end Enrollment.Sha256
