import Enrollment.Digest.Sha256

/-!
# Keyed digests

The message authentication code HMAC over SHA-256. A key longer than a block is replaced by its
digest and a shorter one is filled with zeros, so a key may have any length.
-/

namespace Enrollment.Hmac

/-- The length of a block in bytes. -/
def blockSize : Nat := 64

/-- The key as one block. -/
def blockKey (key : List UInt8) : List UInt8 :=
  let short := if blockSize < key.length then Sha256.hash key else key
  short ++ List.replicate (blockSize - short.length) 0

/-- The code of a message under a key. -/
def code (key message : List UInt8) : List UInt8 :=
  let block := blockKey key
  let inner := Sha256.hash (block.map (· ^^^ 0x36) ++ message)
  Sha256.hash (block.map (· ^^^ 0x5c) ++ inner)

@[simp] theorem length_code (key message : List UInt8) : (code key message).length = 32 :=
  Sha256.length_hash _

end Enrollment.Hmac
