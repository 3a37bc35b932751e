import Enrollment.Attempt
import Enrollment.Digest.Hmac
import Enrollment.Secret
import Enrollment.Text.Hex

/-!
# Signatures

An attempt is signed by a keyed digest over one message, which both sides build alike: nonce,
username, password, the word for the role and, if there is one, the user type, separated by NUL.
Only the lowercase hexadecimal text of the digest is a signature.
-/

namespace Enrollment

/-- Separates the parts of a message. -/
def separator : UInt8 := 0x00

/-- The word that a message has for the role. -/
def roleWord (admin : Bool) : String :=
  if admin then "admin" else "notadmin"

namespace Fields

/-- The texts that are signed; an absent user type leaves its part out. -/
def parts (f : Fields) : List String :=
  [f.nonce, f.username, f.password, roleWord f.admin] ++ f.userType.toList

/-- The signed message. -/
def message (f : Fields) : List UInt8 :=
  [separator].intercalate (f.parts.map Utf8.encode)

end Fields

/-- The bytes of a row filled with zeros up to a width. -/
def paddedTo (width : Nat) (bytes : List UInt8) : List UInt8 :=
  bytes ++ List.replicate (width - bytes.length) 0

/-- Whether two rows of bytes are the same. Both are padded to one width and every position is
looked at, so the place of the first difference does not show in the work done. -/
def sameBytes (a b : List UInt8) : Bool :=
  let width := max a.length b.length
  let differences := List.zipWith (· ^^^ ·) (paddedTo width a) (paddedTo width b)
  differences.foldl (· ||| ·) 0 == 0 && a.length == b.length

namespace Secret

def sign (s : Secret) (message : List UInt8) : String :=
  String.ofList (Hex.encode (Hmac.code s.key message))

/-- The signature of the fields of an attempt. -/
def signFields (s : Secret) (f : Fields) : String :=
  s.sign f.message

/-- Whether a text is the signature of a message. -/
def verify (s : Secret) (message : List UInt8) (provided : String) : Bool :=
  sameBytes (Utf8.encode (s.sign message)) (Utf8.encode provided)

/-- How a signer that holds a secret is shown. -/
def inspectSigner (s : Secret) : String :=
  Inspect.record "MacCodec" [("secret", s.inspect)]

end Secret

end Enrollment
