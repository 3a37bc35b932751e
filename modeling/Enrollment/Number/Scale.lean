/-!
# Scales

Powers of ten, and how far the words of 64 bits reach. Words without a sign go up to
`UInt64.size - 1`; words with one hold `signedSize` numbers on each side of zero, zero counting as
positive.
-/

namespace Enrollment

def powerOfTen (n : Nat) : Nat :=
  Nat.pow 10 n

/-- How many numbers of one sign a signed word holds. -/
def signedSize : Nat := 9223372036854775808

end Enrollment
