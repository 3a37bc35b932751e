/-!
# Excerpts

The leading characters of a nonce or a digest, which is all of it that may be written to a log.
-/

namespace Enrollment.Text

/-- How many characters of a nonce or digest may be shown. -/
def excerptLength : Nat := 8

/-- The leading characters of a text. -/
def excerpt (s : String) : String :=
  String.ofList (s.toList.take excerptLength)

theorem toList_excerpt (s : String) : (excerpt s).toList = s.toList.take excerptLength := by
  simp [excerpt]

end Enrollment.Text
