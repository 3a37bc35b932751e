import Enrollment.Time.Span
import Enrollment.Text.Inspect

/-!
# Nonces

A nonce is a token that was handed out and may be presented once before it expires. It counts as
expired from the moment of its expiry on.
-/

namespace Enrollment

/-- A tracked nonce. -/
structure Nonce where
  token : String
  issuedAt : Instant
  expiresAt : Instant
  consumed : Bool
  deriving Repr, DecidableEq

namespace Nonce

def isExpiredAt (n : Nonce) (now : Instant) : Bool :=
  n.expiresAt ≤ now

theorem isExpiredAt_iff {n : Nonce} {now : Instant} :
    n.isExpiredAt now = true ↔ n.expiresAt ≤ now := by
  simp [isExpiredAt]

theorem isExpiredAt_eq_false_iff {n : Nonce} {now : Instant} :
    n.isExpiredAt now = false ↔ now < n.expiresAt := by
  simp [isExpiredAt]

/-- What has expired stays expired. -/
theorem isExpiredAt_mono {n : Nonce} {now later : Instant} (hle : now ≤ later)
    (hexpired : n.isExpiredAt now = true) : n.isExpiredAt later = true :=
  isExpiredAt_iff.mpr (Instant.le_trans (isExpiredAt_iff.mp hexpired) hle)

def isUsableAt (n : Nonce) (now : Instant) : Bool :=
  !n.consumed && !n.isExpiredAt now

/-- The nonce marked as consumed, if it has the token that was presented. -/
def mark (token : String) (n : Nonce) : Nonce :=
  if n.token == token then { n with consumed := true } else n

@[simp] theorem mark_token (token : String) (n : Nonce) : (n.mark token).token = n.token := by
  unfold mark; split <;> rfl

@[simp] theorem mark_issuedAt (token : String) (n : Nonce) :
    (n.mark token).issuedAt = n.issuedAt := by
  unfold mark; split <;> rfl

@[simp] theorem mark_expiresAt (token : String) (n : Nonce) :
    (n.mark token).expiresAt = n.expiresAt := by
  unfold mark; split <;> rfl

@[simp] theorem mark_isExpiredAt (token : String) (n : Nonce) (now : Instant) :
    (n.mark token).isExpiredAt now = n.isExpiredAt now := by
  simp [isExpiredAt]

end Nonce

/-- Why a token cannot be consumed. -/
inductive NonceError where
  /-- It was never issued, or is no longer tracked. -/
  | notFound
  /-- Its lifetime had passed. -/
  | expired
  /-- It was presented before. -/
  | alreadyUsed
  deriving Repr, DecidableEq

namespace NonceError

def message : NonceError → String
  | .notFound => "nonce not found"
  | .expired => "nonce expired"
  | .alreadyUsed => "nonce already used"

def inspect : NonceError → String
  | .notFound => "NotFound"
  | .expired => "Expired"
  | .alreadyUsed => "AlreadyUsed"

end NonceError

/-- A table of nonces is full and nothing in it has expired. -/
structure TableFull where
  max : Nat
  deriving Repr, DecidableEq

namespace TableFull

def message (e : TableFull) : String :=
  "nonce table full (" ++ toString e.max ++ " outstanding)"

def inspect (e : TableFull) : String :=
  Inspect.record "NonceCapacityExceeded" [("max", toString e.max)]

end TableFull

end Enrollment
