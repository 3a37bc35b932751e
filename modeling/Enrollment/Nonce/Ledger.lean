import Enrollment.Nonce
import Enrollment.Setup
import Enrollment.Time.Clock
import Enrollment.Time.Notation

/-!
# Ledgers of nonces

A ledger issues tokens, lets each be consumed once and forgets it after its lifetime. A consumed
nonce stays as a tombstone until it expires, so that presenting it again is told apart from
presenting an unknown one. An expired nonce leaves when it is presented or when the ledger is
swept.

A ledger holds no more nonces than its capacity. When it is full, issuing first sweeps it, unless
the earliest expiry that the last sweep left behind is still ahead, since then there is nothing to
remove.

Whoever calls supplies the reading of the clock and the fresh token. A clock that cannot be read,
or a lifetime that ends beyond the last moment that can be represented, stops a call with a
`TimeOverflow`.
-/

namespace Enrollment

/-- Counts of what a ledger has done. They are words, and wrap. -/
structure NonceTally where
  issued : UInt64 := 0
  consumed : UInt64 := 0
  rejected : UInt64 := 0
  evicted : UInt64 := 0
  refused : UInt64 := 0
  deriving Repr, DecidableEq, Inhabited

/-- A ledger. Its entries have different tokens. -/
structure Ledger where
  lifetime : Span
  capacity : Nat
  entries : List Nonce
  /-- The earliest expiry that was left after the last sweep. -/
  nextExpiry : Option Instant
  tally : NonceTally
  deriving Repr, DecidableEq

/-- A reading of the clock, or the reason why there is none. -/
abbrev Reading := Except TimeOverflow Instant

namespace Ledger

/-- The lifetime of a nonce where none is set. -/
def defaultLifetime : Span := .ofSeconds 60

/-- The capacity of a ledger where none is set. -/
def defaultCapacity : Nat := 10000

/-- An empty ledger. A nonce must live for some time. -/
def create (lifetime : Span) : Except SetupError Ledger :=
  if lifetime.isZero then .error .noLifetime
  else .ok ⟨lifetime, defaultCapacity, [], none, {}⟩

/-- The ledger with another capacity, at least one. -/
def withCapacity (l : Ledger) (capacity : Nat) : Ledger :=
  { l with capacity := max capacity 1 }

/-- How many nonces are tracked, tombstones included. -/
def size (l : Ledger) : Nat :=
  l.entries.length

/-- The tracked nonce with a token. -/
def find? (l : Ledger) (token : String) : Option Nonce :=
  l.entries.find? (·.token == token)

/-- The earliest expiry among nonces. -/
def earliestExpiry : List Nonce → Option Instant
  | [] => none
  | n :: ns =>
      match earliestExpiry ns with
      | none => some n.expiresAt
      | some expiry => some (n.expiresAt.earlier expiry)

/-- Removes every expired nonce; the number removed comes with the swept ledger. -/
def sweepAt (l : Ledger) (now : Instant) : Nat × Ledger :=
  let kept := l.entries.filter (fun n => !n.isExpiredAt now)
  let removed := l.entries.length - kept.length
  (removed,
    { l with
      entries := kept
      nextExpiry := earliestExpiry kept
      tally := { l.tally with evicted := l.tally.evicted + removed.toUInt64 } })

/-- Removes every nonce that has expired at a reading of the clock. -/
def sweep (l : Ledger) (reading : Reading) : Except TimeOverflow Nat × Ledger :=
  match reading with
  | .error e => (.error e, l)
  | .ok now =>
      let (removed, swept) := l.sweepAt now
      (.ok removed, swept)

def isFull (l : Ledger) : Bool :=
  l.capacity ≤ l.size

theorem isFull_iff {l : Ledger} : l.isFull = true ↔ l.capacity ≤ l.size := by
  simp [isFull]

theorem isFull_eq_false_iff {l : Ledger} : l.isFull = false ↔ l.size < l.capacity := by
  simp [isFull]

def sweepDue (l : Ledger) (now : Instant) : Bool :=
  match l.nextExpiry with
  | none => true
  | some expiry => expiry ≤ now

/-- A ledger with room for a nonce, as far as a sweep that is due can make it. -/
def makeRoom (l : Ledger) (now : Instant) : Ledger :=
  if l.isFull && l.sweepDue now then (l.sweepAt now).2 else l

/-- The ledger after a call that was refused for want of room. -/
def countRefusal (l : Ledger) : Ledger :=
  { l with tally := { l.tally with refused := l.tally.refused + 1 } }

/-- The ledger with a nonce in place of any other that has its token. -/
def insert (l : Ledger) (n : Nonce) : Ledger :=
  { l with
    entries := n :: l.entries.filter (·.token != n.token)
    tally := { l.tally with issued := l.tally.issued + 1 } }

/-- Issues a token if there is room, which is not made. -/
def grant (l : Ledger) (now : Instant) (token : String) :
    Except TimeOverflow (Except TableFull String) × Ledger :=
  if l.isFull then (.ok (.error ⟨l.capacity⟩), l.countRefusal)
  else
    match now.after? l.lifetime with
    | none => (.error .moment, l)
    | some expiry => (.ok (.ok token), l.insert ⟨token, now, expiry, false⟩)

def issue (l : Ledger) (reading : Reading) (token : String) :
    Except TimeOverflow (Except TableFull String) × Ledger :=
  match reading with
  | .error e => (.error e, l)
  | .ok now => (l.makeRoom now).grant now token

/-- Marks the nonce with a token as consumed. -/
def markConsumed (l : Ledger) (token : String) : Ledger :=
  { l with entries := l.entries.map (Nonce.mark token) }

/-- What presenting a token at a moment comes to, in the order absent, expired, consumed. -/
def judge (l : Ledger) (now : Instant) (token : String) : Except NonceError Unit :=
  match l.find? token with
  | none => .error .notFound
  | some n =>
      if n.isExpiredAt now then .error .expired
      else if n.consumed then .error .alreadyUsed
      else .ok ()

/-- Judges a token and in the same breath marks its nonce if it may be used. -/
def checkAndMark (l : Ledger) (now : Instant) (token : String) : Except NonceError Unit × Ledger :=
  match l.judge now token with
  | .ok () => (.ok (), l.markConsumed token)
  | .error e => (.error e, l)

/-- Removes the nonce with a token if it has expired. -/
def evict (l : Ledger) (now : Instant) (token : String) : Ledger :=
  let kept := l.entries.filter (fun n => !(n.token == token && n.isExpiredAt now))
  let removed := l.entries.length - kept.length
  { l with
    entries := kept
    tally := { l.tally with evicted := l.tally.evicted + removed.toUInt64 } }

def countConsumed (l : Ledger) : Ledger :=
  { l with tally := { l.tally with consumed := l.tally.consumed + 1 } }

def countRejected (l : Ledger) : Ledger :=
  { l with tally := { l.tally with rejected := l.tally.rejected + 1 } }

/-- Consumes a token at a moment. -/
def consumeAt (l : Ledger) (now : Instant) (token : String) : Except NonceError Unit × Ledger :=
  match l.checkAndMark now token with
  | (.ok (), l) => (.ok (), l.countConsumed)
  | (.error .expired, l) => (.error .expired, (l.evict now token).countRejected)
  | (.error e, l) => (.error e, l.countRejected)

/-- What becomes of a ledger is decided by the judgement. -/
theorem consumeAt_eq (l : Ledger) (now : Instant) (token : String) :
    l.consumeAt now token = (l.judge now token,
      match l.judge now token with
      | .ok () => (l.markConsumed token).countConsumed
      | .error .expired => (l.evict now token).countRejected
      | .error _ => l.countRejected) := by
  unfold consumeAt checkAndMark
  cases l.judge now token with
  | ok _ => rfl
  | error e => cases e <;> rfl

/-- Consumes a token at a reading of the clock. -/
def consume (l : Ledger) (reading : Reading) (token : String) :
    Except TimeOverflow (Except NonceError Unit) × Ledger :=
  match reading with
  | .error e => (.error e, l)
  | .ok now =>
      let (outcome, l) := l.consumeAt now token
      (.ok outcome, l)

def inspect (l : Ledger) : String :=
  Inspect.record "NonceStore"
    [("ttl", l.lifetime.inspect), ("max_entries", toString l.capacity),
      ("outstanding", toString l.size)]

end Ledger

end Enrollment
