import Enrollment.Nonce.Ledger

/-!
# Live nonces

The nonces of a ledger that have not expired at a moment are all that decides whether a token is
accepted then or later, and whether a token can be issued. Whatever removes expired nonces keeps
them, and keeps their order, however often it runs.
-/

namespace Enrollment.Ledger

/-- The nonces that have not expired at a moment, tombstones included. -/
def live (l : Ledger) (now : Instant) : List Nonce :=
  l.entries.filter (fun n => !n.isExpiredAt now)

theorem mem_live {l : Ledger} {now : Instant} {n : Nonce} :
    n ∈ l.live now ↔ n ∈ l.entries ∧ now < n.expiresAt := by
  simp [live, Nonce.isExpiredAt_eq_false_iff]

theorem live_length_le_size (l : Ledger) (now : Instant) : (l.live now).length ≤ l.size :=
  List.length_filter_le _ _

/-- What is live later is what is left of what is live now. -/
theorem live_of_le (l : Ledger) {now later : Instant} (hle : now ≤ later) :
    l.live later = (l.live now).filter (fun n => !n.isExpiredAt later) := by
  unfold live
  rw [List.filter_filter]
  apply List.filter_congr
  intro n _
  cases hnow : n.isExpiredAt now with
  | false => simp
  | true => simp [Nonce.isExpiredAt_mono hle hnow]

/-! ## Removal keeps what is live -/

theorem live_sweepAt (l : Ledger) {now later : Instant} (hle : now ≤ later) :
    (l.sweepAt now).2.live later = l.live later :=
  (live_of_le l hle).symm

theorem live_makeRoom (l : Ledger) {now later : Instant} (hle : now ≤ later) :
    (l.makeRoom now).live later = l.live later := by
  unfold makeRoom
  split
  · exact live_sweepAt l hle
  · rfl

theorem live_evict (l : Ledger) (token : String) {now later : Instant} (hle : now ≤ later) :
    (l.evict now token).live later = l.live later := by
  unfold live evict
  rw [List.filter_filter]
  apply List.filter_congr
  intro n _
  cases hnow : n.isExpiredAt now with
  | false => simp
  | true => simp [Nonce.isExpiredAt_mono hle hnow]

/-! ## What issuing and consuming do to it -/

theorem live_insert (l : Ledger) (n : Nonce) (now : Instant) :
    (l.insert n).live now =
      (n :: (l.live now).filter (·.token != n.token)).filter (fun n => !n.isExpiredAt now) := by
  simp only [live, insert, List.filter_cons, List.filter_filter]
  have hcomm : ∀ m : Nonce, (!m.isExpiredAt now && m.token != n.token) =
      (!m.isExpiredAt now && (m.token != n.token && !m.isExpiredAt now)) := by
    intro m
    cases m.isExpiredAt now <;> simp
  simp only [hcomm]

theorem live_markConsumed (l : Ledger) (token : String) (now : Instant) :
    (l.markConsumed token).live now = (l.live now).map (Nonce.mark token) := by
  simp only [live, markConsumed, List.filter_map]
  apply congrArg (List.map (Nonce.mark token))
  apply List.filter_congr
  intro n _
  simp

end Enrollment.Ledger
