import Enrollment.Proofs.Ledger.Lookup

/-!
# Tokens presented in either order

Presenting a token marks its nonce, removes it or leaves it, and counts. None of this shows in the
judgement of another token, and any two of these changes commute. So two different tokens that are
presented at one moment are judged alike in either order, and leave the same ledger.
-/

namespace Enrollment.Ledger

variable {now : Instant} {token other : String}

/-- The ledger after a token was judged. -/
def settle (l : Ledger) (now : Instant) (token : String) : Except NonceError Unit → Ledger
  | .ok () => (l.markConsumed token).countConsumed
  | .error .expired => (l.evict now token).countRejected
  | .error _ => l.countRejected

theorem consumeAt_eq_settle (l : Ledger) (now : Instant) (token : String) :
    l.consumeAt now token = (l.judge now token, l.settle now token (l.judge now token)) :=
  consumeAt_eq l now token

/-! ## Changes that commute -/

theorem mark_comm (token other : String) (n : Nonce) :
    (n.mark token).mark other = (n.mark other).mark token := by
  unfold Nonce.mark
  by_cases htoken : n.token == token <;> by_cases hother : n.token == other <;>
    simp [htoken, hother]

theorem markConsumed_comm (l : Ledger) (token other : String) :
    (l.markConsumed token).markConsumed other = (l.markConsumed other).markConsumed token := by
  unfold markConsumed
  simp only [List.map_map, Function.comp_def, mark_comm token other]

theorem evict_markConsumed (l : Ledger) (now : Instant) (token other : String) :
    (l.markConsumed token).evict now other = (l.evict now other).markConsumed token := by
  have hentries : (l.entries.map (Nonce.mark token)).filter
      (fun n => !(n.token == other && n.isExpiredAt now)) =
        (l.entries.filter fun n => !(n.token == other && n.isExpiredAt now)).map
          (Nonce.mark token) := by
    simp only [List.filter_map, Function.comp_def, Nonce.mark_token, Nonce.mark_isExpiredAt]
  simp only [evict, markConsumed, hentries, List.length_map]

/-- What two removals leave, and how many nonces they remove together. -/
theorem evict_evict (l : Ledger) (now : Instant) (token other : String) :
    let kept := l.entries.filter fun n =>
      !(n.token == token && n.isExpiredAt now) && !(n.token == other && n.isExpiredAt now)
    (l.evict now token).evict now other =
      { l with
        entries := kept
        tally := { l.tally with
          evicted := l.tally.evicted + (l.entries.length - kept.length).toUInt64 } } := by
  intro kept
  have hkept : (l.evict now token).entries.filter
      (fun n => !(n.token == other && n.isExpiredAt now)) = kept := by
    simp only [evict, kept, List.filter_filter, Bool.and_comm]
  have hfirst : (l.evict now token).entries.length ≤ l.entries.length :=
    List.length_filter_le _ _
  have hsecond : kept.length ≤ (l.evict now token).entries.length :=
    hkept ▸ List.length_filter_le _ _
  have hremoved : (l.entries.length - (l.evict now token).entries.length).toUInt64 +
      ((l.evict now token).entries.length - kept.length).toUInt64 =
        (l.entries.length - kept.length).toUInt64 := by
    simp only [Nat.toUInt64_eq, ← UInt64.ofNat_add]
    congr 1
    omega
  rw [evict.eq_def (l.evict now token), hkept, ← hremoved, ← UInt64.add_assoc]
  rfl

theorem evict_comm (l : Ledger) (now : Instant) (token other : String) :
    (l.evict now token).evict now other = (l.evict now other).evict now token := by
  rw [evict_evict, evict_evict]
  simp only [Bool.and_comm]

/-- What commutes with each change that a judgement can lead to commutes with all of it. -/
theorem settle_of_commutes {f : Ledger → Ledger}
    (hmark : ∀ l, f (l.markConsumed token) = (f l).markConsumed token)
    (hevict : ∀ l, f (l.evict now token) = (f l).evict now token)
    (hconsumed : ∀ l, f l.countConsumed = (f l).countConsumed)
    (hrejected : ∀ l, f l.countRejected = (f l).countRejected)
    (l : Ledger) (judgement : Except NonceError Unit) :
    f (l.settle now token judgement) = (f l).settle now token judgement := by
  rcases judgement with (_ | _ | _) | _
  · exact hrejected l
  · exact (hrejected _).trans (congrArg countRejected (hevict l))
  · exact hrejected l
  · exact (hconsumed _).trans (congrArg countConsumed (hmark l))

theorem settle_comm (l : Ledger) (now : Instant) (token other : String)
    (judgement judgement' : Except NonceError Unit) :
    (l.settle now token judgement).settle now other judgement' =
      (l.settle now other judgement').settle now token judgement := by
  have hmark (l : Ledger) : (l.markConsumed other).settle now token judgement =
      (l.settle now token judgement).markConsumed other :=
    (settle_of_commutes (f := (·.markConsumed other)) (fun l => markConsumed_comm l token other)
      (fun l => (evict_markConsumed l now other token).symm) (fun _ => rfl) (fun _ => rfl)
      l judgement).symm
  have hevict (l : Ledger) : (l.evict now other).settle now token judgement =
      (l.settle now token judgement).evict now other :=
    (settle_of_commutes (f := (·.evict now other)) (fun l => evict_markConsumed l now token other)
      (fun l => evict_comm l now token other) (fun _ => rfl) (fun _ => rfl) l judgement).symm
  have hconsumed (l : Ledger) : l.countConsumed.settle now token judgement =
      (l.settle now token judgement).countConsumed :=
    (settle_of_commutes (f := countConsumed) (fun _ => rfl) (fun _ => rfl) (fun _ => rfl)
      (fun _ => rfl) l judgement).symm
  have hrejected (l : Ledger) : l.countRejected.settle now token judgement =
      (l.settle now token judgement).countRejected :=
    (settle_of_commutes (f := countRejected) (fun _ => rfl) (fun _ => rfl) (fun _ => rfl)
      (fun _ => rfl) l judgement).symm
  exact (settle_of_commutes (f := (·.settle now token judgement)) hmark hevict hconsumed hrejected
    l judgement').symm

/-! ## Judgements that do not change -/

theorem find?_evict_of_ne (l : Ledger) (now : Instant) (hne : token ≠ other) :
    (l.evict now token).find? other = l.find? other := by
  simp only [find?, evict]
  rw [List.find?_filter]
  congr 1
  funext n
  by_cases hother : n.token = other
  · simp [hother, hne.symm]
  · simp [hother]

theorem judge_settle_of_ne (l : Ledger) (now : Instant) (hne : token ≠ other)
    (judgement : Except NonceError Unit) :
    (l.settle now token judgement).judge now other = l.judge now other := by
  have hmarked : (l.find? other).map (Nonce.mark token) = l.find? other := by
    cases hfind : l.find? other with
    | none => rfl
    | some n =>
        have htoken : n.token ≠ token := (token_of_find? hfind).symm ▸ hne.symm
        simp [Nonce.mark, htoken]
  have hfind : (l.settle now token judgement).find? other = l.find? other := by
    rcases judgement with (_ | _ | _) | _
    · rfl
    · exact find?_evict_of_ne l now hne
    · rfl
    · exact (find?_markConsumed l token other).trans hmarked
  simp only [judge, hfind]

/-- A token is judged alike before and after another one is presented. -/
theorem judge_consumeAt_of_ne (l : Ledger) (now : Instant) (hne : token ≠ other) :
    (l.consumeAt now token).2.judge now other = l.judge now other := by
  rw [consumeAt_eq_settle]
  exact judge_settle_of_ne l now hne _

/-- Two tokens presented in either order leave the same ledger. -/
theorem consumeAt_comm (l : Ledger) (now : Instant) (hne : token ≠ other) :
    ((l.consumeAt now token).2.consumeAt now other).2 =
      ((l.consumeAt now other).2.consumeAt now token).2 := by
  simp only [consumeAt_eq_settle, judge_settle_of_ne l now hne, judge_settle_of_ne l now hne.symm]
  exact settle_comm l now token other _ _

end Enrollment.Ledger
