import Enrollment.Config.Validation

/-!
# Valid settings

The rules that settings are checked by, as one property: they are valid exactly if they keep to all
of them, whatever the order in which they are checked.
-/

namespace Enrollment.Config

variable {α β ε : Type}

theorem bind_eq_ok_iff {x : Except ε α} {f : α → Except ε β} {b : β} :
    x >>= f = .ok b ↔ ∃ a, x = .ok a ∧ f a = .ok b := by
  cases x <;> simp [bind, Except.bind]

theorem map_eq_ok_iff {x : Except ε α} {f : α → β} {b : β} :
    x.map f = .ok b ↔ ∃ a, x = .ok a ∧ f a = b := by
  cases x <;> simp [Except.map]

theorem rule_eq_ok_iff {holds : Bool} {v : Violation} {u : Unit} :
    rule holds v = .ok u ↔ holds = true := by
  cases holds <;> simp [rule]

/-- The rules for registration. A secret is asked for only where it is enabled. -/
structure Registration.IsValid (r : Registration) : Prop where
  nonceLifetime : r.nonceLifetime.isZero = false
  maxOutstandingNonces : r.maxOutstandingNonces ≠ 0
  sweepInterval : r.sweepInterval.isZero = false
  denialStatus : 400 ≤ r.denialStatus ∧ r.denialStatus ≤ 499
  serverName : Unicode.trim r.serverName.toList ≠ []
  secret : r.enabled = true → ∃ secret, r.secret = .ok secret

theorem Registration.validate_eq_ok_iff {r : Registration} : r.validate = .ok () ↔ r.IsValid := by
  simp only [Registration.validate, bind_eq_ok_iff, rule_eq_ok_iff]
  constructor
  · rintro ⟨_, hlifetime, _, hcapacity, _, hsweep, _, hstatus, _, hname, hlast⟩
    refine ⟨by simpa using hlifetime, by simpa using hcapacity, by simpa using hsweep,
      by simpa using hstatus, by simpa using hname, fun henabled => ?_⟩
    rw [if_pos henabled] at hlast
    cases hsecret : r.secret with
    | ok secret => exact ⟨secret, rfl⟩
    | error e =>
        rw [hsecret] at hlast
        cases hlast
  · rintro ⟨hlifetime, hcapacity, hsweep, hstatus, hname, hsecret⟩
    refine ⟨(), by simpa using hlifetime, (), by simpa using hcapacity, (), by simpa using hsweep,
      (), by simpa using hstatus, (), by simpa using hname, ?_⟩
    split
    next henabled =>
      obtain ⟨secret, hsecret⟩ := hsecret henabled
      rw [hsecret]
    next => rfl

/-- The rules for settings. -/
structure IsValid (c : Config) : Prop where
  noncePerMinute : c.rateLimit.noncePerMinute ≠ 0
  registerPerMinute : c.rateLimit.registerPerMinute ≠ 0
  burstSize : c.rateLimit.burstSize ≠ some 0
  maxRequestSize : c.limits.maxRequestSize ≠ 0
  requestTimeout : c.timeouts.request.isZero = false
  registration : c.registration.IsValid

theorem validate_eq_ok_iff {c : Config} : c.validate = .ok () ↔ c.IsValid := by
  simp only [validate, bind_eq_ok_iff, rule_eq_ok_iff, Registration.validate_eq_ok_iff]
  constructor
  · rintro ⟨_, hnonce, _, hregister, _, hburst, _, hsize, _, htimeout, hregistration⟩
    exact ⟨by simpa using hnonce, by simpa using hregister, by simpa using hburst,
      by simpa using hsize, by simpa using htimeout, hregistration⟩
  · rintro ⟨hnonce, hregister, hburst, hsize, htimeout, hregistration⟩
    exact ⟨(), by simpa using hnonce, (), by simpa using hregister, (), by simpa using hburst, (),
      by simpa using hsize, (), by simpa using htimeout, hregistration⟩

end Enrollment.Config
