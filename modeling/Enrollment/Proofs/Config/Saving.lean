import Enrollment.Proofs.Config.Environment
import Enrollment.Proofs.Net.Address
import Enrollment.Proofs.Time.Notation
import Enrollment.Proofs.Toml.Document
import Enrollment.Proofs.Toml.Integers

/-!
# Settings, saved and read again

What a file and an environment can set is always such that it can be written without loss: the spans
are whole seconds or whole milliseconds that fit in a word, and the numbers fit in the words that a
document has. So settings that were read can be saved, and what is read back are the same settings,
but for the secret, of which a saved document says nothing.
-/

namespace Enrollment.Config

open Toml (Value maxDepth isWritable_of_bare isWritableTable_of_bare)

/-! ## What can be saved -/

def Registration.IsStorable (r : Registration) : Prop :=
  r.nonceLifetime.IsExpressible ∧ r.sweepInterval.IsExpressible ∧
    r.tokenLifetime.IsExpressible ∧ r.maxOutstandingNonces.toNat < signedSize

def RateLimit.IsStorable (r : RateLimit) : Prop :=
  r.bucketIdleTimeout.IsExpressible

def Limits.IsStorable (l : Limits) : Prop :=
  l.maxRequestSize.toNat < signedSize

def Timeouts.IsStorable (t : Timeouts) : Prop :=
  t.request.IsExpressible

/-- The settings can be written as a document that says all of them but the secret. -/
structure IsStorable (c : Config) : Prop where
  registration : c.registration.IsStorable
  rateLimit : c.rateLimit.IsStorable
  limits : c.limits.IsStorable
  timeouts : c.timeouts.IsStorable

theorem isStorable_standard : standard.IsStorable where
  registration := ⟨Or.inl rfl, Or.inl rfl, Or.inl rfl, by decide⟩
  rateLimit := Or.inl rfl
  limits := (by decide : (65536 : UInt64).toNat < signedSize)
  timeouts := Or.inl rfl

/-! ## What is read can be saved -/

section Reading

variable {σ α : Type} {P : σ → Prop}

/-- A member whose value fits keeps a property of the section. -/
def Setting.Keeps (P : σ → Prop) (s : Setting σ) : Prop :=
  ∀ v before after, v.Fits → P before → s.apply v before = .ok after → P after

theorem keeps_setting {name : String} {decode : Decoder α} {put : α → σ → σ}
    (hput : ∀ v a s, v.Fits → decode v = .ok a → P s → P (put a s)) :
    (setting name decode put).Keeps P := by
  intro v before after hv hbefore happly
  obtain ⟨a, hdecode, rfl⟩ := map_eq_ok_iff.mp happly
  exact hput v a before hv hdecode hbefore

/-- A member that has nothing to do with the property. -/
theorem keeps_unrelated {name : String} {decode : Decoder α} {put : α → σ → σ}
    (hput : ∀ a s, P s → P (put a s)) : (setting name decode put).Keeps P :=
  keeps_setting fun _ a s _ _ => hput a s

theorem applyMembers_keeps {settings : List (Setting σ)} {members : List (String × Value)}
    {before after : σ} (hsettings : ∀ s ∈ settings, s.Keeps P)
    (hmembers : ∀ m ∈ members, m.2.Fits) (hbefore : P before)
    (happly : applyMembers settings members before = .ok after) : P after := by
  induction members generalizing before with
  | nil =>
      cases happly
      exact hbefore
  | cons member members ih =>
      obtain ⟨name, v⟩ := member
      have hrest := fun m hm => hmembers m (List.mem_cons_of_mem (name, v) hm)
      rw [applyMembers] at happly
      split at happly
      next s hfind =>
        obtain ⟨between, hone, happly⟩ := bind_eq_ok_iff.mp happly
        have hs := hsettings s (List.mem_of_find?_eq_some hfind)
        have hbetween := hs v before between (hmembers _ List.mem_cons_self) hbefore hone
        exact ih hrest hbetween happly
      next => exact ih hrest hbefore happly

theorem applyValues_keeps {settings : List (Setting σ)} {values : List Value} {before after : σ}
    (hsettings : ∀ s ∈ settings, s.Keeps P) (hvalues : ∀ v ∈ values, v.Fits) (hbefore : P before)
    (happly : applyValues settings values before = .ok after) : P after := by
  induction settings generalizing values before with
  | nil =>
      cases happly
      exact hbefore
  | cons s settings ih =>
      cases values with
      | nil =>
          cases happly
          exact hbefore
      | cons v values =>
          obtain ⟨between, hone, happly⟩ := bind_eq_ok_iff.mp happly
          have hs := hsettings s List.mem_cons_self
          exact ih (fun s hs => hsettings s (List.mem_cons_of_mem _ hs))
            (fun w hw => hvalues w (List.mem_cons_of_mem v hw))
            (hs v before between (hvalues v List.mem_cons_self) hbefore hone) happly

/-- A section that is read over its defaults has a property that these have and that its members
keep. -/
theorem section?_keeps {settings : List (Setting σ)} {standard s : σ} {v : Value}
    (hsettings : ∀ s ∈ settings, s.Keeps P) (hstandard : P standard) (hv : v.Fits)
    (hread : section? settings standard v = .ok s) : P s := by
  cases hv with
  | table hmembers => exact applyMembers_keeps hsettings hmembers hstandard hread
  | list hvalues => exact applyValues_keeps hsettings hvalues hstandard hread
  | moment =>
      cases hread
      exact hstandard
  | _ => cases hread

theorem isExpressible_of_decode {v : Value} {s : Span} (hread : Decode.span v = .ok s) :
    s.IsExpressible := by
  obtain ⟨text, -, hparse⟩ := exists_text_of_span hread
  exact Span.isExpressible_of_parse hparse

theorem lt_of_decode {v : Value} {n : Nat} (hv : v.Fits)
    (hread : Decode.upTo max64 v = .ok n) : (UInt64.ofNat n).toNat < signedSize := by
  obtain ⟨rfl, -⟩ := eq_integer_of_decode hread
  cases hv with
  | integer hn =>
      have hsmall : n < signedSize := by omega
      rw [UInt64.toNat_ofNat_of_lt' (Nat.lt_trans hsmall (by decide))]
      exact hsmall

theorem registrationSettings_keep :
    ∀ s ∈ registrationSettings, s.Keeps Registration.IsStorable := by
  simp only [registrationSettings, List.forall_mem_cons, List.not_mem_nil, false_implies,
    implies_true, and_true]
  refine ⟨keeps_unrelated fun _ _ h => h, keeps_unrelated fun _ _ h => h,
    keeps_setting fun _ _ _ _ hread h => ⟨isExpressible_of_decode hread, h.2⟩,
    keeps_setting fun _ _ _ hv hread h => ⟨h.1, h.2.1, h.2.2.1, lt_of_decode hv hread⟩,
    keeps_setting fun _ _ _ _ hread h => ⟨h.1, isExpressible_of_decode hread, h.2.2⟩,
    keeps_unrelated fun _ _ h => h, keeps_unrelated fun _ _ h => h,
    keeps_setting fun _ _ _ _ hread h => ⟨h.1, h.2.1, isExpressible_of_decode hread, h.2.2.2⟩⟩

theorem rateLimitSettings_keep : ∀ s ∈ rateLimitSettings, s.Keeps RateLimit.IsStorable := by
  simp only [rateLimitSettings, List.forall_mem_cons, List.not_mem_nil, false_implies,
    implies_true, and_true]
  exact ⟨keeps_unrelated fun _ _ h => h, keeps_unrelated fun _ _ h => h,
    keeps_unrelated fun _ _ h => h, keeps_unrelated fun _ _ h => h,
    keeps_unrelated fun _ _ h => h, keeps_unrelated fun _ _ h => h,
    keeps_setting fun _ _ _ _ hread _ => isExpressible_of_decode hread⟩

theorem limitsSettings_keep : ∀ s ∈ limitsSettings, s.Keeps Limits.IsStorable := by
  simp only [limitsSettings, List.forall_mem_singleton]
  exact keeps_setting fun _ _ _ hv hread _ => lt_of_decode hv hread

theorem timeoutsSettings_keep : ∀ s ∈ timeoutsSettings, s.Keeps Timeouts.IsStorable := by
  simp only [timeoutsSettings, List.forall_mem_singleton]
  exact keeps_setting fun _ _ _ _ hread _ => isExpressible_of_decode hread

theorem sections_keep : ∀ s ∈ sections, s.Keeps IsStorable := by
  simp only [sections, List.forall_mem_cons, List.not_mem_nil, false_implies, implies_true,
    and_true]
  refine ⟨keeps_unrelated fun _ _ h => ⟨h.1, h.2, h.3, h.4⟩,
    keeps_setting fun _ _ _ hv hread h => ⟨?_, h.2, h.3, h.4⟩,
    keeps_setting fun _ _ _ hv hread h => ⟨h.1, ?_, h.3, h.4⟩,
    keeps_setting fun _ _ _ hv hread h => ⟨h.1, h.2, ?_, h.4⟩,
    keeps_setting fun _ _ _ hv hread h => ⟨h.1, h.2, h.3, ?_⟩⟩
  · exact section?_keeps registrationSettings_keep isStorable_standard.registration hv hread
  · exact section?_keeps rateLimitSettings_keep isStorable_standard.rateLimit hv hread
  · exact section?_keeps limitsSettings_keep isStorable_standard.limits hv hread
  · exact section?_keeps timeoutsSettings_keep isStorable_standard.timeouts hv hread

/-- The settings that a document gives can be saved. -/
theorem isStorable_of_ofToml {text : String} {c : Config} (hread : ofToml text = .ok c) :
    c.IsStorable := by
  unfold ofToml at hread
  split at hread
  next hparse =>
    exact applyMembers_keeps sections_keep (Toml.fits_of_parse? hparse) isStorable_standard hread
  next => cases hread

end Reading

/-! ## What is overridden can be saved -/

/-- Overriding settings that can be saved leaves settings that can be saved: of the settings that
have variables, only the lifetime matters, and a variable sets it to whole seconds. -/
theorem IsStorable.withEnvironment {env : Environment} {c c' : Config} (hc : c.IsStorable)
    (henv : c.withEnvironment env = .ok c') : c'.IsStorable := by
  obtain ⟨host, port, lifetime, enabled, -, -, hlifetime, -, rfl⟩ :=
    withEnvironment_eq_ok_iff.mp henv
  have hexpressible : lifetime.IsExpressible := by
    refine (asSaid_of_overridden nonceLifetime_isReadBy hlifetime).holds ?_ ?_
    · rintro value span ⟨seconds, -, rfl⟩
      exact Span.isExpressible_ofSeconds seconds
    · rintro span rfl
      exact hc.registration.1
  exact ⟨⟨hexpressible, hc.registration.2⟩, hc.2, hc.3, hc.4⟩

/-! ## What can be saved is read back -/

/-- The settings with another secret, or with none. -/
def withSecret (c : Config) (secret : Option String) : Config :=
  { c with registration := { c.registration with sharedSecret := secret } }

section Restored

variable {σ α : Type}

/-- A member that is known and that its decoder reads changes the section by what was read. -/
theorem applyMembers_setting {settings : List (Setting σ)} {name : String} {decode : Decoder α}
    {put : α → σ → σ} {v : Value} {a : α}
    (hfind : settings.find? (·.name == name) = some (setting name decode put))
    (hdecode : decode v = .ok a) (members : List (String × Value)) (s : σ) :
    applyMembers settings ((name, v) :: members) s =
      applyMembers settings members (put a s) := by
  simp [applyMembers, hfind, setting, hdecode, Except.map, bind, Except.bind]

theorem decode_spanValue {s : Span} (hs : s.IsExpressible) : Decode.span (spanValue s) = .ok s := by
  simp [Decode.span, spanValue, Span.parse_render hs]

theorem decode_render (a : Address) : Decode.address (.text a.render) = .ok a := by
  simp [Decode.address, Address.render, Address.parse?_write]

theorem decode_addresses (addresses : List Address) :
    Decode.addresses (.list (addresses.map fun a => .text a.render)) = .ok addresses := by
  simp only [Decode.addresses]
  induction addresses with
  | nil => rfl
  | cons a addresses ih =>
      simp [List.mapM_cons, decode_render, ih, bind, Except.bind, pure, Except.pure]

theorem decode_upTo {n greatest : Nat} (hn : n ≤ greatest) :
    Decode.upTo greatest (.integer n) = .ok n := by
  simp [Decode.upTo, hn]

theorem decode_word16 (n : UInt16) : Decode.upTo max16 (.integer n.toNat) = .ok n.toNat :=
  decode_upTo (Nat.le_sub_one_of_lt n.toNat_lt_size)

theorem decode_word32 (n : UInt32) : Decode.upTo max32 (.integer n.toNat) = .ok n.toNat :=
  decode_upTo (Nat.le_sub_one_of_lt n.toNat_lt_size)

theorem decode_word64 (n : UInt64) : Decode.upTo max64 (.integer n.toNat) = .ok n.toNat :=
  decode_upTo (Nat.le_sub_one_of_lt n.toNat_lt_size)

/-! ### Sections -/

theorem http_restored (h : Http) :
    applyMembers httpSettings [("host", .text h.host.render), ("port", .integer h.port.toNat)] {} =
      .ok h := by
  rw [applyMembers_setting rfl (decode_render _), applyMembers_setting rfl (decode_word16 _)]
  simp [applyMembers]

theorem registration_restored {r : Registration} (hr : r.IsStorable) :
    applyMembers registrationSettings
      [("enabled", .flag r.enabled), ("nonce_ttl", spanValue r.nonceLifetime),
        ("max_outstanding_nonces", .integer r.maxOutstandingNonces.toNat),
        ("sweep_interval", spanValue r.sweepInterval),
        ("denial_status", .integer r.denialStatus.toNat), ("server_name", .text r.serverName),
        ("token_lifetime", spanValue r.tokenLifetime)] {} =
      .ok { r with sharedSecret := none } := by
  have hflag (b : Bool) : Decode.flag (.flag b) = .ok b := rfl
  have htext (s : String) : Decode.text (.text s) = .ok s := rfl
  rw [applyMembers_setting rfl (hflag _), applyMembers_setting rfl (decode_spanValue hr.1),
    applyMembers_setting rfl (decode_word64 _), applyMembers_setting rfl (decode_spanValue hr.2.1),
    applyMembers_setting rfl (decode_word16 _), applyMembers_setting rfl (htext _),
    applyMembers_setting rfl (decode_spanValue hr.2.2.1)]
  simp [applyMembers]

theorem rateLimit_restored {r : RateLimit} (hr : r.IsStorable) :
    applyMembers rateLimitSettings
      ([("enabled", .flag r.enabled), ("nonce_per_minute", .integer r.noncePerMinute.toNat),
        ("register_per_minute", .integer r.registerPerMinute.toNat)] ++
      (r.burstSize.map fun n => ("burst_size", Value.integer n.toNat)).toList ++
      [("whitelist", .list (r.exempt.map fun a => .text a.render)),
        ("trust_forwarded_for", .flag r.trustForwarded),
        ("bucket_idle_timeout", spanValue r.bucketIdleTimeout)]) {} = .ok r := by
  have hflag (b : Bool) : Decode.flag (.flag b) = .ok b := rfl
  obtain ⟨enabled, noncePerMinute, registerPerMinute, burstSize, exempt, trust, timeout⟩ := r
  cases burstSize with
  | none =>
      simp only [Option.map_none, Option.toList_none, List.append_nil, List.cons_append,
        List.nil_append]
      rw [applyMembers_setting rfl (hflag _), applyMembers_setting rfl (decode_word32 _),
        applyMembers_setting rfl (decode_word32 _), applyMembers_setting rfl (decode_addresses _),
        applyMembers_setting rfl (hflag _), applyMembers_setting rfl (decode_spanValue hr)]
      simp [applyMembers]
  | some burst =>
      simp only [Option.map_some, Option.toList_some, List.cons_append, List.nil_append]
      rw [applyMembers_setting rfl (hflag _), applyMembers_setting rfl (decode_word32 _),
        applyMembers_setting rfl (decode_word32 _), applyMembers_setting rfl (decode_word32 _),
        applyMembers_setting rfl (decode_addresses _), applyMembers_setting rfl (hflag _),
        applyMembers_setting rfl (decode_spanValue hr)]
      simp [applyMembers]

theorem limits_restored (l : Limits) :
    applyMembers limitsSettings [("max_request_size", .integer l.maxRequestSize.toNat)] {} =
      .ok l := by
  rw [applyMembers_setting rfl (decode_word64 _)]
  simp [applyMembers]

theorem timeouts_restored {t : Timeouts} (ht : t.IsStorable) :
    applyMembers timeoutsSettings [("request", spanValue t.request)] {} = .ok t := by
  rw [applyMembers_setting rfl (decode_spanValue ht)]
  simp [applyMembers]

/-- The sections that settings are written as give them back, without the secret. -/
theorem ofMembers_toSections {c : Config} (hc : c.IsStorable) :
    ofMembers (c.toSections.map fun table => (table.1, .table table.2)) =
      .ok (c.withSecret none) := by
  simp only [ofMembers, toSections, List.map_cons, List.map_nil]
  rw [applyMembers_setting rfl (http_restored c.http),
    applyMembers_setting rfl (registration_restored hc.registration),
    applyMembers_setting rfl (rateLimit_restored hc.rateLimit),
    applyMembers_setting rfl (limits_restored c.limits),
    applyMembers_setting rfl (timeouts_restored hc.timeouts)]
  simp [applyMembers, withSecret]

end Restored

/-! ### Documents -/

theorem isPlain_addresses (addresses : List Address) :
    (Value.list (addresses.map fun a => .text a.render)).IsPlain maxDepth := by
  refine .list fun v hv => ?_
  obtain ⟨a, -, rfl⟩ := List.mem_map.mp hv
  exact .text a.render

/-- The sections of settings have names without quotes, each its own, and so have their members. -/
theorem isWritableTable_of_mem {c : Config} (hc : c.IsStorable) :
    ∀ table ∈ c.toSections, Toml.IsWritableTable table := by
  have h16 (n : UInt16) : (Value.integer n.toNat).IsPlain maxDepth :=
    .integer (Nat.lt_trans n.toNat_lt_size (by decide))
  have h32 (n : UInt32) : (Value.integer n.toNat).IsPlain maxDepth :=
    .integer (Nat.lt_trans n.toNat_lt_size (by decide))
  simp only [toSections, List.forall_mem_cons, List.not_mem_nil, false_implies, implies_true,
    and_true]
  refine ⟨isWritableTable_of_bare (by decide) (by simp) ?http,
    isWritableTable_of_bare (by decide) (by simp) ?registration, ?rateLimit,
    isWritableTable_of_bare (by decide) (by simp) ?limits,
    isWritableTable_of_bare (by decide) (by simp) ?timeouts⟩
  case http =>
    simp only [List.forall_mem_cons, List.not_mem_nil, false_implies, implies_true, and_true]
    exact ⟨isWritable_of_bare (by decide) (.text _), isWritable_of_bare (by decide) (h16 _)⟩
  case registration =>
    simp only [List.forall_mem_cons, List.not_mem_nil, false_implies, implies_true, and_true]
    exact ⟨isWritable_of_bare (by decide) (.flag _), isWritable_of_bare (by decide) (.text _),
      isWritable_of_bare (by decide) (.integer hc.registration.2.2.2),
      isWritable_of_bare (by decide) (.text _), isWritable_of_bare (by decide) (h16 _),
      isWritable_of_bare (by decide) (.text _), isWritable_of_bare (by decide) (.text _)⟩
  case rateLimit =>
    cases c.rateLimit.burstSize with
    | none =>
        refine isWritableTable_of_bare (by decide) (by simp) ?_
        simp only [Option.map_none, Option.toList_none, List.append_nil, List.cons_append,
          List.nil_append, List.forall_mem_cons, List.not_mem_nil, false_implies, implies_true,
          and_true]
        exact ⟨isWritable_of_bare (by decide) (.flag _), isWritable_of_bare (by decide) (h32 _),
          isWritable_of_bare (by decide) (h32 _),
          isWritable_of_bare (by decide) (isPlain_addresses _),
          isWritable_of_bare (by decide) (.flag _), isWritable_of_bare (by decide) (.text _)⟩
    | some burst =>
        refine isWritableTable_of_bare (by decide) (by simp) ?_
        simp only [Option.map_some, Option.toList_some, List.cons_append, List.nil_append,
          List.forall_mem_cons, List.not_mem_nil, false_implies, implies_true, and_true]
        exact ⟨isWritable_of_bare (by decide) (.flag _), isWritable_of_bare (by decide) (h32 _),
          isWritable_of_bare (by decide) (h32 _), isWritable_of_bare (by decide) (h32 _),
          isWritable_of_bare (by decide) (isPlain_addresses _),
          isWritable_of_bare (by decide) (.flag _), isWritable_of_bare (by decide) (.text _)⟩
  case limits =>
    rw [List.forall_mem_singleton]
    exact isWritable_of_bare (by decide) (.integer hc.limits)
  case timeouts =>
    rw [List.forall_mem_singleton]
    exact isWritable_of_bare (by decide) (.text _)

/-- Settings that can be saved are, but for the secret, those that the saved document gives. -/
theorem IsStorable.exists_saved {c : Config} (hc : c.IsStorable) :
    ∃ saved, c.toToml? = some saved ∧ ofToml saved = .ok (c.withSecret none) := by
  have hnames : (c.toSections.map Prod.fst).Nodup := by
    simp only [toSections, List.map_cons, List.map_nil]
    decide
  obtain ⟨saved, hsaved, hparse⟩ := Toml.exists_render (isWritableTable_of_mem hc) hnames
  exact ⟨saved, hsaved, by simp [ofToml, hparse, ofMembers_toSections hc]⟩

/-- A saved document does not depend on the secret. -/
theorem toToml?_withSecret (c : Config) (secret : Option String) :
    (c.withSecret secret).toToml? = c.toToml? :=
  rfl

/-- Whatever a file and an environment set can be saved, and is read back: all but the secret, which
has no influence on what is saved. -/
theorem saved_settings_restored {text : String} {env : Environment} {read c : Config}
    (hread : ofToml text = .ok read) (henv : read.withEnvironment env = .ok c) :
    ∃ saved, c.toToml? = some saved ∧ ofToml saved = .ok (c.withSecret none) ∧
      ∀ secret, (c.withSecret secret).toToml? = some saved := by
  have hc := (isStorable_of_ofToml hread).withEnvironment henv
  obtain ⟨saved, hsaved, hrestored⟩ := hc.exists_saved
  exact ⟨saved, hsaved, hrestored, fun secret => (toToml?_withSecret c secret).trans hsaved⟩

theorem saved_settings_restored_of_file :
    let text := "[registration]\nenabled = true\nshared_secret = \"abc\"\nserver_name = 'a\"b'\n" ++
      "[rate_limit]\nburst_size = 5\nbucket_idle_timeout = \"1500ms\"\n"
    let env : Environment := fun name =>
      if name = "BOOTSTRAP_NONCE_TTL_SECS" then some "7" else none
    let read : Config :=
      { registration := { enabled := true, sharedSecret := some "abc", serverName := "a\"b" }
        rateLimit := { burstSize := some 5, bucketIdleTimeout := .ofMillis 1500 } }
    let c : Config :=
      { read with registration := { read.registration with nonceLifetime := .ofSeconds 7 } }
    ofToml text = .ok read ∧ read.withEnvironment env = .ok c ∧
      ∃ saved, c.toToml? = some saved ∧ ofToml saved = .ok (c.withSecret none) ∧
        ∀ secret, (c.withSecret secret).toToml? = some saved := by
  intro text env read c
  have hread : ofToml text = .ok read := by decide +kernel
  have henv : read.withEnvironment env = .ok c := by decide +kernel
  exact ⟨hread, henv, saved_settings_restored hread henv⟩

end Enrollment.Config
