import Enrollment.Config.Error
import Enrollment.Toml.Document
import Enrollment.Toml.Writer

/-!
# Settings as a document

Settings are a document with a section for each of their groups. A section may lack any of its
members, which then keep their defaults, and members that are not known are passed over. A section
may also be given as a list of its members in order. The first fault in the order of the document is
reported.

The document that settings are written as lacks the shared secret, and the burst size where none is
set.
-/

namespace Enrollment.Config

open Toml (Value)

/-- A value that has the wrong kind, is out of range or is no written form. -/
def unsuitable : Except Error α :=
  .error (.unparsable none)

abbrev Decoder (α : Type) := Value → Except Error α

namespace Decode

def flag : Decoder Bool
  | .flag b => .ok b
  | _ => unsuitable

def text : Decoder String
  | .text s => .ok s
  | _ => unsuitable

/-- A number from zero to a greatest one. -/
def upTo (greatest : Nat) : Decoder Nat
  | .integer n => if 0 ≤ n ∧ n ≤ greatest then .ok n.toNat else unsuitable
  | _ => unsuitable

/-- A written span. -/
def span : Decoder Span
  | .text s =>
      match Span.parse s with
      | .ok span => .ok span
      | .error e => .error (.unparsable (some e))
  | _ => unsuitable

def address : Decoder Address
  | .text s =>
      match Address.parse? s.toList with
      | some a => .ok a
      | none => unsuitable
  | _ => unsuitable

def addresses : Decoder (List Address)
  | .list values => values.mapM address
  | _ => unsuitable

end Decode

/-- A member of a section: its name and how its value changes the section. -/
structure Setting (σ : Type) where
  name : String
  apply : Value → σ → Except Error σ

/-- A member that is read by a decoder and then put into the section. -/
def setting (name : String) (decode : Decoder α) (put : α → σ → σ) : Setting σ :=
  ⟨name, fun v s => (decode v).map (put · s)⟩

/-- Applies the members of a table in their order; those that are not known change nothing. -/
def applyMembers (settings : List (Setting σ)) : List (String × Value) → σ → Except Error σ
  | [], s => .ok s
  | (name, v) :: members, s => do
      let s ← match settings.find? (·.name == name) with
        | some setting => setting.apply v s
        | none => .ok s
      applyMembers settings members s

/-- Applies values in the order of the members; those beyond the last member change nothing. -/
def applyValues : List (Setting σ) → List Value → σ → Except Error σ
  | setting :: settings, v :: values, s => do
      let s ← setting.apply v s
      applyValues settings values s
  | _, _, s => .ok s

/-- Reads a section over its defaults. A moment counts as a table of members that are not known. -/
def section? (settings : List (Setting σ)) (standard : σ) : Decoder σ
  | .table members => applyMembers settings members standard
  | .list values => applyValues settings values standard
  | .moment => .ok standard
  | _ => unsuitable

def max16 : Nat := UInt16.size - 1

def max32 : Nat := UInt32.size - 1

def max64 : Nat := UInt64.size - 1

def httpSettings : List (Setting Http) :=
  [setting "host" Decode.address fun v s => { s with host := v },
    setting "port" (Decode.upTo max16) fun v s => { s with port := UInt16.ofNat v }]

def registrationSettings : List (Setting Registration) :=
  [setting "enabled" Decode.flag fun v s => { s with enabled := v },
    setting "shared_secret" Decode.text fun v s => { s with sharedSecret := some v },
    setting "nonce_ttl" Decode.span fun v s => { s with nonceLifetime := v },
    setting "max_outstanding_nonces" (Decode.upTo max64) fun v s =>
      { s with maxOutstandingNonces := UInt64.ofNat v },
    setting "sweep_interval" Decode.span fun v s => { s with sweepInterval := v },
    setting "denial_status" (Decode.upTo max16) fun v s =>
      { s with denialStatus := UInt16.ofNat v },
    setting "server_name" Decode.text fun v s => { s with serverName := v },
    setting "token_lifetime" Decode.span fun v s => { s with tokenLifetime := v }]

def rateLimitSettings : List (Setting RateLimit) :=
  [setting "enabled" Decode.flag fun v s => { s with enabled := v },
    setting "nonce_per_minute" (Decode.upTo max32) fun v s =>
      { s with noncePerMinute := UInt32.ofNat v },
    setting "register_per_minute" (Decode.upTo max32) fun v s =>
      { s with registerPerMinute := UInt32.ofNat v },
    setting "burst_size" (Decode.upTo max32) fun v s =>
      { s with burstSize := some (UInt32.ofNat v) },
    setting "whitelist" Decode.addresses fun v s => { s with exempt := v },
    setting "trust_forwarded_for" Decode.flag fun v s => { s with trustForwarded := v },
    setting "bucket_idle_timeout" Decode.span fun v s => { s with bucketIdleTimeout := v }]

def limitsSettings : List (Setting Limits) :=
  [setting "max_request_size" (Decode.upTo max64) fun v s =>
    { s with maxRequestSize := UInt64.ofNat v }]

def timeoutsSettings : List (Setting Timeouts) :=
  [setting "request" Decode.span fun v s => { s with request := v }]

def sections : List (Setting Config) :=
  [setting "http" (section? httpSettings {}) fun v s => { s with http := v },
    setting "registration" (section? registrationSettings {}) fun v s =>
      { s with registration := v },
    setting "rate_limit" (section? rateLimitSettings {}) fun v s => { s with rateLimit := v },
    setting "limits" (section? limitsSettings {}) fun v s => { s with limits := v },
    setting "timeouts" (section? timeoutsSettings {}) fun v s => { s with timeouts := v }]

/-- The settings that a document's members give. -/
def ofMembers (members : List (String × Value)) : Except Error Config :=
  applyMembers sections members standard

/-- The settings that a document gives. -/
def ofToml (text : String) : Except Error Config :=
  match Toml.parse? text with
  | some members => ofMembers members
  | none => unsuitable

/-- A span as a value. -/
def spanValue (s : Span) : Value :=
  .text s.render

/-- The sections that settings are written as. -/
def toSections (c : Config) : List (String × List (String × Value)) :=
  [("http", [("host", .text c.http.host.render), ("port", .integer c.http.port.toNat)]),
    ("registration",
      [("enabled", .flag c.registration.enabled),
        ("nonce_ttl", spanValue c.registration.nonceLifetime),
        ("max_outstanding_nonces", .integer c.registration.maxOutstandingNonces.toNat),
        ("sweep_interval", spanValue c.registration.sweepInterval),
        ("denial_status", .integer c.registration.denialStatus.toNat),
        ("server_name", .text c.registration.serverName),
        ("token_lifetime", spanValue c.registration.tokenLifetime)]),
    ("rate_limit",
      [("enabled", .flag c.rateLimit.enabled),
        ("nonce_per_minute", .integer c.rateLimit.noncePerMinute.toNat),
        ("register_per_minute", .integer c.rateLimit.registerPerMinute.toNat)] ++
      (c.rateLimit.burstSize.map fun n => ("burst_size", Value.integer n.toNat)).toList ++
      [("whitelist", .list (c.rateLimit.exempt.map fun a => .text a.render)),
        ("trust_forwarded_for", .flag c.rateLimit.trustForwarded),
        ("bucket_idle_timeout", spanValue c.rateLimit.bucketIdleTimeout)]),
    ("limits", [("max_request_size", .integer c.limits.maxRequestSize.toNat)]),
    ("timeouts", [("request", spanValue c.timeouts.request)])]

/-- Settings as a document, unless a number in them is too large for one. -/
def toToml? (c : Config) : Option String :=
  Toml.render? c.toSections

end Enrollment.Config
