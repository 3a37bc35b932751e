import Enrollment.Config.Document
import Enrollment.Proofs.Config.Validation

/-!
# What a document says of a setting

A setting that a document names has the value that stands there, and any other has its default:
members that are not known, and members of other settings, change nothing. A section may be a table
of members or a list of their values, so what a document says of a setting is found by the name of
the member in the one and by its place in the other.
-/

namespace Enrollment.Config

open Toml (Value)

variable {σ τ α : Type}

/-! ## Sources -/

/-- A value as a source says it, if the source says anything, and otherwise as it is without. -/
def AsSaid (means : τ → α → Prop) (said? : Option τ) (otherwise : α → Prop) (a : α) : Prop :=
  match said? with
  | some said => means said a
  | none => otherwise a

namespace AsSaid

variable {means : τ → α → Prop} {said? : Option τ} {a b c : α}

/-- What holds of all that a source can mean, and of all else, holds of the value. -/
theorem holds {p otherwise : α → Prop} (h : AsSaid means said? otherwise a)
    (hmeans : ∀ said a, means said a → p a) (hotherwise : ∀ a, otherwise a → p a) : p a := by
  cases said? with
  | none => exact hotherwise a h
  | some said => exact hmeans said a h

/-- What holds without the source holds where the source says nothing. -/
theorem above {p : α → Prop} (h : AsSaid means said? (· = a) b) (ha : p a) :
    AsSaid means said? p b := by
  cases said? with
  | none =>
      cases h
      exact ha
  | some said => exact h

/-- Of two sources that are asked one after the other, the later prevails. -/
theorem or {later? : Option τ} (hfirst : AsSaid means said? (· = a) b)
    (hlater : AsSaid means later? (· = b) c) : AsSaid means (later?.or said?) (· = a) c := by
  cases later? with
  | none =>
      cases hlater
      exact hfirst
  | some said => exact hlater

end AsSaid

/-! ## Members -/

/-- The value of the last member of a name. Where there are several, the last one counts. -/
def lastOf? (name : String) (members : List (String × Value)) : Option Value :=
  members.reverse.lookup name

/-- The members of a section: those of a table, or values that are listed in the order of the names.
-/
def membersOf (names : List String) : Value → List (String × Value)
  | .table members => members
  | .list values => names.zip values
  | _ => []

theorem lastOf?_cons {name other : String} {v : Value} {members : List (String × Value)} :
    lastOf? name ((other, v) :: members) =
      (lastOf? name members).or (if other = name then some v else none) := by
  rw [lastOf?, List.reverse_cons, List.lookup_append, lastOf?]
  by_cases hname : other = name
  · simp [hname]
  · simp [List.lookup_cons, hname, beq_eq_false_iff_ne.mpr (Ne.symm hname)]

section Reading

variable {name : String} {means : Value → α → Prop} {view : σ → α} {settings : List (Setting σ)}
  {before after : σ}

/-- A setting changes what is viewed to what its value says, if it has the name, and otherwise
leaves it as it was. -/
def Setting.Bears (name : String) (means : Value → α → Prop) (view : σ → α) (s : Setting σ) :
    Prop :=
  ∀ v before after, s.apply v before = .ok after →
    AsSaid means (if s.name = name then some v else none) (· = view before) (view after)

theorem setting_name {β : Type} {decode : Decoder β} {put : β → σ → σ} :
    (setting name decode put).name = name :=
  rfl

theorem bears_own {β : Type} {decode : Decoder β} {put : β → σ → σ}
    (hput : ∀ v b s, decode v = .ok b → means v (view (put b s))) :
    (setting name decode put).Bears name means view := by
  intro v before after happly
  obtain ⟨b, hdecode, rfl⟩ := map_eq_ok_iff.mp happly
  rw [setting_name, if_pos rfl]
  exact hput v b before hdecode

theorem bears_other {β : Type} {other : String} {decode : Decoder β} {put : β → σ → σ}
    (hother : other ≠ name) (hput : ∀ b s, view (put b s) = view s) :
    (setting other decode put).Bears name means view := by
  intro v before after happly
  obtain ⟨b, -, rfl⟩ := map_eq_ok_iff.mp happly
  rw [setting_name, if_neg hother]
  exact hput b before

theorem applyMembers_bears {members : List (String × Value)}
    (hsettings : ∀ s ∈ settings, s.Bears name means view) (hname : name ∈ settings.map (·.name))
    (happly : applyMembers settings members before = .ok after) :
    AsSaid means (lastOf? name members) (· = view before) (view after) := by
  induction members generalizing before with
  | nil =>
      cases happly
      exact rfl
  | cons member members ih =>
      obtain ⟨other, v⟩ := member
      rw [applyMembers] at happly
      rw [lastOf?_cons]
      split at happly
      next s hfind =>
        obtain ⟨between, hone, happly⟩ := bind_eq_ok_iff.mp happly
        have hother : s.name = other := by simpa using List.find?_some hfind
        have hs := hsettings s (List.mem_of_find?_eq_some hfind) v before between hone
        exact (hother ▸ hs).or (ih happly)
      next hfind =>
        -- A member that is not known has another name than a setting.
        obtain ⟨s, hs, rfl⟩ := List.mem_map.mp hname
        have hother : other ≠ s.name := fun hother =>
          List.find?_eq_none.mp hfind s hs (by rw [hother, beq_self_eq_true])
        rw [if_neg hother, Option.or_none]
        exact ih happly

theorem applyValues_bears {values : List Value}
    (hsettings : ∀ s ∈ settings, s.Bears name means view)
    (happly : applyValues settings values before = .ok after) :
    AsSaid means (lastOf? name ((settings.map (·.name)).zip values)) (· = view before)
      (view after) := by
  induction settings generalizing values before with
  | nil =>
      cases happly
      exact rfl
  | cons s settings ih =>
      cases values with
      | nil =>
          cases happly
          exact rfl
      | cons v values =>
          obtain ⟨between, hone, happly⟩ := bind_eq_ok_iff.mp happly
          have hs := hsettings s List.mem_cons_self v before between hone
          rw [List.map_cons, List.zip_cons_cons, lastOf?_cons]
          exact hs.or (ih (fun s hs => hsettings s (List.mem_cons_of_mem _ hs)) happly)

theorem section?_bears {standard : σ} {v : Value}
    (hsettings : ∀ s ∈ settings, s.Bears name means view) (hname : name ∈ settings.map (·.name))
    (hread : section? settings standard v = .ok after) :
    AsSaid means (lastOf? name (membersOf (settings.map (·.name)) v)) (· = view standard)
      (view after) := by
  cases v with
  | table members => exact applyMembers_bears hsettings hname hread
  | list values => exact applyValues_bears hsettings hread
  | moment =>
      cases hread
      exact rfl
  | _ => cases hread

end Reading

/-! ## Settings in a document -/

/-- A setting as a document has it: its section, the members of the section in order, which of them
it is, and what a value there says of it. -/
structure Member (α : Type) where
  table : String
  names : List String
  name : String
  Means : Value → α → Prop
  value : Config → α

namespace Member

/-- The value that a document has for a setting. -/
def said? (m : Member α) (document : List (String × Value)) : Option Value :=
  (lastOf? m.table document).bind fun v => lastOf? m.name (membersOf m.names v)

/-- A setting as a document says, or its default. -/
def Stands (m : Member α) (document : List (String × Value)) : α → Prop :=
  AsSaid m.Means (m.said? document) (· = m.value standard)

def host : Member Address where
  table := "http"
  names := httpSettings.map (·.name)
  name := "host"
  Means v a := ∃ text, v = .text text ∧ Address.parse? text.toList = some a
  value c := c.http.host

def port : Member UInt16 where
  table := "http"
  names := httpSettings.map (·.name)
  name := "port"
  Means v n := v = .integer n.toNat
  value c := c.http.port

def enabled : Member Bool where
  table := "registration"
  names := registrationSettings.map (·.name)
  name := "enabled"
  Means v b := v = .flag b
  value c := c.registration.enabled

def sharedSecret : Member (Option String) where
  table := "registration"
  names := registrationSettings.map (·.name)
  name := "shared_secret"
  Means v secret := ∃ text, v = .text text ∧ secret = some text
  value c := c.registration.sharedSecret

def nonceLifetime : Member Span where
  table := "registration"
  names := registrationSettings.map (·.name)
  name := "nonce_ttl"
  Means v span := ∃ text, v = .text text ∧ Span.parse text = .ok span
  value c := c.registration.nonceLifetime

def serverName : Member String where
  table := "registration"
  names := registrationSettings.map (·.name)
  name := "server_name"
  Means v name := v = .text name
  value c := c.registration.serverName

end Member

/-! ### What decoders read -/

theorem eq_flag_of_decode {v : Value} {b : Bool} (h : Decode.flag v = .ok b) : v = .flag b := by
  cases v <;> cases h
  rfl

theorem eq_text_of_decode {v : Value} {s : String} (h : Decode.text v = .ok s) : v = .text s := by
  cases v <;> cases h
  rfl

theorem eq_integer_of_decode {v : Value} {n greatest : Nat}
    (h : Decode.upTo greatest v = .ok n) : v = .integer n ∧ n ≤ greatest := by
  cases v with
  | integer m =>
      simp only [Decode.upTo] at h
      split at h
      next hbounds =>
        cases h
        exact ⟨by rw [Int.toNat_of_nonneg hbounds.1], Int.toNat_le.mpr hbounds.2⟩
      next => cases h
  | _ => cases h

theorem exists_text_of_span {v : Value} {span : Span} (h : Decode.span v = .ok span) :
    ∃ text, v = .text text ∧ Span.parse text = .ok span := by
  cases v with
  | text text =>
      simp only [Decode.span] at h
      split at h
      next hparse =>
        cases h
        exact ⟨text, rfl, hparse⟩
      next => cases h
  | _ => cases h

theorem exists_text_of_address {v : Value} {a : Address} (h : Decode.address v = .ok a) :
    ∃ text, v = .text text ∧ Address.parse? text.toList = some a := by
  cases v with
  | text text =>
      simp only [Decode.address] at h
      split at h
      next hparse =>
        cases h
        exact ⟨text, rfl, hparse⟩
      next => cases h
  | _ => cases h

/-! ### What settings keep -/

theorem http_borne : ∀ s ∈ sections,
    s.Bears "http" (fun v h => section? httpSettings {} v = .ok h) (·.http) := by
  simp only [sections, List.forall_mem_cons, List.not_mem_nil, false_implies, implies_true,
    and_true]
  refine ⟨bears_own fun _ _ _ h => h, ?_, ?_, ?_, ?_⟩ <;>
    exact bears_other (by decide) fun _ _ => rfl

theorem registration_borne : ∀ s ∈ sections,
    s.Bears "registration" (fun v r => section? registrationSettings {} v = .ok r)
      (·.registration) := by
  simp only [sections, List.forall_mem_cons, List.not_mem_nil, false_implies, implies_true,
    and_true]
  refine ⟨?_, bears_own fun _ _ _ h => h, ?_, ?_, ?_⟩ <;>
    exact bears_other (by decide) fun _ _ => rfl

variable {document : List (String × Value)} {file : Config}

/-- A setting stands if its section is read as such and the settings of the section bear it. -/
theorem stands_of_bears {m : Member α} {settings : List (Setting σ)} {group : Config → σ}
    (view : σ → α) (hnames : m.names = settings.map (·.name)) (hvalue : m.value = view ∘ group)
    (htable : m.table ∈ sections.map (·.name)) (hname : m.name ∈ m.names)
    (hgroup : ∀ s ∈ sections,
      s.Bears m.table (fun v g => section? settings (group standard) v = .ok g) group)
    (hsettings : ∀ s ∈ settings, s.Bears m.name m.Means view)
    (hread : ofMembers document = .ok file) : m.Stands document (m.value file) := by
  have htop := applyMembers_bears hgroup htable hread
  simp only [Member.Stands, Member.said?, hvalue, Function.comp_apply]
  cases hsection : lastOf? m.table document with
  | none =>
      rw [hsection] at htop
      exact congrArg view htop
  | some v =>
      rw [hsection] at htop
      rw [Option.bind_some, hnames]
      exact section?_bears hsettings (hnames ▸ hname) htop

theorem host_stands (hread : ofMembers document = .ok file) :
    Member.host.Stands document file.http.host := by
  refine stands_of_bears Http.host rfl rfl (by decide) (by decide) http_borne ?_ hread
  simp only [httpSettings, List.forall_mem_cons, List.not_mem_nil, false_implies, implies_true,
    and_true]
  exact ⟨bears_own fun _ _ _ h => exists_text_of_address h,
    bears_other (by decide) fun _ _ => rfl⟩

theorem port_stands (hread : ofMembers document = .ok file) :
    Member.port.Stands document file.http.port := by
  refine stands_of_bears Http.port rfl rfl (by decide) (by decide) http_borne ?_ hread
  simp only [httpSettings, List.forall_mem_cons, List.not_mem_nil, false_implies, implies_true,
    and_true]
  refine ⟨bears_other (by decide) fun _ _ => rfl, bears_own fun v n _ h => ?_⟩
  obtain ⟨rfl, hn⟩ := eq_integer_of_decode h
  have hsmall : n < UInt16.size := Nat.lt_of_le_of_lt hn (by decide)
  simp only [Member.port, UInt16.toNat_ofNat_of_lt' hsmall]

theorem enabled_stands (hread : ofMembers document = .ok file) :
    Member.enabled.Stands document file.registration.enabled := by
  refine stands_of_bears Registration.enabled rfl rfl (by decide) (by decide) registration_borne ?_
    hread
  simp only [registrationSettings, List.forall_mem_cons, List.not_mem_nil, false_implies,
    implies_true, and_true]
  refine ⟨bears_own fun _ _ _ h => eq_flag_of_decode h, ?_, ?_, ?_, ?_, ?_, ?_, ?_⟩ <;>
    exact bears_other (by decide) fun _ _ => rfl

theorem sharedSecret_stands (hread : ofMembers document = .ok file) :
    Member.sharedSecret.Stands document file.registration.sharedSecret := by
  refine stands_of_bears Registration.sharedSecret rfl rfl (by decide) (by decide)
    registration_borne ?_ hread
  simp only [registrationSettings, List.forall_mem_cons, List.not_mem_nil, false_implies,
    implies_true, and_true]
  refine ⟨?_, bears_own fun _ s _ h => ⟨s, eq_text_of_decode h, rfl⟩, ?_, ?_, ?_, ?_, ?_, ?_⟩ <;>
    exact bears_other (by decide) fun _ _ => rfl

theorem nonceLifetime_stands (hread : ofMembers document = .ok file) :
    Member.nonceLifetime.Stands document file.registration.nonceLifetime := by
  refine stands_of_bears Registration.nonceLifetime rfl rfl (by decide) (by decide)
    registration_borne ?_ hread
  simp only [registrationSettings, List.forall_mem_cons, List.not_mem_nil, false_implies,
    implies_true, and_true]
  refine ⟨?_, ?_, bears_own fun _ _ _ h => exists_text_of_span h, ?_, ?_, ?_, ?_, ?_⟩ <;>
    exact bears_other (by decide) fun _ _ => rfl

theorem serverName_stands (hread : ofMembers document = .ok file) :
    Member.serverName.Stands document file.registration.serverName := by
  refine stands_of_bears Registration.serverName rfl rfl (by decide) (by decide)
    registration_borne ?_ hread
  simp only [registrationSettings, List.forall_mem_cons, List.not_mem_nil, false_implies,
    implies_true, and_true]
  refine ⟨?_, ?_, ?_, ?_, ?_, ?_, bears_own fun _ _ _ h => eq_text_of_decode h, ?_⟩ <;>
    exact bears_other (by decide) fun _ _ => rfl

end Enrollment.Config
