import Enrollment.Config.Environment
import Enrollment.Proofs.Config.Members
import Enrollment.Proofs.Text.Decimal
import Mathlib.Data.List.Nodup

/-!
# The environment over the file over the defaults

Six settings have a variable. A variable that is set prevails over the file, and what the file says
prevails over the default, each setting for itself; no other setting depends on the environment. Two
of the variables are taken as they are. Of the four that are read, the first one in their order that
cannot be read is reported with its value as it was set, whatever the settings are worth otherwise.
-/

namespace Enrollment.Config

variable {α β : Type}

/-! ## What a variable means -/

/-- The words for a truth value. -/
def flagWords : Bool → List String
  | true => ["1", "true", "yes", "on"]
  | false => ["0", "false", "no", "off"]

/-- A word for a truth value in any case of its letters. -/
def SpellsFlag (text : List Char) (b : Bool) : Prop :=
  ∃ word ∈ flagWords b, text.map Char.toLower = word.toList

/-- A numeral of a number that fits. -/
def SpellsPort (text : List Char) (n : UInt16) : Prop :=
  Decimal.Spells text n.toNat

/-- A numeral of a number of seconds that fits. -/
def SpellsSeconds (text : List Char) (span : Span) : Prop :=
  ∃ seconds : UInt64, Decimal.Spells text seconds.toNat ∧ span = .ofSeconds seconds

/-- An address in one of its written forms. -/
def SpellsAddress (text : List Char) (a : Address) : Prop :=
  Address.parse? text = some a

/-- The variables that are read, in the order in which they are. -/
def readVariables : List Variable :=
  [.httpHost, .httpPort, .nonceLifetime, .registrationEnabled]

/-- A text can be read as the value of a variable. -/
def Variable.Reads (v : Variable) (text : List Char) : Prop :=
  match v with
  | .httpHost => ∃ a, SpellsAddress text a
  | .httpPort => ∃ n, SpellsPort text n
  | .nonceLifetime => ∃ span, SpellsSeconds text span
  | .registrationEnabled => ∃ b, SpellsFlag text b
  | _ => True

/-- A variable can be read, without the white space around its value, or is not set. -/
def IsReadable (env : Environment) (v : Variable) : Prop :=
  ∀ value, env v.name = some value → v.Reads (Unicode.trim value.toList)

/-- Of some variables, the first that cannot be read, and its value. -/
def IsFirstFault (env : Environment) (vs : List Variable) (v : Variable) (value : String) : Prop :=
  ∃ before after, vs = before ++ v :: after ∧ (∀ u ∈ before, IsReadable env u) ∧
    env v.name = some value ∧ ¬ v.Reads (Unicode.trim value.toList)

/-- A setting as its variable says without the white space around, or else as the file says, or its
default. -/
def Prevails (env : Environment) (document : List (String × Toml.Value)) (v : Variable)
    (spells : List Char → α → Prop) (m : Member α) : α → Prop :=
  AsSaid (fun value => spells (Unicode.trim value.toList)) (env v.name) (m.Stands document)

/-- Settings as the environment, a file that has been read, and the defaults have them. -/
structure IsOverlaid (env : Environment) (document : List (String × Toml.Value)) (file c : Config) :
    Prop where
  host : Prevails env document .httpHost SpellsAddress .host c.http.host
  port : Prevails env document .httpPort SpellsPort .port c.http.port
  nonceLifetime : Prevails env document .nonceLifetime SpellsSeconds .nonceLifetime
    c.registration.nonceLifetime
  enabled : Prevails env document .registrationEnabled SpellsFlag .enabled c.registration.enabled
  sharedSecret : AsSaid (fun value secret => secret = some value) (env Variable.sharedSecret.name)
    (Member.sharedSecret.Stands document) c.registration.sharedSecret
  serverName : AsSaid (fun value name => name = value) (env Variable.serverName.name)
    (Member.serverName.Stands document) c.registration.serverName
  /-- Nothing else differs from the file. -/
  rest : c = { file with
    http := c.http
    registration := { file.registration with
      enabled := c.registration.enabled
      sharedSecret := c.registration.sharedSecret
      nonceLifetime := c.registration.nonceLifetime
      serverName := c.registration.serverName } }

/-! ## Reading -/

theorem not_mem_flagWords {word : String} (hword : word ∈ flagWords false) :
    word ∉ flagWords true := by
  revert word
  decide

theorem mem_flagWords_iff {text : List Char} {b : Bool} :
    String.ofList (text.map Char.toLower) ∈ flagWords b ↔ SpellsFlag text b := by
  constructor
  · exact fun hmem => ⟨_, hmem, String.toList_ofList.symm⟩
  · rintro ⟨word, hword, htext⟩
    rwa [htext, String.ofList_toList]

theorem readFlag?_eq_some_iff {text : List Char} {b : Bool} :
    readFlag? text = some b ↔ SpellsFlag text b := by
  rw [← mem_flagWords_iff, readFlag?]
  split
  next htrue =>
    have htrue := List.contains_iff_mem.mp htrue
    cases b with
    | true => exact iff_of_true rfl htrue
    | false => exact iff_of_false nofun fun hfalse => not_mem_flagWords hfalse htrue
  next htrue =>
    rw [List.contains_iff_mem] at htrue
    cases b with
    | true => exact iff_of_false (by split <;> nofun) htrue
    | false => simp only [List.contains_iff_mem, Option.ite_none_right_eq_some, and_true, flagWords]

/-- A numeral as the port that it names. -/
def readPort? (text : List Char) : Option UInt16 :=
  (Decimal.read? max16 text).map UInt16.ofNat

/-- A numeral as so many seconds. -/
def readSeconds? (text : List Char) : Option Span :=
  (Decimal.read? max64 text).map fun n => .ofSeconds (UInt64.ofNat n)

theorem readPort?_eq_some_iff {text : List Char} {n : UInt16} :
    readPort? text = some n ↔ SpellsPort text n := by
  simp only [readPort?, Option.map_eq_some_iff, Decimal.read?_eq_some_iff, SpellsPort]
  constructor
  · rintro ⟨m, ⟨hspells, hm⟩, rfl⟩
    rwa [UInt16.toNat_ofNat_of_lt' (Nat.lt_of_le_of_lt hm (by decide))]
  · intro hspells
    exact ⟨n.toNat, ⟨hspells, Nat.le_sub_one_of_lt n.toNat_lt_size⟩, UInt16.ofNat_toNat⟩

theorem readSeconds?_eq_some_iff {text : List Char} {span : Span} :
    readSeconds? text = some span ↔ SpellsSeconds text span := by
  simp only [readSeconds?, Option.map_eq_some_iff, Decimal.read?_eq_some_iff, SpellsSeconds]
  constructor
  · rintro ⟨m, ⟨hspells, hm⟩, rfl⟩
    refine ⟨UInt64.ofNat m, ?_, rfl⟩
    rwa [UInt64.toNat_ofNat_of_lt' (Nat.lt_of_le_of_lt hm (by decide))]
  · rintro ⟨seconds, hspells, rfl⟩
    exact ⟨seconds.toNat, ⟨hspells, Nat.le_sub_one_of_lt seconds.toNat_lt_size⟩,
      by rw [UInt64.ofNat_toNat]⟩

/-- A variable is read as the values that its text spells. -/
structure Variable.IsReadBy (v : Variable) (read? : List Char → Option α)
    (spells : List Char → α → Prop) : Prop where
  read?_eq_some_iff : ∀ {text a}, read? text = some a ↔ spells text a
  reads_iff : ∀ {text}, v.Reads text ↔ ∃ a, spells text a

theorem httpHost_isReadBy : Variable.httpHost.IsReadBy Address.parse? SpellsAddress :=
  ⟨Iff.rfl, Iff.rfl⟩

theorem httpPort_isReadBy : Variable.httpPort.IsReadBy readPort? SpellsPort :=
  ⟨readPort?_eq_some_iff, Iff.rfl⟩

theorem nonceLifetime_isReadBy : Variable.nonceLifetime.IsReadBy readSeconds? SpellsSeconds :=
  ⟨readSeconds?_eq_some_iff, Iff.rfl⟩

theorem registrationEnabled_isReadBy :
    Variable.registrationEnabled.IsReadBy readFlag? SpellsFlag :=
  ⟨readFlag?_eq_some_iff, Iff.rfl⟩

/-! ## The first fault -/

section Faults

variable {env : Environment} {vs : List Variable} {u v : Variable} {value : String}

theorem isFirstFault_cons : IsFirstFault env (u :: vs) v value ↔
    (u = v ∧ env v.name = some value ∧ ¬ v.Reads (Unicode.trim value.toList)) ∨
      (IsReadable env u ∧ IsFirstFault env vs v value) := by
  constructor
  · rintro ⟨before, after, hsplit, hbefore, hfault⟩
    cases before with
    | nil => exact Or.inl ⟨(List.cons.inj hsplit).1, hfault⟩
    | cons w before =>
        obtain ⟨rfl, rfl⟩ := List.cons.inj hsplit
        obtain ⟨hw, hbefore⟩ := List.forall_mem_cons.mp hbefore
        exact Or.inr ⟨hw, before, after, rfl, hbefore, hfault⟩
  · rintro (⟨rfl, hfault⟩ | ⟨hu, before, after, rfl, hbefore, hfault⟩)
    · exact ⟨[], vs, rfl, nofun, hfault⟩
    · exact ⟨u :: before, after, rfl, List.forall_mem_cons.mpr ⟨hu, hbefore⟩, hfault⟩

theorem not_isFirstFault_nil : ¬ IsFirstFault env [] v value := by
  rintro ⟨before, after, hsplit, -⟩
  simp at hsplit

/-- Either all variables can be read or there is a first that cannot. -/
theorem forall_isReadable_or_exists (env : Environment) (vs : List Variable) :
    (∀ v ∈ vs, IsReadable env v) ∨ ∃ v value, IsFirstFault env vs v value := by
  induction vs with
  | nil => exact Or.inl nofun
  | cons u vs ih =>
      by_cases hu : IsReadable env u
      · rcases ih with hall | ⟨v, value, hfirst⟩
        · exact Or.inl (List.forall_mem_cons.mpr ⟨hu, hall⟩)
        · exact Or.inr ⟨v, value, isFirstFault_cons.mpr (Or.inr ⟨hu, hfirst⟩)⟩
      · simp only [IsReadable, Classical.not_forall] at hu
        obtain ⟨value, hset, hfault⟩ := hu
        exact Or.inr ⟨u, value, isFirstFault_cons.mpr (Or.inl ⟨rfl, hset, hfault⟩)⟩

end Faults

/-! ## Overriding -/

section Overriding

variable {env : Environment} {c : Config} {v : Variable} {read? : List Char → Option α}

/-- What a setting is with its variable, which is read, over what it is without. -/
def overridden (env : Environment) (v : Variable) (read? : List Char → Option α) (current : α) :
    Except Error α :=
  match env v.name with
  | some value => readVariable v read? value
  | none => .ok current

theorem readVariable_eq_ok_iff {value : String} {a : α} :
    readVariable v read? value = .ok a ↔ read? (Unicode.trim value.toList) = some a := by
  unfold readVariable
  cases read? (Unicode.trim value.toList) <;> simp

variable {spells : List Char → α → Prop}

/-- A setting is overridden with what its variable spells. -/
theorem asSaid_of_overridden (hv : v.IsReadBy read? spells) {current a : α}
    (h : overridden env v read? current = .ok a) :
    AsSaid (fun value => spells (Unicode.trim value.toList)) (env v.name) (· = current) a := by
  unfold overridden at h
  unfold AsSaid
  cases hset : env v.name with
  | none =>
      rw [hset] at h
      exact (Except.ok.inj h).symm
  | some value =>
      rw [hset] at h
      exact hv.read?_eq_some_iff.mp (readVariable_eq_ok_iff.mp h)

theorem exists_overridden (hv : v.IsReadBy read? spells) (hreadable : IsReadable env v)
    (current : α) : ∃ a, overridden env v read? current = .ok a := by
  unfold overridden
  cases hset : env v.name with
  | none => exact ⟨current, rfl⟩
  | some value =>
      obtain ⟨a, ha⟩ := hv.reads_iff.mp (hreadable value hset)
      exact ⟨a, readVariable_eq_ok_iff.mpr (hv.read?_eq_some_iff.mpr ha)⟩

/-- What cannot be read is reported as it was set, with the white space around it. -/
theorem overridden_eq_error (hv : v.IsReadBy read? spells) {value : String}
    (hset : env v.name = some value) (hfault : ¬ v.Reads (Unicode.trim value.toList))
    (current : α) : overridden env v read? current = .error (.variable v.name value) := by
  have hnone : read? (Unicode.trim value.toList) = none :=
    Option.eq_none_iff_forall_ne_some.mpr fun a ha =>
      hfault (hv.reads_iff.mpr ⟨a, hv.read?_eq_some_iff.mp ha⟩)
  simp only [overridden, hset, readVariable, hnone]

theorem asSaid_getD (take : String → α) (current : α) (value? : Option String) :
    AsSaid (fun value a => a = take value) value? (· = current)
      ((value?.map take).getD current) := by
  cases value? <;> rfl

/-- A variable that is taken as it is changes its setting. -/
theorem override_taken {take : String → α} (put : α → Config) {current : α}
    (hput : put current = c) (rest : Config → Except Error β) :
    override env v c (fun value => .ok (put (take value))) >>= rest =
      rest (put (((env v.name).map take).getD current)) := by
  unfold override
  cases env v.name with
  | none => exact congrArg rest hput.symm
  | some value => rfl

/-- A variable that is read changes its setting to what is made of what is read. -/
theorem override_read {γ : Type} {raw? : List Char → Option β} {make : β → α}
    (hread : ∀ text, (raw? text).map make = read? text) (put : α → Config) {current : α}
    (hput : put current = c) (rest : Config → Except Error γ) :
    override env v c (fun value => readVariable v raw? value >>= fun b => .ok (put (make b))) >>=
      rest =
    overridden env v read? current >>= fun a => rest (put a) := by
  unfold override overridden readVariable
  cases env v.name with
  | none => exact congrArg rest hput.symm
  | some value =>
      simp only [← hread]
      cases raw? (Unicode.trim value.toList) <;> rfl

end Overriding

/-- Settings in which the six that have variables are replaced. -/
def replaced (c : Config) (sharedSecret : Option String) (host : Address) (port : UInt16)
    (nonceLifetime : Span) (serverName : String) (enabled : Bool) : Config :=
  { c with
    http := { host, port }
    registration := { c.registration with enabled, sharedSecret, nonceLifetime, serverName } }

/-- Overriding reads four variables, one after another, and takes two as they are. -/
theorem withEnvironment_eq (c : Config) (env : Environment) :
    c.withEnvironment env = (do
      let host ← overridden env .httpHost Address.parse? c.http.host
      let port ← overridden env .httpPort readPort? c.http.port
      let lifetime ← overridden env .nonceLifetime readSeconds? c.registration.nonceLifetime
      let enabled ← overridden env .registrationEnabled readFlag? c.registration.enabled
      .ok (c.replaced (((env Variable.sharedSecret.name).map some).getD c.registration.sharedSecret)
        host port lifetime (((env Variable.serverName.name).map id).getD c.registration.serverName)
        enabled)) := by
  -- Each step replaces one setting in what the steps before it have come to.
  let lifetime := c.registration.nonceLifetime
  let name := c.registration.serverName
  let enabled := c.registration.enabled
  refine (override_taken
    (fun secret => c.replaced secret c.http.host c.http.port lifetime name enabled) rfl _).trans ?_
  refine (override_read (fun _ => Option.map_id_apply)
    (fun host => c.replaced _ host c.http.port lifetime name enabled) rfl _).trans
    (bind_congr fun host => ?_)
  refine (override_read (fun _ => rfl)
    (fun port => c.replaced _ host port lifetime name enabled) rfl _).trans
    (bind_congr fun port => ?_)
  refine (override_read (fun _ => rfl)
    (fun lifetime => c.replaced _ host port lifetime name enabled) rfl _).trans
    (bind_congr fun lifetime => ?_)
  refine (override_taken (fun name => c.replaced _ host port lifetime name enabled)
    rfl _).trans ?_
  refine (bind_pure _).symm.trans (override_read (fun _ => Option.map_id_apply)
    (fun enabled => c.replaced _ host port lifetime _ enabled) rfl _)

/-! ## Settings with an environment -/

section Environment

variable {env : Environment} {file c : Config}

theorem withEnvironment_eq_ok_iff : file.withEnvironment env = .ok c ↔
    ∃ host port lifetime enabled,
      overridden env .httpHost Address.parse? file.http.host = .ok host ∧
      overridden env .httpPort readPort? file.http.port = .ok port ∧
      overridden env .nonceLifetime readSeconds? file.registration.nonceLifetime = .ok lifetime ∧
      overridden env .registrationEnabled readFlag? file.registration.enabled = .ok enabled ∧
      file.replaced
        (((env Variable.sharedSecret.name).map some).getD file.registration.sharedSecret) host port
        lifetime (((env Variable.serverName.name).map id).getD file.registration.serverName)
        enabled = c := by
  simp only [withEnvironment_eq, bind_eq_ok_iff, Except.ok.injEq]
  constructor
  · rintro ⟨host, hhost, port, hport, lifetime, hlifetime, enabled, henabled, hc⟩
    exact ⟨host, port, lifetime, enabled, hhost, hport, hlifetime, henabled, hc⟩
  · rintro ⟨host, port, lifetime, enabled, hhost, hport, hlifetime, henabled, hc⟩
    exact ⟨host, hhost, port, hport, lifetime, hlifetime, enabled, henabled, hc⟩

/-- If the variables that are read can be read, the environment overrides the settings. -/
theorem exists_withEnvironment (file : Config) (hall : ∀ v ∈ readVariables, IsReadable env v) :
    ∃ c, file.withEnvironment env = .ok c := by
  simp only [readVariables, List.forall_mem_cons, List.not_mem_nil, false_implies, implies_true,
    and_true] at hall
  obtain ⟨hhost, hport, hlifetime, henabled⟩ := hall
  obtain ⟨host, hhost⟩ := exists_overridden httpHost_isReadBy hhost file.http.host
  obtain ⟨port, hport⟩ := exists_overridden httpPort_isReadBy hport file.http.port
  obtain ⟨lifetime, hlifetime⟩ := exists_overridden nonceLifetime_isReadBy hlifetime
    file.registration.nonceLifetime
  obtain ⟨enabled, henabled⟩ := exists_overridden registrationEnabled_isReadBy henabled
    file.registration.enabled
  exact ⟨_, withEnvironment_eq_ok_iff.mpr
    ⟨host, port, lifetime, enabled, hhost, hport, hlifetime, henabled, rfl⟩⟩

/-- The first that cannot be read is what overriding fails with. -/
theorem withEnvironment_eq_error (file : Config) {v : Variable} {value : String}
    (hfirst : IsFirstFault env readVariables v value) :
    file.withEnvironment env = .error (.variable v.name value) := by
  simp only [readVariables, isFirstFault_cons, not_isFirstFault_nil, and_false, or_false] at hfirst
  rw [withEnvironment_eq]
  rcases hfirst with ⟨rfl, hset, hfault⟩ | ⟨hhost, hfirst⟩
  · rw [overridden_eq_error httpHost_isReadBy hset hfault]
    rfl
  obtain ⟨host, hhost⟩ := exists_overridden httpHost_isReadBy hhost file.http.host
  rcases hfirst with ⟨rfl, hset, hfault⟩ | ⟨hport, hfirst⟩
  · rw [hhost, overridden_eq_error httpPort_isReadBy hset hfault]
    rfl
  obtain ⟨port, hport⟩ := exists_overridden httpPort_isReadBy hport file.http.port
  rcases hfirst with ⟨rfl, hset, hfault⟩ | ⟨hlifetime, rfl, hset, hfault⟩
  · rw [hhost, hport, overridden_eq_error nonceLifetime_isReadBy hset hfault]
    rfl
  obtain ⟨lifetime, hlifetime⟩ := exists_overridden nonceLifetime_isReadBy hlifetime
    file.registration.nonceLifetime
  rw [hhost, hport, hlifetime, overridden_eq_error registrationEnabled_isReadBy hset hfault]
  rfl

theorem exists_withEnvironment_iff : (∃ c, file.withEnvironment env = .ok c) ↔
    ∀ v ∈ readVariables, IsReadable env v := by
  refine ⟨fun ⟨c, hc⟩ => ?_, exists_withEnvironment file⟩
  rcases forall_isReadable_or_exists env readVariables with hall | ⟨v, value, hfirst⟩
  · exact hall
  · rw [withEnvironment_eq_error file hfirst] at hc
    cases hc

theorem withEnvironment_eq_error_iff {e : Error} : file.withEnvironment env = .error e ↔
    ∃ v value, e = .variable v.name value ∧ IsFirstFault env readVariables v value := by
  constructor
  · intro he
    rcases forall_isReadable_or_exists env readVariables with hall | ⟨v, value, hfirst⟩
    · obtain ⟨c, hc⟩ := exists_withEnvironment file hall
      rw [hc] at he
      cases he
    · rw [withEnvironment_eq_error file hfirst] at he
      exact ⟨v, value, (Except.error.inj he).symm, hfirst⟩
  · rintro ⟨v, value, rfl, hfirst⟩
    exact withEnvironment_eq_error file hfirst

/-- Over a file that stands for what its document says, the environment prevails. -/
theorem isOverlaid_of_withEnvironment {document : List (String × Toml.Value)}
    (hread : ofMembers document = .ok file) (henv : file.withEnvironment env = .ok c) :
    IsOverlaid env document file c := by
  obtain ⟨host, port, lifetime, enabled, hhost, hport, hlifetime, henabled, rfl⟩ :=
    withEnvironment_eq_ok_iff.mp henv
  exact {
    host := (asSaid_of_overridden httpHost_isReadBy hhost).above (host_stands hread)
    port := (asSaid_of_overridden httpPort_isReadBy hport).above (port_stands hread)
    nonceLifetime :=
      (asSaid_of_overridden nonceLifetime_isReadBy hlifetime).above (nonceLifetime_stands hread)
    enabled :=
      (asSaid_of_overridden registrationEnabled_isReadBy henabled).above (enabled_stands hread)
    sharedSecret := (asSaid_getD some _ _).above (sharedSecret_stands hread)
    serverName := (asSaid_getD id _ _).above (serverName_stands hread)
    rest := rfl }

theorem ofToml_eq_ok_iff {text : String} : ofToml text = .ok c ↔
    ∃ document, Toml.parse? text = some document ∧ ofMembers document = .ok c := by
  unfold ofToml
  cases Toml.parse? text with
  | none => simp [unsuitable]
  | some document => simp

/-- A file that is read is loaded if its settings, as the environment has them, are valid. -/
theorem load_eq_ok_iff {text : String} {loaded : Config} (hread : ofToml text = .ok file)
    (henv : file.withEnvironment env = .ok c) :
    load (.file text) env = .ok loaded ↔ c.validate = .ok () ∧ loaded = c := by
  simp only [load, hread, henv, bind, Except.bind]
  cases c.validate with
  | error e => simp
  | ok _ => simp [eq_comm]

/-- A variable that cannot be read is reported before the settings are checked. -/
theorem load_eq_error {text : String} {e : Error} (hread : ofToml text = .ok file)
    (henv : file.withEnvironment env = .error e) : load (.file text) env = .error e := by
  simp only [load, hread, henv, bind, Except.bind]

/-- The environment prevails over a file, and the file over the defaults, setting by setting. The
settings are had unless a variable cannot be read, of which the first is reported whatever else is
at fault, and they are loaded if they are valid. -/
theorem environment_over_file_over_defaults {text : String} (hread : ofToml text = .ok file)
    (env : Environment) :
    ∃ document, Toml.parse? text = some document ∧
      ((∃ c, file.withEnvironment env = .ok c) ↔ ∀ v ∈ readVariables, IsReadable env v) ∧
      (∀ c, file.withEnvironment env = .ok c → IsOverlaid env document file c ∧
        ∀ loaded, load (.file text) env = .ok loaded ↔ c.validate = .ok () ∧ loaded = c) ∧
      (∀ e, file.withEnvironment env = .error e ↔
        ∃ v value, e = .variable v.name value ∧ IsFirstFault env readVariables v value) ∧
      ∀ e, file.withEnvironment env = .error e → load (.file text) env = .error e := by
  obtain ⟨document, hparse, hmembers⟩ := ofToml_eq_ok_iff.mp hread
  exact ⟨document, hparse, exists_withEnvironment_iff,
    fun c henv => ⟨isOverlaid_of_withEnvironment hmembers henv, fun _ => load_eq_ok_iff hread henv⟩,
    fun _ => withEnvironment_eq_error_iff, fun _ => load_eq_error hread⟩

/-- A port and a flag between blanks prevail over the file, and of two variables that cannot be read
the lifetime is reported. -/
theorem port_over_file :
    let text := "[http]\nport = 9000\n[registration]\nserver_name = \"a.b\"\n"
    let env : Environment := fun name =>
      if name = "BOOTSTRAP_SHARED_SECRET" then some "abc"
      else if name = "BOOTSTRAP_HTTP_PORT" then some " +18008\n"
      else if name = "BOOTSTRAP_REGISTRATION_ENABLED" then some "Yes " else none
    let faulty : Environment := fun name =>
      if name = "BOOTSTRAP_NONCE_TTL_SECS" then some " soon "
      else if name = "BOOTSTRAP_REGISTRATION_ENABLED" then some "perhaps" else none
    let file : Config := { http := { port := 9000 }, registration := { serverName := "a.b" } }
    let c : Config :=
      { http := { port := 18008 }
        registration := { enabled := true, sharedSecret := some "abc", serverName := "a.b" } }
    ofToml text = .ok file ∧ load (.file text) env = .ok c ∧
      (∃ document, Toml.parse? text = some document ∧ IsOverlaid env document file c) ∧
      IsFirstFault faulty readVariables .nonceLifetime " soon " ∧
      load (.file text) faulty = .error (.variable "BOOTSTRAP_NONCE_TTL_SECS" " soon ") := by
  intro text env faulty file c
  have hread : ofToml text = .ok file := by decide +kernel
  have henv : file.withEnvironment env = .ok c := by decide +kernel
  have hfaulty : file.withEnvironment faulty =
      .error (.variable "BOOTSTRAP_NONCE_TTL_SECS" " soon ") := by decide +kernel
  have hvalid : c.validate = .ok () := by decide +kernel
  obtain ⟨document, hparse, -, hoverlaid, -, -⟩ := environment_over_file_over_defaults hread env
  obtain ⟨hoverlaid, hload⟩ := hoverlaid c henv
  obtain ⟨-, -, -, -, hfirst, herror⟩ := environment_over_file_over_defaults hread faulty
  obtain ⟨v, value, he, hfirst⟩ := (hfirst _).mp hfaulty
  -- No other variable has the name.
  have hv : v = .nonceLifetime := by
    cases v <;> first | rfl | exact absurd (Error.variable.inj he).1 (by decide)
  obtain ⟨-, rfl⟩ := Error.variable.inj he
  exact ⟨hread, (hload c).mpr ⟨hvalid, rfl⟩, ⟨document, hparse, hoverlaid⟩, hv ▸ hfirst,
    herror _ hfaulty⟩

end Environment

end Enrollment.Config
