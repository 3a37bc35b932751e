import Enrollment.Proofs.Json.Reading

/-!
# What an object is read as

A record is read from an object's members one after the other, into a draft. What comes out is told
by the members alone: for each member of the record, the values under its name are none, and it has
the value of an absent one, or a single one, which is read as its kind. Nothing else enters but that
every key spells a name. So the order of the members makes no difference, and neither do members
that the record does not have.
-/

namespace Enrollment.Json

/-- The members of an object as they are written: the keys without their quotes, and the values. -/
abbrev Members := List (Bytes × Bytes)

variable {key rest : Bytes} {name : String}

/-- What was read of a part, as far as it depends on the part alone: nothing, or a value up to the
end of the part. -/
theorem error_or_ok_of_toOption_eq {α : Type} {read : Except Fault (α × Bytes)} {value : Option α}
    (h : read.toOption = value.map (·, rest)) :
    (∃ fault, read = .error fault ∧ value = none) ∨ ∃ a, read = .ok (a, rest) ∧ value = some a := by
  cases read with
  | error fault => exact .inl ⟨fault, rfl, Option.map_eq_none_iff.mp h.symm⟩
  | ok read =>
      obtain ⟨a, hvalue, rfl⟩ := Option.map_eq_some_iff.mp h.symm
      exact .inr ⟨a, rfl, hvalue⟩

/-! ## Names -/

/-- The name that a key spells. -/
def keyName? (key : Bytes) : Option String :=
  match string? (key ++ [byte '"']) with
  | some (name, []) => some name
  | _ => none

theorem keyName?_eq_some_iff : keyName? key = some name ↔ SpellsText key name := by
  constructor
  · intro hname
    unfold keyName? at hname
    split at hname
    next name' hread =>
      obtain rfl := Option.some.inj hname
      obtain ⟨⟨content, left⟩, hbytes, hdecode⟩ := Option.bind_eq_some_iff.mp hread
      obtain ⟨text, -, hleft⟩ := Option.map_eq_some_iff.mp hdecode
      obtain ⟨rfl, rfl⟩ := Prod.mk.inj hleft
      obtain ⟨raw, spelled, heq, hspells, -⟩ := exists_spells_of_stringBytes? hbytes
      obtain rfl : key = raw := List.append_cancel_right heq
      exact ((string?_eq_some_iff hspells.isStringBody).mp hread).1
    next => cases hname
  · intro hspells
    have hread : string? (key ++ [byte '"']) = some (name, []) :=
      (string?_eq_some_iff hspells.isStringBody).mpr ⟨hspells, rfl⟩
    simp only [keyName?, hread]

/-- The text of a key depends on the key alone. -/
theorem string?_key (hkey : IsStringBody key) (rest : Bytes) :
    string? (key ++ byte '"' :: rest) = (keyName? key).map (·, rest) := by
  refine Option.ext fun (name, rest') => ?_
  rw [string?_eq_some_iff hkey, ← keyName?_eq_some_iff, Option.map_eq_some_iff]
  constructor
  · rintro ⟨hname, rfl⟩
    exact ⟨name, hname, rfl⟩
  · rintro ⟨name, hname, heq⟩
    obtain ⟨rfl, rfl⟩ := Prod.mk.inj heq
    exact ⟨hname, rfl⟩

/-! ## Slots -/

namespace Member

variable (m : Member)

/-- The values under a member's name. -/
def valuesIn (members : Members) : List Bytes :=
  (members.filter fun member => keyName? member.1 = some m.name).map (·.2)

/-- The slot of a member after the values under its name have been read into it. A slot takes one
value. -/
def fill (slot : Option m.kind.Carrier) : List Bytes → Option (Option m.kind.Carrier)
  | [] => some slot
  | [value] => if slot.isSome then none else (m.kind.value? value).map some
  | _ => none

variable {m}

theorem valuesIn_cons (member : Bytes × Bytes) (members : Members) :
    m.valuesIn (member :: members) =
      if keyName? member.1 = some m.name then member.2 :: m.valuesIn members
      else m.valuesIn members := by
  unfold valuesIn
  split_ifs with hkey <;> simp [hkey]

theorem valuesIn_singleton (member : Bytes × Bytes) :
    m.valuesIn [member] = if keyName? member.1 = some m.name then [member.2] else [] :=
  valuesIn_cons member []

theorem fill_cons (slot : Option m.kind.Carrier) (value : Bytes) (values : List Bytes) :
    m.fill slot (value :: values) = (m.fill slot [value]).bind (m.fill · values) := by
  match values with
  | [] => exact (Option.bind_fun_some _).symm
  | next :: values =>
      -- A slot that has taken a value takes no other.
      have htaken (x : m.kind.Carrier) : m.fill (some x) (next :: values) = none := by
        cases values <;> rfl
      have hfilled : ((m.kind.value? value).map some).bind (m.fill · (next :: values)) = none := by
        cases m.kind.value? value with
        | none => rfl
        | some x => exact htaken x
      rw [fill, fill]
      · split
        · rfl
        · exact hfilled.symm
      all_goals simp

end Member

namespace Draft

/-- The draft after members have been read into it; every key spells a name. -/
def fill : (ms : List Member) → Draft ms → Members → Option (Draft ms)
  | [], _, members =>
      bif members.all fun member => (keyName? member.1).isSome then some () else none
  | m :: ms, (slot, slots), members => do
      let slot ← m.fill slot (m.valuesIn members)
      let slots ← fill ms slots members
      some (slot, slots)

variable {ms : List Member}

theorem fill_nil (draft : Draft ms) : fill ms draft [] = some draft := by
  induction ms with
  | nil => rfl
  | cons m ms ih =>
      obtain ⟨slot, slots⟩ := draft
      simp only [fill, ih]
      rfl

theorem fill_cons (draft : Draft ms) (member : Bytes × Bytes) (members : Members) :
    fill ms draft (member :: members) =
      (fill ms draft [member]).bind (fill ms · members) := by
  induction ms with
  | nil =>
      simp only [fill, List.all_cons, List.all_nil, Bool.and_true]
      cases (keyName? member.1).isSome <;> rfl
  | cons m ms ih =>
      obtain ⟨slot, slots⟩ := draft
      -- The slot and the slots that follow are filled apart from one another.
      have hslot : m.fill slot (m.valuesIn (member :: members)) =
          (m.fill slot (m.valuesIn [member])).bind (m.fill · (m.valuesIn members)) := by
        rw [Member.valuesIn_singleton, Member.valuesIn_cons]
        split_ifs with hkey
        · exact Member.fill_cons slot member.2 _
        · rfl
      simp only [fill, hslot, ih]
      cases m.fill slot (m.valuesIn [member]) with
      | none => rfl
      | some slot =>
          cases fill ms slots [member] with
          | none => cases hlate : m.fill slot (m.valuesIn members) <;> simp [hlate]
          | some slots => rfl

/-- A key that spells no name is read into no draft. -/
theorem fill_of_unnamed {member : Bytes × Bytes} (hkey : keyName? member.1 = none)
    (draft : Draft ms) : fill ms draft [member] = none := by
  induction ms with
  | nil => simp [fill, hkey]
  | cons m ms ih =>
      obtain ⟨slot, slots⟩ := draft
      simp only [fill, ih]
      cases m.fill slot (m.valuesIn [member]) <;> rfl

/-- A member that no member of the record has the name of makes no difference. -/
theorem fill_of_unknown {member : Bytes × Bytes} (hkey : keyName? member.1 = some name)
    (hunknown : ∀ m ∈ ms, m.name ≠ name) (draft : Draft ms) :
    fill ms draft [member] = some draft := by
  induction ms with
  | nil => simp [fill, hkey]
  | cons m ms ih =>
      obtain ⟨slot, slots⟩ := draft
      have hne : ¬ some name = some m.name :=
        fun heq => hunknown m List.mem_cons_self (Option.some.inj heq).symm
      have htail := ih (fun m' hm' => hunknown m' (List.mem_cons_of_mem m hm')) slots
      simp only [fill, Member.valuesIn_singleton, hkey, if_neg hne, Member.fill, htail]
      rfl

/-- A member whose key spells a name is read into the draft, up to the end of its value. -/
theorem toOption_readMember (hnames : (ms.map (·.name)).Nodup) {e : Entry}
    (hvalue : IsValue e.item.value) (hname : keyName? e.key = some name) (hrest : EndsValue rest)
    (draft : Draft ms) :
    (readMember ms draft name
        (e.afterKey.bytes ++ byte ':' :: (e.item.bytes ++ rest))).toOption =
      (fill ms draft [e.member]).map (·, e.item.after.bytes ++ rest) := by
  have hcolon : afterColon (e.afterKey.bytes ++ byte ':' :: (e.item.bytes ++ rest)) =
      .ok (e.item.before.bytes ++ (e.item.value ++ (e.item.after.bytes ++ rest))) := by
    have hblank : isBlank (byte ':') = false := by decide
    simp only [afterColon, skipBlanks_append_cons e.afterKey hblank, after?_self, orMalformed,
      Item.bytes, List.append_assoc]
  have hends := hrest.append e.item.after
  induction ms with
  | nil =>
      have hskip := skipValue?_append hvalue e.item.before hends
      simp only [readMember, hcolon, bind, Except.bind, hskip]
      simp [fill, hname, orMalformed, Except.toOption]
  | cons m ms ih =>
      obtain ⟨slot, slots⟩ := draft
      obtain ⟨hhead, htail⟩ := List.nodup_cons.mp hnames
      simp only [readMember, fill, Member.valuesIn_singleton, Entry.member_fst, Entry.member_snd,
        hname, Option.some.injEq]
      split_ifs with heq
      -- The member has this name, and no other one has; or it is to be found among the others.
      · subst heq
        have hothers : fill ms slots [e.member] = some slots :=
          fill_of_unknown (e.member_fst ▸ hname)
            (fun m' hm' heq => hhead (List.mem_map.mpr ⟨m', hm', heq⟩)) slots
        cases slot with
        | some x => rfl
        | none =>
            simp only [hcolon, bind, Except.bind, hothers, Member.fill]
            obtain ⟨fault, hread, hnone⟩ | ⟨x, hread, hx⟩ := error_or_ok_of_toOption_eq
              (m.kind.toOption_read hvalue e.item.before hends)
            · rw [hread, hnone]
              rfl
            · rw [hread, hx]
              rfl
      · obtain ⟨fault, hread, hnone⟩ | ⟨slots', hread, hslots'⟩ :=
          error_or_ok_of_toOption_eq (ih htail slots)
        · rw [hread, hnone]
          rfl
        · rw [hread, hslots']
          rfl

/-- A member is read into the draft, and then what follows its value says how to go on. -/
theorem toOption_readMembers_entry (hnames : (ms.map (·.name)).Nodup) {e : Entry}
    (hvalue : IsValue e.item.value) (hrest : EndsValue rest) {fuel : Nat}
    (next : Draft ms → Except Fault (Draft ms × Bytes))
    (hnext : ∀ draft,
      (match after? '}' (skipBlanks (e.item.after.bytes ++ rest)),
          after? ',' (skipBlanks (e.item.after.bytes ++ rest)) with
        | some s, _ => .ok (draft, s)
        | none, some s => readMembers fuel ms draft s
        | none, none => .error .malformed) = next draft)
    (blanks : Blanks) (draft : Draft ms) :
    (readMembers (fuel + 1) ms draft (blanks.bytes ++ (e.bytes ++ rest))).toOption =
      (fill ms draft [e.member]).bind fun draft => (next draft).toOption := by
  have hquote : isBlank (byte '"') = false := by decide
  have hstart : after? '"' (skipBlanks (blanks.bytes ++ (e.bytes ++ rest))) =
      some (e.key ++ byte '"' :: (e.afterKey.bytes ++ byte ':' :: (e.item.bytes ++ rest))) := by
    simp only [Entry.bytes, quoted, List.append_assoc, List.cons_append, List.nil_append,
      skipBlanks_append, skipBlanks_cons hquote, after?_self]
  simp only [readMembers, hstart, string?_key e.isStringBody]
  cases hname : keyName? e.key with
  | none =>
      rw [fill_of_unnamed (e.member_fst ▸ hname)]
      rfl
  | some name =>
      obtain ⟨fault, hread, hnone⟩ | ⟨draft', hread, hdraft'⟩ := error_or_ok_of_toOption_eq
        (toOption_readMember hnames hvalue hname hrest draft)
      · simp only [Option.map_some, hread, hnone]
        rfl
      · simp only [Option.map_some, hread, hdraft', Option.bind_some]
        exact congrArg Except.toOption (hnext draft')

/-- Members are read one after the other, to the end of the object. -/
theorem toOption_readMembers (hnames : (ms.map (·.name)).Nodup) {entries : List Entry}
    (hnonempty : entries ≠ []) (hvalues : ∀ e ∈ entries, IsValue e.item.value) {fuel : Nat}
    (hfuel : entries.length ≤ fuel) (blanks : Blanks) (draft : Draft ms) (rest : Bytes) :
    (readMembers fuel ms draft (blanks.bytes ++
        (commaSeparated (entries.map Entry.bytes) ++ byte '}' :: rest))).toOption =
      (fill ms draft (entries.map Entry.member)).map (·, rest) := by
  induction entries generalizing fuel blanks draft with
  | nil => exact absurd rfl hnonempty
  | cons e entries ih =>
      obtain ⟨fuel, rfl⟩ := Nat.exists_eq_add_of_lt hfuel
      have hvalue := hvalues e List.mem_cons_self
      have hbrace : isBlank (byte '}') = false := by decide
      have hcomma : isBlank (byte ',') = false := by decide
      rw [List.map_cons, List.map_cons, fill_cons]
      -- After the last member the object ends, and after any other a comma stands.
      cases entries with
      | nil =>
          have hends : EndsValue (byte '}' :: rest) := endsValue_cons (.inr (.inr rfl)) rest
          rw [List.map_nil, List.map_nil, commaSeparated, List.flatMap_nil, List.append_nil,
            toOption_readMembers_entry hnames hvalue hends (fun draft => .ok (draft, rest))
              (fun draft => by rw [skipBlanks_append_cons e.item.after hbrace, after?_self])]
          simp only [fill_nil, Option.bind_fun_some]
          cases fill ms draft [e.member] <;> rfl
      | cons next entries =>
          have hother (s : Bytes) : after? '}' (byte ',' :: s) = none := rfl
          have hlater (draft : Draft ms) := ih (List.cons_ne_nil _ _)
            (fun e he => hvalues e (List.mem_cons_of_mem _ he)) (Nat.le_add_right _ fuel) .none
            draft
          simp only [Blanks.none, List.nil_append] at hlater
          rw [List.map_cons, commaSeparated_cons_cons, List.append_assoc, List.cons_append,
            ← List.map_cons, toOption_readMembers_entry hnames hvalue (endsValue_cons (.inl rfl) _)
              (fun draft => readMembers ((next :: entries).length + fuel) ms draft _)
              (fun draft => by
                rw [skipBlanks_append_cons e.item.after hcomma, hother, after?_self])]
          simp only [hlater, Option.map_bind]
          rfl

end Draft

/-! ## Rows -/

/-- What a member is read as from the values under its name. -/
def Member.pick (m : Member) : List Bytes → Option m.kind.Carrier
  | [] => m.absent
  | [value] => m.kind.value? value
  | _ => none

theorem Member.fill_none_bind_or (m : Member) (values : List Bytes) :
    (m.fill none values).bind (·.or m.absent) = m.pick values := by
  match values with
  | [] => rfl
  | [value] =>
      simp only [fill, pick, Option.isSome_none, Bool.false_eq_true, if_false]
      cases m.kind.value? value <;> rfl
  | _ :: _ :: _ => rfl

/-- The row that an object's members are read as. -/
def Row.ofMembers? : (ms : List Member) → Members → Option (Row ms)
  | [], members => bif members.all fun member => (keyName? member.1).isSome then some () else none
  | m :: ms, members => do
      let value ← m.pick (m.valuesIn members)
      let values ← ofMembers? ms members
      some (value, values)

theorem Draft.toOption_finish (ms : List Member) (members : Members) :
    (fill ms (empty ms) members).bind (fun draft => (finish ms draft).toOption) =
      Row.ofMembers? ms members := by
  induction ms with
  | nil => simp only [fill, Row.ofMembers?]; cases (members.all _) <;> rfl
  | cons m ms ih =>
      simp only [Row.ofMembers?, ← ih, ← m.fill_none_bind_or, fill, empty]
      cases m.fill none (m.valuesIn members) with
      | none => rfl
      | some slot =>
          cases fill ms (empty ms) members with
          | none => cases hvalue : slot.or m.absent <;> simp [hvalue]
          | some slots =>
              cases hvalue : slot.or m.absent with
              | none => simp [finish, hvalue, Except.toOption]
              | some value =>
                  simp only [bind, Option.bind_some, finish, hvalue]
                  cases finish ms slots <;> rfl

namespace Row

variable {ms : List Member}

/-- An object is not longer than its bytes. -/
theorem length_le_commaSeparated (entries : List Entry) :
    entries.length ≤ (commaSeparated (entries.map Entry.bytes)).length := by
  induction entries with
  | nil => exact Nat.le_refl 0
  | cons e entries ih =>
      cases entries with
      | nil =>
          simp only [List.map_cons, List.map_nil, commaSeparated, Entry.bytes, quoted,
            List.length_append, List.length_cons]
          omega
      | cons next entries =>
          simp only [List.map_cons, commaSeparated_cons_cons, List.length_append,
            List.length_cons] at ih ⊢
          omega

theorem toOption_readObject (hnames : (ms.map (·.name)).Nodup) (within : Blanks)
    {entries : List Entry} (hvalues : ∀ e ∈ entries, IsValue e.item.value) (rest : Bytes) :
    (readObject ms (within.bytes ++
        (commaSeparated (entries.map Entry.bytes) ++ byte '}' :: rest))).toOption =
      (ofMembers? ms (entries.map Entry.member)).map (·, rest) := by
  have hbrace : isBlank (byte '}') = false := by decide
  have hquote : isBlank (byte '"') = false := by decide
  have hfinish := Draft.toOption_finish ms (entries.map Entry.member)
  cases entries with
  | nil =>
      rw [List.map_nil, Draft.fill_nil, Option.bind_some] at hfinish
      have hend : after? '}' (skipBlanks (within.bytes ++ byte '}' :: rest)) = some rest := by
        rw [skipBlanks_append_cons within hbrace, after?_self]
      rw [List.map_nil, List.map_nil, ← hfinish]
      simp only [commaSeparated, List.nil_append, readObject, hend, bind, Except.bind]
      cases Draft.finish ms (Draft.empty ms) <;> rfl
  | cons e entries =>
      have hopen : after? '}' (skipBlanks (within.bytes ++
          (commaSeparated ((e :: entries).map Entry.bytes) ++ byte '}' :: rest))) = none := by
        simp only [List.map_cons, commaSeparated, Entry.bytes, quoted, List.append_assoc,
          List.cons_append, skipBlanks_append, skipBlanks_cons hquote]
        rfl
      have hfuel : (e :: entries).length ≤ (within.bytes ++
          (commaSeparated ((e :: entries).map Entry.bytes) ++ byte '}' :: rest)).length := by
        have hlength := length_le_commaSeparated (e :: entries)
        simp only [List.length_append] at hlength ⊢
        omega
      simp only [readObject, hopen, ← hfinish]
      obtain ⟨fault, hread, hnone⟩ | ⟨draft, hread, hdraft⟩ := error_or_ok_of_toOption_eq
        (Draft.toOption_readMembers hnames (List.cons_ne_nil e entries) hvalues hfuel within
          (Draft.empty ms) rest)
      · rw [hread, hnone]
        rfl
      · rw [hread, hdraft]
        simp only [bind, Except.bind, Option.bind_some]
        cases Draft.finish ms draft <;> rfl

end Row

/-- What an object is read as depends on its members alone. -/
theorem Format.toOption_parse {ρ : Type} (format : Format ρ)
    (hnames : (format.fields.map (·.name)).Nodup) (o : ObjectText) :
    (format.parse o.bytes).toOption =
      (Row.ofMembers? format.fields o.members).map format.ofRow := by
  have hbrace : isBlank (byte '{') = false := by decide
  have hafter : (skipBlanks o.after.bytes).isEmpty = true := by
    have hskip := skipBlanks_append o.after []
    rw [List.append_nil] at hskip
    rw [hskip]
    rfl
  simp only [parse, read, Row.read, ObjectText.bytes, objectBytes, List.cons_append,
    List.append_assoc, List.nil_append, skipBlanks_append_cons o.before hbrace, after?_self]
  obtain ⟨fault, hread, hnone⟩ | ⟨row, hread, hrow⟩ := error_or_ok_of_toOption_eq
    (Row.toOption_readObject hnames o.within o.isValue o.after.bytes)
  · rw [hread, ObjectText.members, hnone]
    rfl
  · rw [hread, ObjectText.members, hrow]
    simp only [Except.map, hafter, if_true]
    rfl

end Enrollment.Json
