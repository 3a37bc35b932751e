import Enrollment.Json.Record
import Enrollment.Proofs.Json.Number

/-!
# Records of JSON, written and read

A record that was written is read back, whatever stands after its object, if its members have
different names and a member that is left out is one that reads as its value when it is absent. The
reading is followed through the members that are still to come: a draft holds the values of those
that have been read, and each member read moves its own value there and no other.
-/

namespace Enrollment.Json

open Utf8 (bytesOf bytesOf_append bytesOf_cons)

variable {rest : Bytes}

theorem after?_self (c : Char) (s : Bytes) : after? c (byte c :: s) = some s := by
  simp [after?]

/-! ## Values of a kind -/

theorem afterWord?_append (word : String) (rest : Bytes) :
    afterWord? word (bytesOf word.toList ++ rest) = some rest := by
  change (if (bytesOf word.toList).isPrefixOf (bytesOf word.toList ++ rest) = true then
    some ((bytesOf word.toList ++ rest).drop (bytesOf word.toList).length) else none) = some rest
  rw [if_pos (List.isPrefixOf_iff_prefix.mpr (List.prefix_append _ _)), List.drop_left]

theorem readText_quote (s : String) (rest : Bytes) :
    readText (bytesOf (quote s) ++ rest) = .ok (s, rest) := by
  rw [bytesOf_quote, List.cons_append, List.append_assoc, readText, skipBlanks_cons (by decide)]
  change orMalformed (string? (bytesOf (s.toList.flatMap escape) ++ byte '"' :: rest)) = _
  rw [string?_flatMap_escape]
  rfl

theorem readFlag_write (b : Bool) (rest : Bytes) :
    readFlag (bytesOf (Value.flag b).write ++ rest) = .ok (b, rest) := by
  cases b with
  | true =>
      have hskip : skipBlanks (bytesOf "true".toList ++ rest) = bytesOf "true".toList ++ rest := rfl
      simp only [Value.write, readFlag, hskip, afterWord?_append]
  | false =>
      have hskip : skipBlanks (bytesOf "false".toList ++ rest) = bytesOf "false".toList ++ rest :=
        rfl
      have hother : afterWord? "true" (bytesOf "false".toList ++ rest) = none := rfl
      simp only [Value.write, readFlag, hskip, hother, afterWord?_append]

/-- Something is written for a value, and it starts with no blank and not like null. -/
theorem Kind.exists_head_of_write (kind : Kind) {value : kind.Carrier} {w : Value}
    (hwrite : kind.write value = some w) (rest : Bytes) :
    ∃ b s, bytesOf w.write ++ rest = b :: s ∧ isBlank b = false ∧ b ≠ byte 'n' := by
  induction kind with
  | text =>
      obtain rfl : Value.text value = w := Option.some.inj hwrite
      rw [Value.write, bytesOf_quote]
      exact ⟨_, _, rfl, by decide, by decide⟩
  | flag =>
      obtain rfl : Value.flag value = w := Option.some.inj hwrite
      cases value with
      | true => exact ⟨byte 't', _, rfl, by decide, by decide⟩
      | false => exact ⟨byte 'f', _, rfl, by decide, by decide⟩
  | count =>
      obtain rfl : Value.count value.toNat = w := Option.some.inj hwrite
      obtain ⟨b, s, heq, hdigit⟩ := exists_digit_of_write value.toNat rest
      rw [Value.write]
      exact ⟨b, s, heq, isBlank_of_isDigit hdigit, ne_of_isDigit hdigit (by decide)⟩
  | optional kind ih =>
      obtain ⟨value, rfl, hwrite⟩ := Option.bind_eq_some_iff.mp hwrite
      exact ih hwrite

/-- A value that was written is read back. -/
theorem Kind.read_write (kind : Kind) {value : kind.Carrier} {w : Value}
    (hwrite : kind.write value = some w) (hrest : EndsMember rest) :
    kind.read (bytesOf w.write ++ rest) = .ok (value, rest) := by
  induction kind with
  | text =>
      obtain rfl : Value.text value = w := Option.some.inj hwrite
      rw [Value.write]
      exact readText_quote value rest
  | flag =>
      obtain rfl : Value.flag value = w := Option.some.inj hwrite
      exact readFlag_write value rest
  | count =>
      obtain rfl : Value.count value.toNat = w := Option.some.inj hwrite
      rw [Value.write]
      have hcount := readCount_write value.toNat_lt hrest
      rwa [UInt64.ofNat_toNat] at hcount
  | optional kind ih =>
      -- What is written does not start like null, so it is read as a value of the kind within.
      obtain ⟨value, rfl, hwrite⟩ := Option.bind_eq_some_iff.mp hwrite
      obtain ⟨b, s, heq, hblank, hnull⟩ := kind.exists_head_of_write hwrite rest
      have hread := ih hwrite
      rw [heq] at hread ⊢
      have hafter : after? 'n' (b :: s) = none := if_neg hnull
      simp only [Kind.read, skipBlanks_cons hblank, hafter, hread]
      rfl

/-! ## Drafts -/

/-- A member that is left out reads as the value for which nothing is written. -/
def Member.Faithful (m : Member) : Prop :=
  ∀ value, m.kind.write value = none → m.absent = some value

/-- The members of a record have different names and are faithful. -/
structure Readable (ms : List Member) : Prop where
  names_nodup : (ms.map (·.name)).Nodup
  faithful : ∀ m ∈ ms, m.Faithful

namespace Draft

/-- The draft of a row that lacks the members with pending names. -/
def holding : (ms : List Member) → Row ms → (pending : List String) → Draft ms
  | [], _, _ => ()
  | m :: ms, (value, values), pending =>
      (if m.name ∈ pending ∨ m.kind.write value = none then none else some value,
        holding ms values pending)

variable {ms : List Member} {name : String} {w : Value} {pending : List String}

theorem mem_names_of_mem_members {row : Row ms} (hmem : (name, w) ∈ Row.members ms row) :
    name ∈ ms.map (·.name) := by
  induction ms with
  | nil => cases hmem
  | cons m ms ih =>
      obtain ⟨value, values⟩ := row
      rw [Row.members, List.mem_append] at hmem
      rcases hmem with hhead | htail
      · obtain ⟨v, -, hv⟩ := Option.map_eq_some_iff.mp (Option.mem_toList.mp hhead)
        obtain ⟨rfl, rfl⟩ := Prod.mk.inj hv
        exact List.mem_cons_self
      · exact List.mem_cons_of_mem _ (ih htail)

theorem members_names_sublist (row : Row ms) :
    ((Row.members ms row).map (·.1)).Sublist (ms.map (·.name)) := by
  induction ms with
  | nil => exact List.Sublist.refl _
  | cons m ms ih =>
      obtain ⟨value, values⟩ := row
      rw [Row.members, List.map_append]
      cases m.kind.write value with
      | none => exact (ih values).cons _
      | some v => exact (ih values).cons_cons _

/-- A name that no member has makes no difference. -/
theorem holding_cons_of_not_mem (hname : name ∉ ms.map (·.name)) (row : Row ms) :
    holding ms row (name :: pending) = holding ms row pending := by
  induction ms with
  | nil => rfl
  | cons m ms ih =>
      obtain ⟨value, values⟩ := row
      rw [List.map_cons, List.mem_cons, not_or] at hname
      have hne : m.name ≠ name := fun heq => hname.1 heq.symm
      simp only [holding, List.mem_cons, hne, false_or, ih hname.2]

/-- Before anything is read all that is written is pending. -/
theorem holding_eq_empty {row : Row ms}
    (hpending : ∀ name w, (name, w) ∈ Row.members ms row → name ∈ pending) :
    holding ms row pending = empty ms := by
  induction ms with
  | nil => rfl
  | cons m ms ih =>
      obtain ⟨value, values⟩ := row
      have hhead : m.name ∈ pending ∨ m.kind.write value = none := by
        cases hwrite : m.kind.write value with
        | none => exact Or.inr rfl
        | some v =>
            refine Or.inl (hpending m.name v ?_)
            simp [Row.members, hwrite]
      have htail : holding ms values pending = empty ms := ih fun name w hmem =>
        hpending name w (List.mem_append_right _ hmem)
      simp only [holding, if_pos hhead, htail, empty]

/-- When nothing is pending the draft is that of the row. -/
theorem finish_holding (hfaithful : ∀ m ∈ ms, m.Faithful) (row : Row ms) :
    finish ms (holding ms row []) = .ok row := by
  induction ms with
  | nil => rfl
  | cons m ms ih =>
      obtain ⟨value, values⟩ := row
      have htail := ih (fun m' hm' => hfaithful m' (List.mem_cons_of_mem m hm')) values
      have hslot : (if m.kind.write value = none then none else some value).or m.absent =
          some value := by
        split
        next hunwritten => exact hfaithful m List.mem_cons_self value hunwritten
        next => rfl
      simp only [holding, List.not_mem_nil, false_or, finish, hslot, htail]
      rfl

theorem afterColon_colon (s : Bytes) : afterColon (byte ':' :: s) = .ok s := by
  rw [afterColon, skipBlanks_cons (by decide)]
  rfl

/-- A member that was written is read into its own place. -/
theorem readMember_holding (hnames : (ms.map (·.name)).Nodup) {row : Row ms}
    (hmem : (name, w) ∈ Row.members ms row) (hfresh : name ∉ pending) (hrest : EndsMember rest) :
    readMember ms (holding ms row (name :: pending)) name
        (byte ':' :: (bytesOf w.write ++ rest)) =
      .ok (holding ms row pending, rest) := by
  induction ms with
  | nil => cases hmem
  | cons m ms ih =>
      obtain ⟨value, values⟩ := row
      obtain ⟨hhead, htail⟩ := List.nodup_cons.mp hnames
      rw [Row.members, List.mem_append] at hmem
      rcases hmem with hmem | hmem
      -- It is the first member, and none of the others has its name; or it is one of the others.
      · obtain ⟨v, hwrite, hv⟩ := Option.map_eq_some_iff.mp (Option.mem_toList.mp hmem)
        obtain ⟨rfl, rfl⟩ := Prod.mk.inj hv
        have hread := m.kind.read_write hwrite hrest
        simp only [holding, List.mem_cons, true_or, if_true, readMember, afterColon_colon,
          holding_cons_of_not_mem hhead, hfresh, hwrite, reduceCtorEq, or_self, if_false]
        simp only [bind, Except.bind, hread]
      · have hne : name ≠ m.name := by
          rintro rfl
          exact hhead (mem_names_of_mem_members hmem)
        have hread := ih htail hmem
        simp only [holding, List.mem_cons, hne.symm, false_or, readMember, if_neg hne, hread]
        rfl

theorem length_le_bytesOf_writeMembers (members : List (String × Value)) :
    members.length ≤ (bytesOf (writeMembers members)).length := by
  induction members with
  | nil => exact Nat.zero_le _
  | cons member members ih =>
      obtain ⟨name, value⟩ := member
      rw [writeMembers, List.append_assoc, List.append_assoc, bytesOf_append, bytesOf_quote]
      cases members with
      | nil => simp
      | cons next members =>
          simp only [List.isEmpty_cons, Bool.false_eq_true, if_false, bytesOf_append, bytesOf_cons,
            List.length_append, List.length_cons] at ih ⊢
          omega

/-- What goes on after a member when others are left to come. -/
def afterMember (left : List (String × Value)) (rest : Bytes) : Bytes :=
  match left with
  | [] => byte '}' :: rest
  | _ :: _ => byte ',' :: (bytesOf (writeMembers left) ++ byte '}' :: rest)

theorem endsMember_afterMember (left : List (String × Value)) (rest : Bytes) :
    EndsMember (afterMember left rest) := by
  cases left with
  | nil => exact ⟨rest, Or.inr rfl⟩
  | cons member left => exact ⟨_, Or.inl rfl⟩

/-- The bytes of members, the first one apart. -/
theorem bytesOf_writeMembers_cons (name : String) (value : Value) (left : List (String × Value))
    (rest : Bytes) : bytesOf (writeMembers ((name, value) :: left)) ++ byte '}' :: rest =
      byte '"' :: (bytesOf (name.toList.flatMap escape) ++
        byte '"' :: byte ':' :: (bytesOf value.write ++ afterMember left rest)) := by
  have hcolon : bytesOf [':'] = [byte ':'] := rfl
  rw [writeMembers, bytesOf_append, bytesOf_append, bytesOf_append, bytesOf_quote, hcolon]
  cases left with
  | nil => simp [afterMember]
  | cons member left =>
      have hcomma : String.utf8EncodeChar ',' = [byte ','] := rfl
      simp [afterMember, bytesOf_cons, hcomma]

/-- Members that were written are read one after the other, to the end of the object. -/
theorem readMembers_holding (hnames : (ms.map (·.name)).Nodup) {row : Row ms}
    {members : List (String × Value)} (hnonempty : members ≠ [])
    (hmembers : ∀ member ∈ members, member ∈ Row.members ms row)
    (hdistinct : (members.map (·.1)).Nodup) {fuel : Nat} (hfuel : members.length ≤ fuel) :
    readMembers fuel ms (holding ms row (members.map (·.1)))
        (bytesOf (writeMembers members) ++ byte '}' :: rest) =
      .ok (holding ms row [], rest) := by
  -- The members still to come are those whose names are pending; each one read takes its own off.
  induction members generalizing fuel with
  | nil => exact absurd rfl hnonempty
  | cons member left ih =>
      obtain ⟨name, value⟩ := member
      obtain ⟨fuel, rfl⟩ := Nat.exists_eq_add_of_lt hfuel
      obtain ⟨hfresh, hdistinct⟩ := List.nodup_cons.mp hdistinct
      have hmember := readMember_holding hnames (hmembers (name, value) List.mem_cons_self) hfresh
        (endsMember_afterMember left rest)
      rw [bytesOf_writeMembers_cons, List.map_cons]
      simp only [readMembers, skipBlanks_cons (show isBlank (byte '"') = false by decide),
        after?_self, string?_flatMap_escape, hmember]
      cases left with
      | nil => rfl
      | cons next left =>
          have hbrace : ∀ s, after? '}' (byte ',' :: s) = none := fun s => rfl
          simp only [afterMember, skipBlanks_cons (show isBlank (byte ',') = false by decide),
            hbrace, after?_self]
          refine ih (List.cons_ne_nil _ _) ?_ hdistinct ?_
          · exact fun member hmember => hmembers member (List.mem_cons_of_mem _ hmember)
          · simp only [List.length_cons] at hfuel ⊢
            omega

end Draft

/-! ## Records -/

theorem readObject_members {ms : List Member} (hms : Readable ms) (row : Row ms) (rest : Bytes) :
    Row.readObject ms (bytesOf (writeMembers (Row.members ms row)) ++ byte '}' :: rest) =
      .ok (row, rest) := by
  have hfinish := Draft.finish_holding hms.faithful row
  have hempty : Draft.holding ms row ((Row.members ms row).map (·.1)) = Draft.empty ms :=
    Draft.holding_eq_empty fun name w hmem => List.mem_map_of_mem hmem
  by_cases hmembers : Row.members ms row = []
  -- An object without members ends at once; any other starts with a quote.
  · have hend : after? '}' (skipBlanks (bytesOf (writeMembers []) ++ byte '}' :: rest)) =
      some rest := rfl
    rw [hmembers, List.map_nil] at hempty
    simp only [Row.readObject, hmembers, hend, ← hempty, bind, Except.bind, hfinish]
  · have hfuel : (Row.members ms row).length ≤
        (bytesOf (writeMembers (Row.members ms row)) ++ byte '}' :: rest).length :=
      Nat.le_trans (Draft.length_le_bytesOf_writeMembers _) (by simp)
    have hdistinct := hms.names_nodup.sublist (Draft.members_names_sublist row)
    have hread : Draft.readMembers _ ms _ _ = .ok (Draft.holding ms row [], rest) :=
      Draft.readMembers_holding hms.names_nodup hmembers (fun _ hmember => hmember) hdistinct hfuel
    have hstart : after? '}' (skipBlanks
        (bytesOf (writeMembers (Row.members ms row)) ++ byte '}' :: rest)) = none := by
      obtain ⟨⟨name, value⟩, left, heq⟩ := List.exists_cons_of_ne_nil hmembers
      rw [heq, Draft.bytesOf_writeMembers_cons]
      rfl
    rw [hempty] at hread
    simp only [Row.readObject, hstart, hread, bind, Except.bind, hfinish]

namespace Format

variable {ρ : Type} {format : Format ρ}

/-- A record that was written is read back, whatever follows it. -/
theorem read_render (hformat : Readable format.fields) (record : ρ) (rest : Bytes) :
    format.read (Utf8.encode (format.render record) ++ rest) = .ok (record, rest) := by
  have hbytes : Utf8.encode (format.render record) ++ rest = byte '{' ::
      (bytesOf (writeMembers (Row.members format.fields (format.toRow record))) ++
        byte '}' :: rest) := by
    rw [render, toValue, Value.render, Utf8.encode_ofList, Value.write]
    change bytesOf (_ ++ _ ++ _) ++ rest = _
    rw [bytesOf_append, bytesOf_append, List.append_assoc, List.append_assoc]
    rfl
  rw [hbytes, Format.read, Row.read, skipBlanks_cons (by decide)]
  simp only [after?_self, readObject_members hformat]
  exact congrArg (fun record => Except.ok (record, rest)) (format.ofRow_toRow record)

theorem parse_render (hformat : Readable format.fields) (record : ρ) :
    format.parse (Utf8.encode (format.render record)) = .ok record := by
  have hread := read_render hformat record []
  rw [List.append_nil] at hread
  simp only [parse, hread]
  rfl

end Format

end Enrollment.Json
