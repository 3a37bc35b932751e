import Enrollment.Proofs.Json.Members
import Mathlib.Logic.Relation

/-!
# Objects written otherwise

What an object is read as stays when it is written otherwise: its members in another order, members
that the record does not have removed or put in, and members left out that only say what their
absence says. Blanks, of course, make no difference either.
-/

namespace Enrollment.Json

open Utf8 (bytesOf)

variable {ms : List Member} {members members' : Members} {name : String}

/-- What is written for the value of a member that is left out. -/
def Member.absentText (m : Member) : Option String :=
  m.absent.map fun value => ((m.kind.write value).getD .null).render

/-- A way to write the members of an object otherwise, for a record with certain members. -/
inductive Edit (ms : List Member) : Members → Members → Prop
  | reorder {members members' : Members} (hperm : members.Perm members') : Edit ms members members'
  | remove (before after : Members) {key : Bytes} (value : Bytes)
      (hunknown : ∀ m ∈ ms, ¬ SpellsText key m.name) :
      Edit ms (before ++ (key, value) :: after) (before ++ after)
  | insert (before after : Members) {key : Bytes} (value : Bytes) {name : String}
      (hname : SpellsText key name) (hunknown : ∀ m ∈ ms, m.name ≠ name) :
      Edit ms (before ++ after) (before ++ (key, value) :: after)
  | leaveOut (before after : Members) {key : Bytes} {m : Member} {text : String} (hm : m ∈ ms)
      (hname : SpellsText key m.name) (habsent : m.absentText = some text) :
      Edit ms (before ++ (key, Utf8.encode text) :: after) (before ++ after)

/-! ## Members -/

namespace Member

variable {m : Member}

/-- Several values are none, in whatever order. -/
theorem pick_perm {values values' : List Bytes} (h : values.Perm values') :
    m.pick values = m.pick values' := by
  match values with
  | [] => rw [List.nil_perm.mp h]
  | [value] => rw [List.singleton_perm.mp h]
  | first :: second :: values =>
      obtain ⟨first', second', values', rfl⟩ : ∃ a b l, values' = a :: b :: l := by
        have hlength := h.length_eq
        match values' with
        | first' :: second' :: values' => exact ⟨first', second', values', rfl⟩
      rfl

theorem valuesIn_perm (h : members.Perm members') :
    (m.valuesIn members).Perm (m.valuesIn members') :=
  (h.filter _).map _

/-- A value that reads as what its absence says can be left out. -/
theorem pick_of_pick_cons {value : Bytes} {values : List Bytes} {x : m.kind.Carrier}
    (hvalue : m.kind.value? value = m.absent) (hpick : m.pick (value :: values) = some x) :
    m.pick values = some x := by
  cases values with
  | nil => exact hvalue.symm.trans hpick
  | cons _ _ => cases hpick

/-- What is written for the value of an absent member reads as it. -/
theorem value?_of_absentText (hm : m.Faithful) {text : String} (htext : m.absentText = some text) :
    m.kind.value? (Utf8.encode text) = m.absent := by
  obtain ⟨value, habsent, rfl⟩ := Option.map_eq_some_iff.mp htext
  cases hwrite : m.kind.write value with
  | some w =>
      have hread : m.kind.read (bytesOf w.write ++ [byte '}']) = .ok (value, [byte '}']) :=
        m.kind.read_write hwrite ⟨[], .inr rfl⟩
      rw [habsent, Option.getD_some, Value.render, Utf8.encode_ofList, Kind.value?]
      exact congrArg (fun read => (Except.toOption read).map (·.1)) hread
  | none =>
      -- Only an optional value is not written, and then it is the absent one.
      obtain ⟨name, kind, absent⟩ := m
      cases kind with
      | optional kind =>
          have hnone : absent = some none := hm none rfl
          rw [hnone]
          exact kind.reads_null.value?_eq
      | _ => cases hwrite

end Member

namespace Row

/-- The order of the members makes no difference. -/
theorem ofMembers?_perm (h : members.Perm members') :
    ofMembers? ms members = ofMembers? ms members' := by
  induction ms with
  | nil => simp only [ofMembers?, h.all_eq]
  | cons m ms ih => simp only [ofMembers?, ih, Member.pick_perm (Member.valuesIn_perm h)]

/-- A member that the record does not have only needs a name. -/
theorem ofMembers?_cons_of_unknown {member : Bytes × Bytes}
    (hunknown : ∀ m ∈ ms, keyName? member.1 ≠ some m.name) (members : Members) :
    ofMembers? ms (member :: members) =
      (keyName? member.1).bind fun _ => ofMembers? ms members := by
  induction ms with
  | nil =>
      simp only [ofMembers?, List.all_cons]
      cases keyName? member.1 <;> rfl
  | cons m ms ih =>
      have hother := hunknown m List.mem_cons_self
      simp only [ofMembers?, Member.valuesIn_cons, if_neg hother,
        ih fun m' hm' => hunknown m' (List.mem_cons_of_mem m hm')]
      cases keyName? member.1 with
      | none => cases m.pick (m.valuesIn members) <;> rfl
      | some name => rfl

/-- A member that only says what its absence says can be left out. -/
theorem ofMembers?_of_cons (hnames : (ms.map (·.name)).Nodup) {member : Bytes × Bytes} {m : Member}
    (hm : m ∈ ms) (hkey : keyName? member.1 = some m.name)
    (hvalue : m.kind.value? member.2 = m.absent) {row : Row ms}
    (hrow : ofMembers? ms (member :: members) = some row) : ofMembers? ms members = some row := by
  induction ms with
  | nil => cases hm
  | cons m' ms ih =>
      obtain ⟨hhead, htail⟩ := List.nodup_cons.mp hnames
      obtain ⟨value, hpick, hrow⟩ := Option.bind_eq_some_iff.mp hrow
      obtain ⟨values, hvalues, heq⟩ := Option.bind_eq_some_iff.mp hrow
      obtain rfl : (value, values) = row := Option.some.inj heq
      rw [Member.valuesIn_cons] at hpick
      have hleft : m'.pick (m'.valuesIn members) = some value ∧
          ofMembers? ms members = some values := by
        rcases List.mem_cons.mp hm with rfl | hm
        · have hunknown : ∀ m' ∈ ms, keyName? member.1 ≠ some m'.name := by
            intro m' hm' heq
            rw [hkey] at heq
            exact hhead (List.mem_map.mpr ⟨m', hm', (Option.some.inj heq).symm⟩)
          rw [if_pos hkey] at hpick
          rw [ofMembers?_cons_of_unknown hunknown, hkey] at hvalues
          exact ⟨Member.pick_of_pick_cons hvalue hpick, hvalues⟩
        · have hother : keyName? member.1 ≠ some m'.name := by
            rw [hkey]
            intro heq
            exact hhead (List.mem_map.mpr ⟨m, hm, Option.some.inj heq⟩)
          rw [if_neg hother] at hpick
          exact ⟨hpick, ih htail hm hvalues⟩
      simp only [ofMembers?, hleft.1, hleft.2]
      rfl

end Row

/-! ## Objects -/

/-- One edit leaves what the members are read as. -/
theorem Edit.ofMembers?_eq (hms : Readable ms) (hedit : Edit ms members members') {row : Row ms}
    (hrow : Row.ofMembers? ms members = some row) : Row.ofMembers? ms members' = some row := by
  cases hedit with
  | reorder hperm => rwa [← Row.ofMembers?_perm hperm]
  | @remove before after key value hunknown =>
      rw [Row.ofMembers?_perm List.perm_middle, Row.ofMembers?_cons_of_unknown
        fun m hm heq => hunknown m hm (keyName?_eq_some_iff.mp heq)] at hrow
      obtain ⟨name, -, hrow⟩ := Option.bind_eq_some_iff.mp hrow
      exact hrow
  | @insert before after key value name hname hunknown =>
      have hkey : keyName? key = some name := keyName?_eq_some_iff.mpr hname
      rw [Row.ofMembers?_perm List.perm_middle, Row.ofMembers?_cons_of_unknown
        fun m hm heq => hunknown m hm (Option.some.inj (heq.symm.trans hkey)), hkey]
      exact hrow
  | leaveOut before after hm hname habsent =>
      rw [Row.ofMembers?_perm List.perm_middle] at hrow
      exact Row.ofMembers?_of_cons hms.names_nodup hm (keyName?_eq_some_iff.mpr hname)
        (Member.value?_of_absentText (hms.faithful _ hm) habsent) hrow

theorem Edit.ofMembers?_run (hms : Readable ms)
    (hedits : Relation.ReflTransGen (Edit ms) members members') {row : Row ms}
    (hrow : Row.ofMembers? ms members = some row) : Row.ofMembers? ms members' = some row := by
  induction hedits with
  | refl => exact hrow
  | tail _ hedit ih => exact hedit.ofMembers?_eq hms ih

/-- An object that is read as a record is read as the same one however it is written. -/
theorem Format.parse_of_edits {ρ : Type} {format : Format ρ} (hformat : Readable format.fields)
    {o o' : ObjectText} (hedits : Relation.ReflTransGen (Edit format.fields) o.members o'.members)
    {record : ρ} (hparse : format.parse o.bytes = .ok record) :
    format.parse o'.bytes = .ok record := by
  have hread := format.toOption_parse hformat.names_nodup o
  have hread' := format.toOption_parse hformat.names_nodup o'
  rw [hparse] at hread
  obtain ⟨row, hrow, hrecord⟩ := Option.map_eq_some_iff.mp hread.symm
  rw [Edit.ofMembers?_run hformat hedits hrow, Option.map_some, hrecord] at hread'
  cases hparse' : format.parse o'.bytes with
  | error fault => rw [hparse'] at hread'; cases hread'
  | ok record' => rw [hparse'] at hread'; exact congrArg Except.ok (Option.some.inj hread')

end Enrollment.Json
