import Enrollment.Proofs.Shape
import Enrollment.Proofs.Text.Utf8
import Enrollment.Signature
import Mathlib.Data.List.Nodup

/-!
# The signed message can be read back

A message has no lengths, and its last part may be missing, so that it stands for one set of fields
only because no part of an accepted attempt holds the separator. Cut at the separator, it falls into
the parts it was made of: four of them, or five if there is a user type, be it empty.
-/

namespace Enrollment

namespace Fields

/-- The role that a word stands for. -/
def roleOf? (word : String) : Option Bool :=
  if word = roleWord true then some true
  else if word = roleWord false then some false
  else none

/-- The fields whose texts are signed. -/
def ofParts? : List String → Option Fields
  | [nonce, username, password, word] =>
      (roleOf? word).map fun admin => ⟨nonce, username, password, admin, none⟩
  | [nonce, username, password, word, userType] =>
      (roleOf? word).map fun admin => ⟨nonce, username, password, admin, some userType⟩
  | _ => none

/-- The fields that a message stands for. -/
def ofMessage? (message : List UInt8) : Option Fields :=
  ((message.splitOn separator).mapM Utf8.decode?).bind ofParts?

@[simp] theorem roleOf?_roleWord (admin : Bool) : roleOf? (roleWord admin) = some admin := by
  cases admin <;> decide

theorem ofParts?_parts (f : Fields) : ofParts? f.parts = some f := by
  obtain ⟨nonce, username, password, admin, userType⟩ := f
  cases userType <;> simp [parts, ofParts?]

theorem length_parts (f : Fields) : f.parts.length = if f.userType.isSome then 5 else 4 := by
  cases h : f.userType <;> simp [parts, h]

theorem mapM_decode?_encode (texts : List String) :
    (texts.map Utf8.encode).mapM Utf8.decode? = some texts := by
  induction texts with
  | nil => rfl
  | cons text rest ih => simp [Utf8.decode?_encode, ih]

end Fields

theorem Attempt.separator_not_mem {a : Attempt} (hvalid : a.validate = .ok ()) {part : String}
    (hpart : part ∈ a.fields.parts) : separator ∉ Utf8.encode part := by
  obtain ⟨hnonce, husername, hpassword, huserType⟩ := a.not_nul_mem_parts hvalid
  have hrole : '\x00' ∉ (roleWord a.fields.admin).toList := by
    cases a.fields.admin <;> decide
  intro hseparator
  -- Only the character NUL is encoded with the byte zero.
  have hnul : '\x00' ∈ part.toList := Utf8.zero_mem_encode_iff.mp hseparator
  simp only [Fields.parts, List.mem_append, List.mem_cons, List.not_mem_nil, or_false,
    Option.mem_toList] at hpart
  rcases hpart with (rfl | rfl | rfl | rfl) | hsome
  · exact hnonce hnul
  · exact husername hnul
  · exact hpassword hnul
  · exact hrole hnul
  · exact huserType part hsome hnul

/-- Cut at the separator, the message of an accepted attempt falls into the parts it was made of. -/
theorem Attempt.splitOn_message {a : Attempt} (hvalid : a.validate = .ok ()) :
    a.fields.message.splitOn separator = a.fields.parts.map Utf8.encode := by
  refine List.splitOn_intercalate separator ?_ (by simp [Fields.parts])
  intro bytes hbytes
  obtain ⟨part, hpart, rfl⟩ := List.mem_map.mp hbytes
  exact a.separator_not_mem hvalid hpart

theorem Attempt.ofMessage?_message {a : Attempt} (hvalid : a.validate = .ok ()) :
    Fields.ofMessage? a.fields.message = some a.fields := by
  rw [Fields.ofMessage?, a.splitOn_message hvalid, Fields.mapM_decode?_encode]
  exact Fields.ofParts?_parts a.fields

/-- The messages of accepted attempts are the same only if every field is; and each of them, cut at
the separator, is four or five parts that give back the fields. -/
theorem accepted_message_eq_iff {a b : Attempt} (ha : a.validate = .ok ())
    (hb : b.validate = .ok ()) :
    (a.fields.message = b.fields.message ↔
      a.fields.nonce = b.fields.nonce ∧ a.fields.username = b.fields.username ∧
        a.fields.password = b.fields.password ∧ a.fields.admin = b.fields.admin ∧
        a.fields.userType = b.fields.userType) ∧
    a.fields.message.splitOn separator = a.fields.parts.map Utf8.encode ∧
    a.fields.parts.length = (if a.fields.userType.isSome then 5 else 4) ∧
    Fields.ofMessage? a.fields.message = some a.fields := by
  refine ⟨⟨?_, ?_⟩, a.splitOn_message ha, a.fields.length_parts, a.ofMessage?_message ha⟩
  · intro hmessage
    -- One message is read back in one way.
    have hfields : a.fields = b.fields := by
      have hread := congrArg Fields.ofMessage? hmessage
      rw [a.ofMessage?_message ha, b.ofMessage?_message hb] at hread
      exact Option.some.inj hread
    rw [hfields]
    exact ⟨rfl, rfl, rfl, rfl, rfl⟩
  · rintro ⟨hnonce, husername, hpassword, hadmin, huserType⟩
    have hparts : a.fields.parts = b.fields.parts := by
      simp only [Fields.parts, hnonce, husername, hpassword, hadmin, huserType]
    rw [Fields.message, Fields.message, hparts]

/-- An empty user type is told from an absent one. -/
theorem empty_user_type_message_ne_absent :
    let a : Attempt := ⟨⟨"nonce", "alice", "pass\u00e9", true, some ""⟩, "", none⟩
    let b : Attempt := ⟨⟨"nonce", "alice", "pass\u00e9", true, none⟩, "", none⟩
    a.validate = .ok () ∧ b.validate = .ok () ∧ a.fields.message ≠ b.fields.message := by
  intro a b
  have ha : a.validate = .ok () := by decide
  have hb : b.validate = .ok () := by decide
  refine ⟨ha, hb, fun hmessage => ?_⟩
  have huserType := ((accepted_message_eq_iff ha hb).1.mp hmessage).2.2.2.2
  cases huserType

-- What is not accepted can be ambiguous: here a password passes for a password and a role.
example : (Fields.mk "n" "u" "p\x00admin" false none).message =
    (Fields.mk "n" "u" "p" true (some "notadmin")).message := by decide

end Enrollment
