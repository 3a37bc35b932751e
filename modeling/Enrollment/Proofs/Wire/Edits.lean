import Enrollment.Proofs.Json.Edits
import Enrollment.Proofs.Wire

/-!
# Messages written otherwise

A side that writes its members in another order, that sends members the other side does not know, or
that says `false` or `null` where nothing need be said is understood all the same: the message that
is read does not change.
-/

namespace Enrollment

namespace Json

/-- An object that is read as a record is read as the same one however it is written. -/
def Format.Tolerant {ρ : Type} (format : Format ρ) : Prop :=
  ∀ (o o' : ObjectText) (record : ρ),
    Relation.ReflTransGen (Edit format.fields) o.members o'.members →
      format.parse o.bytes = .ok record → format.parse o'.bytes = .ok record

theorem Readable.tolerant {ρ : Type} {format : Format ρ} (hformat : Readable format.fields) :
    format.Tolerant :=
  fun _ _ _ hedits hparse => format.parse_of_edits hformat hedits hparse

end Json

namespace Wire

open Json

/-- Nonces, attempts, accounts and refusals are read the same however they are written. What an
attempt may leave out when it says no more are the flag and the optional texts. -/
theorem messages_tolerant :
    nonceResponse.Tolerant ∧ registerRequest.Tolerant ∧ accountInfo.Tolerant ∧
      errorResponse.Tolerant ∧
      registerRequest.fields.filterMap (fun m => m.absentText.map (m.name, ·)) =
        [("admin", "false"), ("user_type", "null"), ("displayname", "null")] :=
  ⟨readable_nonceResponse.tolerant, readable_registerRequest.tolerant,
    readable_accountInfo.tolerant, readable_errorResponse.tolerant, by decide⟩

/-- A member without blanks, whose name needs no escapes. -/
def plainEntry (name : String) (hname : (Utf8.encode name).all (IsPlain ·) = true) (value : Bytes) :
    Entry :=
  ⟨.none, Utf8.encode name, (Spells.of_plain hname).isStringBody, .none, .none, value, .none⟩

/-- A text that needs no escapes. -/
theorem isValue_quoted {text : String} (htext : (Utf8.encode text).all (IsPlain ·) = true) :
    IsValue (quoted (Utf8.encode text)) :=
  .text (Spells.of_plain htext).isStringBody

/-- An attempt that says that it is for no administrator. -/
def statedAttempt : ObjectText where
  before := .none
  within := .none
  entries :=
    [plainEntry "nonce" (by decide) (quoted (Utf8.encode "n")),
      plainEntry "username" (by decide) (quoted (Utf8.encode "u")),
      plainEntry "password" (by decide) (quoted (Utf8.encode "p")),
      plainEntry "admin" (by decide) (Utf8.encode "false"),
      plainEntry "mac" (by decide) (quoted (Utf8.encode "m"))]
  isValue := by
    simp only [List.forall_mem_cons, List.not_mem_nil, false_imp_iff, implies_true, and_true]
    exact ⟨isValue_quoted (by decide), isValue_quoted (by decide), isValue_quoted (by decide),
      .word (by decide), isValue_quoted (by decide)⟩
  after := .none

/-- A list that holds an object. -/
def nestedValue : Bytes :=
  listBytes .none
    [⟨.none, objectBytes .none [plainEntry "y" (by decide) (Utf8.encode "null")], .none⟩]

theorem isValue_nestedValue : IsValue nestedValue := by
  refine .list .none fun item hitem => ?_
  obtain rfl := List.mem_singleton.mp hitem
  refine .object .none fun e he => ?_
  obtain rfl := List.mem_singleton.mp he
  exact .word (by decide)

/-- The same attempt in another order, without the flag, and with a member that is unknown:
`{ "mac":"m","x":[{"y":null}],"username":"u","password":"p","nonce":"n"}`. -/
def rewordedAttempt : ObjectText where
  before := .none
  within := ⟨[byte ' '], List.forall_mem_singleton.mpr rfl⟩
  entries :=
    [plainEntry "mac" (by decide) (quoted (Utf8.encode "m")),
      plainEntry "x" (by decide) nestedValue,
      plainEntry "username" (by decide) (quoted (Utf8.encode "u")),
      plainEntry "password" (by decide) (quoted (Utf8.encode "p")),
      plainEntry "nonce" (by decide) (quoted (Utf8.encode "n"))]
  isValue := by
    simp only [List.forall_mem_cons, List.not_mem_nil, false_imp_iff, implies_true, and_true]
    exact ⟨isValue_quoted (by decide), isValue_nestedValue, isValue_quoted (by decide),
      isValue_quoted (by decide), isValue_quoted (by decide)⟩
  after := .none

/-- The flag is left out, the unknown member is put in, and the members are put in order. -/
theorem statedAttempt_edits :
    Relation.ReflTransGen (Edit registerRequest.fields) statedAttempt.members
      rewordedAttempt.members := by
  have hleaveOut : Edit registerRequest.fields statedAttempt.members
      (statedAttempt.members.take 3 ++ statedAttempt.members.drop 4) :=
    .leaveOut (statedAttempt.members.take 3) (statedAttempt.members.drop 4)
      (m := .withDefault "admin" .flag false) (by simp [registerRequest])
      (Spells.of_plain (by decide)) rfl
  have hname : SpellsText (Utf8.encode "x") "x" := Spells.of_plain (by decide)
  have hinsert : Edit registerRequest.fields
      (statedAttempt.members.take 3 ++ statedAttempt.members.drop 4)
      (statedAttempt.members.take 3 ++
        (Utf8.encode "x", nestedValue) :: statedAttempt.members.drop 4) :=
    .insert _ _ nestedValue hname (by decide)
  have hreorder : Edit registerRequest.fields
      (statedAttempt.members.take 3 ++
        (Utf8.encode "x", nestedValue) :: statedAttempt.members.drop 4) rewordedAttempt.members :=
    .reorder (by decide)
  exact .tail (.tail (.single hleaveOut) hinsert) hreorder

theorem rewordedAttempt_parse :
    registerRequest.parse statedAttempt.bytes = .ok ⟨"n", "u", "p", false, none, none, "m"⟩ ∧
      Relation.ReflTransGen (Edit registerRequest.fields) statedAttempt.members
        rewordedAttempt.members ∧
      registerRequest.parse rewordedAttempt.bytes =
        .ok ⟨"n", "u", "p", false, none, none, "m"⟩ := by
  have hwritten : statedAttempt.bytes =
      Utf8.encode (registerRequest.render ⟨"n", "u", "p", false, none, none, "m"⟩) := by
    decide
  have hstated : registerRequest.parse statedAttempt.bytes =
      .ok ⟨"n", "u", "p", false, none, none, "m"⟩ := by
    rw [hwritten]
    exact registerRequest.parse_render readable_registerRequest _
  exact ⟨hstated, statedAttempt_edits, messages_tolerant.2.1 _ _ _ statedAttempt_edits hstated⟩

end Wire

end Enrollment
