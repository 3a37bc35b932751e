import Enrollment.Proofs.Json.Record
import Enrollment.Wire

/-!
# Messages arrive as they were sent

What one side writes the other reads back, whatever the texts are made of: a nonce, an attempt with
or without its optional texts, an account, and a refusal. An absent text is left out, and so told
apart from an empty one.

A text that is read need not be one that was written: its members may stand in another order or in a
list, with blanks and unknown members between them. What was read from it is written in one form
only, and that form no longer changes.
-/

namespace Enrollment

namespace Json

open Utf8 (bytesOf)

/-- Whether all values of a kind are written. -/
def Kind.isPlain : Kind → Bool
  | .optional _ => false
  | _ => true

theorem Kind.write_ne_none {kind : Kind} (hplain : kind.isPlain = true) (value : kind.Carrier) :
    kind.write value ≠ none := by
  cases kind with
  | optional kind => cases hplain
  | _ => exact Option.some_ne_none _

/-- Whether a member is always written, or reads as absent when it is left out. -/
def Member.isFaithful : Member → Bool
  | ⟨_, .optional kind, some none⟩ => kind.isPlain
  | ⟨_, kind, _⟩ => kind.isPlain

theorem Member.faithful_of_isFaithful {m : Member} (hm : m.isFaithful = true) : m.Faithful := by
  unfold isFaithful at hm
  split at hm
  next name kind =>
    intro value hunwritten
    cases value with
    | none => rfl
    | some value => exact absurd hunwritten (Kind.write_ne_none hm value)
  next => exact fun value hunwritten => absurd hunwritten (Kind.write_ne_none hm value)

/-- That a record is read back as it was written shows in its members. -/
theorem Readable.of_members {ms : List Member} (hnames : (ms.map (·.name)).Nodup)
    (hfaithful : ms.all Member.isFaithful = true) : Readable ms where
  names_nodup := hnames
  faithful m hm := Member.faithful_of_isFaithful (List.all_eq_true.mp hfaithful m hm)

/-- What reading and writing are to each other: whatever is written is read back, and once what was
read from any bytes is written it is read as the same and written as the same again. -/
structure Restores {ρ : Type} (parse : Bytes → Except Fault ρ) (render : ρ → String) : Prop where
  restored : ∀ record, parse (Utf8.encode (render record)) = .ok record
  settled : ∀ s record, parse s = .ok record →
    parse (Utf8.encode (render record)) = .ok record ∧
      ∀ again, parse (Utf8.encode (render record)) = .ok again → render again = render record

theorem Restores.of_restored {ρ : Type} {parse : Bytes → Except Fault ρ} {render : ρ → String}
    (hrestored : ∀ record, parse (Utf8.encode (render record)) = .ok record) :
    Restores parse render where
  restored := hrestored
  settled _ record _ := by
    refine ⟨hrestored record, fun again hagain => ?_⟩
    obtain rfl : record = again := Except.ok.inj ((hrestored record).symm.trans hagain)
    rfl

theorem Format.restores {ρ : Type} {format : Format ρ} (hformat : Readable format.fields) :
    Restores format.parse format.render :=
  .of_restored (format.parse_render hformat)

theorem encode_render_text (s : String) :
    Utf8.encode (Value.text s).render = bytesOf (quote s) := by
  rw [Value.render, Utf8.encode_ofList, Value.write]
  rfl

/-- A string alone that was written is read back. -/
theorem parseText_render (s : String) : parseText (Utf8.encode (Value.text s).render) = .ok s := by
  have hread := readText_quote s []
  rw [List.append_nil] at hread
  simp only [parseText, encode_render_text, hread]
  rfl

end Json

namespace Wire

open Json (Readable Restores)

theorem readable_nonceResponse : Readable nonceResponse.fields :=
  .of_members (by decide) (by decide)

theorem readable_registerRequest : Readable registerRequest.fields :=
  .of_members (by decide) (by decide)

theorem readable_accountInfo : Readable accountInfo.fields :=
  .of_members (by decide) (by decide)

theorem readable_errorResponse : Readable errorResponse.fields :=
  .of_members (by decide) (by decide)

/-- Nonces, attempts, accounts, refusals and tokens are read back as they were written, and bytes
that are read as one of them settle on the text that it is written as. -/
theorem messages_restored :
    Restores nonceResponse.parse nonceResponse.render ∧
      Restores registerRequest.parse registerRequest.render ∧
      Restores accountInfo.parse accountInfo.render ∧
      Restores errorResponse.parse errorResponse.render ∧
      Restores Json.parseText renderToken :=
  ⟨Json.Format.restores readable_nonceResponse, Json.Format.restores readable_registerRequest,
    Json.Format.restores readable_accountInfo, Json.Format.restores readable_errorResponse,
    .of_restored Json.parseText_render⟩

end Wire

end Enrollment
