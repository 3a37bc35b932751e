import Enrollment.Http.Message
import Enrollment.Proofs.Text.Trim
import Enrollment.Proofs.Text.Utf8

/-!
# What a header says

A header says a text if its value is that text in visible ASCII, spaces and tabs. Of several headers
of a name, in letters of either case, only the first one counts, also where it says no text.

A text of that kind has no blanks but spaces and tabs, so these are all that trimming removes.
-/

namespace Enrollment.Http

open Text (Stops)

/-- The characters of text in a header. -/
def IsTextCharacter (c : Char) : Prop :=
  (0x20 ≤ c.toNat ∧ c.toNat < 0x7F) ∨ c = '\t'

/-- A header of a name, which is given in lower case. -/
def IsNamed (name : String) (header : String × List UInt8) : Prop :=
  header.1.toList.map Char.toLower = name.toList

/-- The first header of a name says a text. -/
def Request.Says (r : Request) (name : String) (text : List Char) : Prop :=
  ∃ before header after, r.headers = before ++ header :: after ∧
    (∀ h ∈ before, ¬ IsNamed name h) ∧ IsNamed name header ∧
    header.2 = Utf8.encode (String.ofList text) ∧ ∀ c ∈ text, IsTextCharacter c

/-- What stands in front of the first comma of a text, or all of it if there is none. -/
def IsFirstElement (text first : List Char) : Prop :=
  ',' ∉ first ∧ (text = first ∨ ∃ rest, text = first ++ ',' :: rest)

def isSpaceOrTab (c : Char) : Bool :=
  c == ' ' || c == '\t'

/-- What is left of a text without the spaces and tabs around it. -/
def IsTrimmed (text core : List Char) : Prop :=
  ∃ lead trail, text = lead ++ core ++ trail ∧ (∀ c ∈ lead, isSpaceOrTab c = true) ∧
    (∀ c ∈ trail, isSpaceOrTab c = true) ∧ Stops isSpaceOrTab core ∧
    Stops isSpaceOrTab core.reverse

/-! ## Values that are text -/

/-- A byte is read as the character of its number. -/
theorem toNat_ofNat_byte (b : UInt8) : (Char.ofNat b.toNat).toNat = b.toNat := by
  have hvalid : b.toNat.isValidChar := Or.inl (Nat.lt_trans b.toNat_lt (by decide))
  rw [Char.ofNat, dif_pos hvalid]
  rfl

namespace IsTextCharacter

variable {c : Char} {text : List Char}

theorem lt (hc : IsTextCharacter c) : c.toNat < 0x80 := by
  rcases hc with hvisible | rfl
  · omega
  · decide

theorem ofNat_byte (hc : IsTextCharacter c) : Char.ofNat (UInt8.ofNat c.toNat).toNat = c := by
  have hbyte : (UInt8.ofNat c.toNat).toNat = c.toNat :=
    Nat.mod_eq_of_lt (Nat.lt_trans hc.lt (by decide))
  rw [hbyte, Char.ofNat_toNat]

theorem encode_eq_map (htext : ∀ c ∈ text, IsTextCharacter c) :
    Utf8.encode (String.ofList text) = text.map fun c => UInt8.ofNat c.toNat := by
  rw [Utf8.encode_ofList]
  induction text with
  | nil => rfl
  | cons c text ih =>
      rw [List.flatMap_cons, Utf8.encodeChar_of_ascii (htext c List.mem_cons_self).lt,
        ih fun d hd => htext d (List.mem_cons_of_mem c hd)]
      rfl

end IsTextCharacter

namespace Request

theorem isVisible_iff {b : UInt8} :
    isVisible b = true ↔ IsTextCharacter (Char.ofNat b.toNat) := by
  have htab : Char.ofNat b.toNat = '\t' ↔ b.toNat = 9 := by
    rw [← Char.toNat_inj, toNat_ofNat_byte]
    rfl
  simp [isVisible, IsTextCharacter, toNat_ofNat_byte, htab, UInt8.le_iff_toNat_le,
    UInt8.lt_iff_toNat_lt, ← UInt8.toNat_inj]

/-- A value counts as text exactly if it is the bytes of one. -/
theorem textOf?_eq_some_iff {value : List UInt8} {text : List Char} :
    textOf? value = some text ↔
      value = Utf8.encode (String.ofList text) ∧ ∀ c ∈ text, IsTextCharacter c := by
  rw [textOf?, Option.ite_none_right_eq_some, Option.some.injEq, List.all_eq_true]
  constructor
  · rintro ⟨hvisible, rfl⟩
    have htext : ∀ c ∈ value.map fun b => Char.ofNat b.toNat, IsTextCharacter c := by
      intro c hc
      obtain ⟨b, hb, rfl⟩ := List.mem_map.mp hc
      exact isVisible_iff.mp (hvisible b hb)
    have hback : ∀ b ∈ value, UInt8.ofNat (Char.ofNat b.toNat).toNat = b := by
      intro b _
      rw [toNat_ofNat_byte, UInt8.ofNat_toNat]
    refine ⟨?_, htext⟩
    rw [IsTextCharacter.encode_eq_map htext, List.map_map]
    exact ((List.map_congr_left hback).trans (List.map_id value)).symm
  · rintro ⟨rfl, htext⟩
    rw [IsTextCharacter.encode_eq_map htext]
    constructor
    · intro b hb
      obtain ⟨c, hc, rfl⟩ := List.mem_map.mp hb
      rw [isVisible_iff, (htext c hc).ofNat_byte]
      exact htext c hc
    · rw [List.map_map]
      exact (List.map_congr_left fun c hc => (htext c hc).ofNat_byte).trans (List.map_id text)

theorem header?_eq_some_iff {r : Request} {name : String} {value : List UInt8} :
    r.header? name = some value ↔ ∃ before header after, r.headers = before ++ header :: after ∧
      (∀ h ∈ before, ¬ IsNamed name h) ∧ IsNamed name header ∧ header.2 = value := by
  simp only [header?, Option.map_eq_some_iff, List.find?_eq_some_iff_append, IsNamed]
  constructor
  · rintro ⟨header, ⟨hnamed, before, after, hsplit, hbefore⟩, hvalue⟩
    exact ⟨before, header, after, hsplit, by simpa using hbefore, by simpa using hnamed, hvalue⟩
  · rintro ⟨before, header, after, hsplit, hbefore, hnamed, hvalue⟩
    exact ⟨header, ⟨by simpa using hnamed, before, after, hsplit, by simpa using hbefore⟩, hvalue⟩

theorem Says.isTextCharacter {r : Request} {name : String} {text : List Char}
    (h : r.Says name text) : ∀ c ∈ text, IsTextCharacter c := by
  obtain ⟨-, -, -, -, -, -, -, htext⟩ := h
  exact htext

/-- A header is read as the text that it says. -/
theorem headerText?_eq_some_iff {r : Request} {name : String} {text : List Char} :
    r.headerText? name = some text ↔ r.Says name text := by
  simp only [headerText?, Option.bind_eq_some_iff, header?_eq_some_iff, textOf?_eq_some_iff, Says]
  constructor
  · rintro ⟨value, ⟨before, header, after, hsplit, hbefore, hnamed, rfl⟩, htext⟩
    exact ⟨before, header, after, hsplit, hbefore, hnamed, htext⟩
  · rintro ⟨before, header, after, hsplit, hbefore, hnamed, htext⟩
    exact ⟨header.2, ⟨before, header, after, hsplit, hbefore, hnamed, rfl⟩, htext⟩

end Request

/-! ## Elements between commas and blanks -/

variable {text first core : List Char}

theorem IsFirstElement.subset (hfirst : IsFirstElement text first) : first ⊆ text := by
  obtain ⟨-, rfl | ⟨rest, rfl⟩⟩ := hfirst
  · exact List.Subset.refl _
  · exact List.subset_append_left _ _

theorem takeWhile_eq_iff : text.takeWhile (· != ',') = first ↔ IsFirstElement text first := by
  constructor
  · rintro rfl
    refine ⟨fun hcomma => by simpa using List.mem_takeWhile_imp hcomma, ?_⟩
    have hsplit := (List.takeWhile_append_dropWhile (p := (· != ',')) (l := text)).symm
    have hnext := List.head?_dropWhile_not (· != ',') text
    generalize text.dropWhile (· != ',') = rest at hsplit hnext
    cases rest with
    | nil => exact Or.inl (by rwa [List.append_nil] at hsplit)
    | cons c rest =>
        obtain rfl : c = ',' := by simpa using hnext
        exact Or.inr ⟨rest, hsplit⟩
  · rintro ⟨hfirst, htext⟩
    have hkept : ∀ c ∈ first, (c != ',') = true := by
      intro c hc
      simpa using fun h : c = ',' => hfirst (h ▸ hc)
    obtain rfl | ⟨rest, rfl⟩ := htext
    · exact List.takeWhile_eq_self_iff.mpr hkept
    · exact Text.takeWhile_append hkept (Text.stops_cons (by decide))

/-- Text of a header has no other blanks than spaces and tabs. -/
theorem IsTextCharacter.isBlank_eq {c : Char} (hc : IsTextCharacter c) :
    Unicode.isBlank c = isSpaceOrTab c := by
  have hspace : c = ' ' ↔ c.toNat = 0x20 := Char.toNat_inj.symm
  have htab : c = '\t' ↔ c.toNat = 0x09 := Char.toNat_inj.symm
  rw [IsTextCharacter, htab] at hc
  rw [Bool.eq_iff_iff]
  simp only [Unicode.isBlank, isSpaceOrTab, Bool.or_eq_true, Bool.and_eq_true, decide_eq_true_eq,
    beq_iff_eq, hspace, htab]
  omega

theorem trim_eq_iff_isTrimmed (htext : ∀ c ∈ text, IsTextCharacter c) :
    Unicode.trim text = core ↔ IsTrimmed text core := by
  rw [Unicode.trim_eq_iff]
  refine exists_congr fun lead => exists_congr fun trail => and_congr_right fun hsplit => ?_
  have hsame (part : List Char) (hpart : part ⊆ lead ++ core ++ trail) :
      ∀ c ∈ part, Unicode.isBlank c = isSpaceOrTab c := by
    intro c hc
    exact (htext c (hsplit ▸ hpart hc)).isBlank_eq
  have hlead := hsame lead (by simp)
  have hcore := hsame core (by simp)
  have htrail := hsame trail (by simp)
  refine and_congr (forall₂_congr fun c hc => by rw [hlead c hc])
    (and_congr (forall₂_congr fun c hc => by rw [htrail c hc]) (and_congr ?_ ?_))
  · exact Text.stops_congr hcore
  · exact Text.stops_congr fun c hc => hcore c (List.mem_reverse.mp hc)

end Enrollment.Http
