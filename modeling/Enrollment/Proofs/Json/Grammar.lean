import Enrollment.Json.Record
import Enrollment.Proofs.Json.Text

/-!
# The grammar of JSON

Which bytes are a value of JSON, whoever reads them: a word, a number, a string, a list or an
object, nested to any depth, with blanks between the parts. A string of the grammar may hold any
escapes and any bytes that are no control characters; that it spells a text, so that its surrogates
are paired and its bytes are well-formed, is asked of it separately.
-/

namespace Enrollment.Json

/-- Bytes that stand between the parts of a text. -/
structure Blanks where
  bytes : Bytes
  all_blank : ∀ b ∈ bytes, isBlank b = true

namespace Blanks

def none : Blanks := ⟨[], by simp⟩

def append (first second : Blanks) : Blanks where
  bytes := first.bytes ++ second.bytes
  all_blank b hb := (List.mem_append.mp hb).elim (first.all_blank b) (second.all_blank b)

end Blanks

/-! ## Strings -/

/-- What may stand between the quotes of a string. -/
inductive IsStringBody : Bytes → Prop
  | nil : IsStringBody []
  | plain {b : UInt8} {raw : Bytes} (hplain : IsPlain b) (hraw : IsStringBody raw) :
      IsStringBody (b :: raw)
  | short {e c : UInt8} {raw : Bytes} (hescape : shortEscape? e = some c)
      (hraw : IsStringBody raw) : IsStringBody (byte '\\' :: e :: raw)
  | unit {h₁ h₂ h₃ h₄ : UInt8} {unit : Nat} {raw : Bytes}
      (hquad : hexQuad? h₁ h₂ h₃ h₄ = some unit) (hraw : IsStringBody raw) :
      IsStringBody (byte '\\' :: byte 'u' :: h₁ :: h₂ :: h₃ :: h₄ :: raw)

/-- What stands between the quotes of a string, and the bytes that it spells. -/
inductive Spells : Bytes → Bytes → Prop
  | nil : Spells [] []
  | plain {b : UInt8} {raw content : Bytes} (hplain : IsPlain b) (hraw : Spells raw content) :
      Spells (b :: raw) (b :: content)
  | short {e c : UInt8} {raw content : Bytes} (hescape : shortEscape? e = some c)
      (hraw : Spells raw content) : Spells (byte '\\' :: e :: raw) (c :: content)
  | unit {h₁ h₂ h₃ h₄ : UInt8} {unit : Nat} {raw content : Bytes}
      (hquad : hexQuad? h₁ h₂ h₃ h₄ = some unit) (hlow : isLowSurrogate unit = false)
      (hhigh : isHighSurrogate unit = false) (hraw : Spells raw content) :
      Spells (byte '\\' :: byte 'u' :: h₁ :: h₂ :: h₃ :: h₄ :: raw)
        (String.utf8EncodeChar (Char.ofNat unit) ++ content)
  | pair {h₁ h₂ h₃ h₄ l₁ l₂ l₃ l₄ : UInt8} {high low : Nat} {raw content : Bytes}
      (hquad : hexQuad? h₁ h₂ h₃ h₄ = some high) (hquad' : hexQuad? l₁ l₂ l₃ l₄ = some low)
      (hhigh : isHighSurrogate high = true) (hlow : isLowSurrogate low = true)
      (hraw : Spells raw content) :
      Spells (byte '\\' :: byte 'u' :: h₁ :: h₂ :: h₃ :: h₄ ::
          byte '\\' :: byte 'u' :: l₁ :: l₂ :: l₃ :: l₄ :: raw)
        (String.utf8EncodeChar (ofSurrogates high low) ++ content)

/-- What stands between the quotes of a string spells a text. -/
def SpellsText (raw : Bytes) (text : String) : Prop :=
  Spells raw (Utf8.encode text)

theorem Spells.isStringBody {raw content : Bytes} (h : Spells raw content) : IsStringBody raw := by
  induction h with
  | nil => exact .nil
  | plain hplain _ ih => exact .plain hplain ih
  | short hescape _ ih => exact .short hescape ih
  | unit hquad _ _ _ ih => exact .unit hquad ih
  | pair hquad hquad' _ _ _ ih => exact .unit hquad (.unit hquad' ih)

instance : DecidablePred IsPlain := fun b =>
  inferInstanceAs (Decidable (b ≠ byte '"' ∧ b ≠ byte '\\' ∧ ¬ b < 0x20))

/-- What needs no escapes spells itself. -/
theorem Spells.of_plain {raw : Bytes} (hplain : raw.all (IsPlain ·) = true) : Spells raw raw := by
  induction raw with
  | nil => exact .nil
  | cons b raw ih =>
      rw [List.all_cons, Bool.and_eq_true, decide_eq_true_eq] at hplain
      exact .plain hplain.1 (ih hplain.2)

def quoted (raw : Bytes) : Bytes :=
  byte '"' :: (raw ++ [byte '"'])

/-! ## Numbers -/

structure IsDigits (digits : Bytes) : Prop where
  nonempty : digits ≠ []
  all_digits : ∀ b ∈ digits, isDigit b = true

inductive IsFraction : Bytes → Prop
  | none : IsFraction []
  | point {digits : Bytes} (hdigits : IsDigits digits) : IsFraction (byte '.' :: digits)

inductive IsExponent : Bytes → Prop
  | none : IsExponent []
  | power {e : UInt8} {sign digits : Bytes} (he : e = byte 'e' ∨ e = byte 'E')
      (hsign : sign = [] ∨ sign = [byte '-'] ∨ sign = [byte '+']) (hdigits : IsDigits digits) :
      IsExponent (e :: (sign ++ digits))

/-- A number; it has no leading zero. -/
inductive IsNumber : Bytes → Prop
  | mk {sign whole fraction exponent : Bytes} (hsign : sign = [] ∨ sign = [byte '-'])
      (hwhole : IsDigits whole) (hleading : whole.length = 1 ∨ whole.head? ≠ some (byte '0'))
      (hfraction : IsFraction fraction) (hexponent : IsExponent exponent) :
      IsNumber (sign ++ (whole ++ (fraction ++ exponent)))

/-! ## Values -/

/-- An element of a list, with the blanks around it. -/
structure Item where
  before : Blanks
  value : Bytes
  after : Blanks

def Item.bytes (item : Item) : Bytes :=
  item.before.bytes ++ (item.value ++ item.after.bytes)

/-- A member of an object, with the blanks around its parts. -/
structure Entry where
  beforeKey : Blanks
  key : Bytes
  isStringBody : IsStringBody key
  afterKey : Blanks
  item : Item

def Entry.bytes (e : Entry) : Bytes :=
  e.beforeKey.bytes ++ (quoted e.key ++ (e.afterKey.bytes ++ byte ':' :: e.item.bytes))

/-- A member as it is written, without blanks. -/
def Entry.member (e : Entry) : Bytes × Bytes :=
  (e.key, e.item.value)

@[simp] theorem Entry.member_fst (e : Entry) : e.member.1 = e.key := rfl

@[simp] theorem Entry.member_snd (e : Entry) : e.member.2 = e.item.value := rfl

/-- Parts with commas between them. -/
def commaSeparated : List Bytes → Bytes
  | [] => []
  | part :: parts => part ++ parts.flatMap (byte ',' :: ·)

theorem commaSeparated_cons_cons (part next : Bytes) (parts : List Bytes) :
    commaSeparated (part :: next :: parts) =
      part ++ byte ',' :: commaSeparated (next :: parts) := by
  simp [commaSeparated]

/-- A list; a list without elements may hold blanks. -/
def listBytes (blanks : Blanks) (items : List Item) : Bytes :=
  byte '[' :: (blanks.bytes ++ (commaSeparated (items.map Item.bytes) ++ [byte ']']))

/-- An object; an object without members may hold blanks. -/
def objectBytes (blanks : Blanks) (entries : List Entry) : Bytes :=
  byte '{' :: (blanks.bytes ++ (commaSeparated (entries.map Entry.bytes) ++ [byte '}']))

/-- Bytes that are a value of JSON. -/
inductive IsValue : Bytes → Prop
  | word {word : String} (hword : word = "null" ∨ word = "true" ∨ word = "false") :
      IsValue (Utf8.encode word)
  | number {bytes : Bytes} (hnumber : IsNumber bytes) : IsValue bytes
  | text {raw : Bytes} (hraw : IsStringBody raw) : IsValue (quoted raw)
  | list (blanks : Blanks) {items : List Item} (hitems : ∀ item ∈ items, IsValue item.value) :
      IsValue (listBytes blanks items)
  | object (blanks : Blanks) {entries : List Entry}
      (hentries : ∀ e ∈ entries, IsValue e.item.value) : IsValue (objectBytes blanks entries)

/-- A text that is one object, with the blanks around it. -/
structure ObjectText where
  before : Blanks
  within : Blanks
  entries : List Entry
  isValue : ∀ e ∈ entries, IsValue e.item.value
  after : Blanks

namespace ObjectText

def bytes (o : ObjectText) : Bytes :=
  o.before.bytes ++ (objectBytes o.within o.entries ++ o.after.bytes)

def members (o : ObjectText) : List (Bytes × Bytes) :=
  o.entries.map Entry.member

end ObjectText

/-! ## How values start and end -/

/-- What may follow a value: nothing, a blank, or what stands after an element or a member. -/
def EndsValue (rest : Bytes) : Prop :=
  ∀ b ∈ rest.head?, isBlank b = true ∨ b = byte ',' ∨ b = byte ']' ∨ b = byte '}'

theorem endsValue_cons {b : UInt8} (hb : b = byte ',' ∨ b = byte ']' ∨ b = byte '}')
    (rest : Bytes) : EndsValue (b :: rest) := by
  intro b' hb'
  cases hb'
  exact .inr hb

theorem EndsValue.append (blanks : Blanks) {rest : Bytes} (hrest : EndsValue rest) :
    EndsValue (blanks.bytes ++ rest) := by
  obtain ⟨bytes, hblank⟩ := blanks
  cases bytes with
  | nil => exact hrest
  | cons b bytes =>
      intro b' hb'
      cases hb'
      exact .inl (hblank b List.mem_cons_self)

theorem IsNumber.exists_head {bytes : Bytes} (h : IsNumber bytes) :
    ∃ b s, bytes = b :: s ∧ (b = byte '-' ∨ isDigit b = true) := by
  obtain @⟨sign, whole, fraction, exponent, hsign, hwhole, -, -, -⟩ := h
  rcases hsign with rfl | rfl
  · obtain ⟨b, s, rfl⟩ := List.exists_cons_of_ne_nil hwhole.nonempty
    exact ⟨b, _, rfl, .inr (hwhole.all_digits b List.mem_cons_self)⟩
  · exact ⟨_, _, rfl, .inl rfl⟩

end Enrollment.Json
