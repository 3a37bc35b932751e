import Enrollment.Proofs.Json.Grammar
import Enrollment.Proofs.Json.Record

/-!
# Values that are skipped

A value of JSON is skipped to its end, whatever it is made of and however deep it is nested. A
number or a word ends where something follows that ends a value; every other value shows its end
itself. Skipping keeps the containers that it is in, so that the induction over a value is for any
containers around it: it leads from before the value to after it, with enough steps left.
-/

namespace Enrollment.Json

variable {rest : Bytes}

/-! ## Blanks and heads -/

/-- Skipping is over after a value that no container is around. -/
theorem skipFrom?_done (fuel : Nat) (s : Bytes) : skipFrom? fuel true [] s = some s := by
  rw [skipFrom?]

theorem skipBlanks_append (blanks : Blanks) (s : Bytes) :
    skipBlanks (blanks.bytes ++ s) = skipBlanks s := by
  unfold skipBlanks
  exact List.dropWhile_append_of_pos blanks.all_blank

theorem after?_of_ne {c : Char} {b : UInt8} (hb : b ≠ byte c) (s : Bytes) :
    after? c (b :: s) = none :=
  if_neg hb

/-- What follows blanks, where it starts with no blank. -/
theorem skipBlanks_append_cons (blanks : Blanks) {b : UInt8} (hb : isBlank b = false) (s : Bytes) :
    skipBlanks (blanks.bytes ++ b :: s) = b :: s := by
  rw [skipBlanks_append, skipBlanks_cons hb]

/-- What a number starts with is nothing that anything else starts with. -/
theorem ne_of_startsNumber {b other : UInt8} (hb : b = byte '-' ∨ isDigit b = true)
    (hdash : other ≠ byte '-') (hother : isDigit other = false) : b ≠ other := by
  rcases hb with rfl | hdigit
  · exact hdash.symm
  · exact ne_of_isDigit hdigit hother

theorem isBlank_of_startsNumber {b : UInt8} (hb : b = byte '-' ∨ isDigit b = true) :
    isBlank b = false := by
  rcases hb with rfl | hdigit
  · decide
  · exact isBlank_of_isDigit hdigit

/-! ## Strings -/

theorem skipString?_body {raw : Bytes} (h : IsStringBody raw) (rest : Bytes) :
    skipString? (raw ++ byte '"' :: rest) = some rest := by
  have hquote : byte '\\' ≠ byte '"' := by decide
  induction h with
  | nil => rw [List.nil_append, skipString?.eq_def]; rfl
  | plain hplain _ ih =>
      obtain ⟨hend, hescape, hcontrol⟩ := hplain
      rw [List.cons_append, skipString?.eq_def]
      simp only [if_neg hend, if_neg hescape, if_neg hcontrol, ih]
  | @short e c raw hescape _ ih =>
      have he : e ≠ byte 'u' := by
        rintro rfl
        cases hescape
      rw [List.cons_append, List.cons_append, skipString?.eq_def]
      simp only [if_neg hquote, if_neg he, hescape, Option.isSome_some, if_true, ih]
  | unit hquad _ ih =>
      simp only [List.cons_append]
      rw [skipString?.eq_def]
      simp only [if_neg hquote, hquad, Option.isSome_some, if_true, ih]

/-! ## Numbers -/

/-- What follows is no further digit. -/
def StopsDigits (rest : Bytes) : Prop :=
  ∀ b ∈ rest.head?, isDigit b = false

theorem stopsDigits_cons {b : UInt8} (hb : isDigit b = false) (s : Bytes) :
    StopsDigits (b :: s) := by
  intro b' hb'
  cases hb'
  exact hb

theorem someDigits?_append {ds : Bytes} (h : IsDigits ds) (hrest : StopsDigits rest) :
    someDigits? (ds ++ rest) = some (ds.map (fun b => b.toNat - '0'.toNat), rest) := by
  have hdigits : digits (ds ++ rest) = (ds.map (fun b => b.toNat - '0'.toNat), rest) := by
    have hstop : rest.takeWhile isDigit = [] ∧ rest.dropWhile isDigit = rest := by
      cases rest with
      | nil => exact ⟨rfl, rfl⟩
      | cons b s => simp [hrest b rfl]
    rw [digits, List.takeWhile_append_of_pos h.all_digits,
      List.dropWhile_append_of_pos h.all_digits, hstop.1, hstop.2, List.append_nil]
  have hnonempty : (ds.map fun b : UInt8 => b.toNat - '0'.toNat).isEmpty = false := by
    simp [h.nonempty]
  simp only [someDigits?, hdigits, hnonempty, Bool.false_eq_true, if_false]

theorem wholePart?_append {ds : Bytes} (h : IsDigits ds)
    (hleading : ds.length = 1 ∨ ds.head? ≠ some (byte '0')) (hrest : StopsDigits rest) :
    wholePart? (ds ++ rest) = some (ds.map (fun b => b.toNat - '0'.toNat), rest) := by
  have hwhole : ((ds.map fun b : UInt8 => b.toNat - '0'.toNat).length == 1 ||
      (ds.map fun b : UInt8 => b.toNat - '0'.toNat).head? != some 0) = true := by
    rw [Bool.or_eq_true, List.length_map, beq_iff_eq, bne_iff_ne, List.head?_map]
    refine hleading.imp_right fun hhead hzero => hhead ?_
    obtain ⟨b, hb, hvalue⟩ := Option.map_eq_some_iff.mp hzero
    have hdigit := h.all_digits b (List.mem_of_head? hb)
    rw [isDigit, Bool.and_eq_true, decide_eq_true_eq, decide_eq_true_eq,
      UInt8.le_iff_toNat_le, UInt8.le_iff_toNat_le] at hdigit
    -- A digit of the value zero is the digit zero.
    have hb0 : b = byte '0' := by
      refine UInt8.toNat_inj.mp ?_
      have hlow : (byte '0').toNat = '0'.toNat := by decide
      omega
    rw [hb, hb0]
  simp only [wholePart?, someDigits?_append h hrest, Option.filter, hwhole, if_true]

/-- What is read of the decimals does not depend on what follows them. -/
theorem exists_decimalPart? {fraction : Bytes} (h : IsFraction fraction) :
    ∃ decimals, ∀ rest, StopsDigits rest → after? '.' rest = none →
      decimalPart? (fraction ++ rest) = some (decimals, rest) := by
  cases h with
  | none =>
      refine ⟨none, fun rest _ hpoint => ?_⟩
      simp only [List.nil_append, decimalPart?, hpoint]
  | @point ds hdigits =>
      refine ⟨some (ds.map fun b => b.toNat - '0'.toNat), fun rest hrest _ => ?_⟩
      simp only [List.cons_append, decimalPart?, after?_self, someDigits?_append hdigits hrest,
        Option.map_some]

theorem EndsValue.after?_eq_none (hrest : EndsValue rest) {c : Char}
    (hc : isBlank (byte c) = false ∧ byte c ≠ byte ',' ∧ byte c ≠ byte ']' ∧ byte c ≠ byte '}') :
    after? c rest = none := by
  cases rest with
  | nil => rfl
  | cons b s =>
      refine after?_of_ne ?_ s
      rintro rfl
      obtain ⟨hblank, hcomma, hbracket, hbrace⟩ := hc
      rcases hrest _ rfl with h | h | h | h
      · rw [hblank] at h
        cases h
      · exact hcomma h
      · exact hbracket h
      · exact hbrace h

theorem EndsValue.stopsDigits (hrest : EndsValue rest) : StopsDigits rest := by
  intro b hb
  rw [Bool.eq_false_iff]
  intro hdigit
  rcases hrest b hb with hblank | rfl | rfl | rfl
  · rw [isBlank_of_isDigit hdigit] at hblank
    cases hblank
  all_goals cases hdigit

/-- What is read of the exponent does not depend on what follows it. -/
theorem exists_exponentPart? {exponent : Bytes} (h : IsExponent exponent) :
    ∃ power, ∀ rest, EndsValue rest →
      exponentPart? (exponent ++ rest) = some (power, rest) := by
  cases h with
  | none =>
      refine ⟨none, fun rest hrest => ?_⟩
      have he : after? 'e' rest = none := hrest.after?_eq_none (by decide)
      have hE : after? 'E' rest = none := hrest.after?_eq_none (by decide)
      simp only [List.nil_append, exponentPart?, he, hE, Option.or_none]
  | @power e sign ds he hsign hdigits =>
      refine ⟨some ((after? '-' (sign ++ ds)).isSome, ds.map fun b => b.toNat - '0'.toNat),
        fun rest hrest => ?_⟩
      have hmark : (after? 'e' (e :: (sign ++ ds ++ rest))).or
          (after? 'E' (e :: (sign ++ ds ++ rest))) = some (sign ++ ds ++ rest) := by
        rcases he with rfl | rfl <;> rfl
      obtain ⟨b, s, rfl⟩ := List.exists_cons_of_ne_nil hdigits.nonempty
      have hdigit := hdigits.all_digits b List.mem_cons_self
      have hminus (s : Bytes) : after? '-' (b :: s) = none :=
        after?_of_ne (ne_of_isDigit hdigit (by decide)) s
      have hplus (s : Bytes) : after? '+' (b :: s) = none :=
        after?_of_ne (ne_of_isDigit hdigit (by decide)) s
      have hread := someDigits?_append hdigits hrest.stopsDigits
      rw [List.cons_append, exponentPart?, hmark]
      rcases hsign with rfl | rfl | rfl
      · simp only [List.nil_append, List.cons_append] at hread ⊢
        simp only [hminus, hplus, Option.or_none, Option.getD_none, hread]
        rfl
      · simp only [List.nil_append, List.cons_append] at hread ⊢
        simp only [after?_self, Option.some_or, Option.getD_some, hread]
        rfl
      · have hother (s : Bytes) : after? '-' (byte '+' :: s) = none := rfl
        simp only [List.nil_append, List.cons_append] at hread ⊢
        simp only [hother, after?_self, Option.none_or, Option.getD_some, hread]
        rfl

theorem stopsDigits_exponent {exponent : Bytes} (h : IsExponent exponent)
    (hrest : EndsValue rest) :
    StopsDigits (exponent ++ rest) ∧ after? '.' (exponent ++ rest) = none := by
  cases h with
  | none => exact ⟨hrest.stopsDigits, hrest.after?_eq_none (by decide)⟩
  | power he _ _ =>
      rcases he with rfl | rfl
      · exact ⟨stopsDigits_cons (by decide) _, rfl⟩
      · exact ⟨stopsDigits_cons (by decide) _, rfl⟩

theorem stopsDigits_fraction {fraction : Bytes} (h : IsFraction fraction)
    (hrest : StopsDigits rest) : StopsDigits (fraction ++ rest) := by
  cases h with
  | none => exact hrest
  | point _ => exact stopsDigits_cons (by decide) _

/-- A number is read to its end, and as the same number whatever follows it. -/
theorem IsNumber.exists_numeral? {bytes : Bytes} (h : IsNumber bytes) :
    ∃ n, ∀ rest, EndsValue rest → numeral? (bytes ++ rest) = some (n, rest) := by
  obtain @⟨sign, whole, fraction, exponent, hsign, hwhole, hleading, hfraction, hexponent⟩ := h
  obtain ⟨decimals, hdecimals⟩ := exists_decimalPart? hfraction
  obtain ⟨power, hpower⟩ := exists_exponentPart? hexponent
  refine ⟨⟨sign == [byte '-'], whole.map (fun b => b.toNat - '0'.toNat), decimals.getD [], power,
    decimals.isSome || power.isSome⟩, fun rest hrest => ?_⟩
  obtain ⟨hstop, hpoint⟩ := stopsDigits_exponent hexponent hrest
  have hwhole' := wholePart?_append hwhole hleading (stopsDigits_fraction hfraction hstop)
  have hdecimals' := hdecimals _ hstop hpoint
  obtain ⟨b, s, rfl⟩ := List.exists_cons_of_ne_nil hwhole.nonempty
  have hminus (s : Bytes) : after? '-' (b :: s) = none :=
    after?_of_ne (ne_of_isDigit (hwhole.all_digits b List.mem_cons_self) (by decide)) s
  simp only [List.append_assoc, List.cons_append] at hwhole' ⊢
  rcases hsign with rfl | rfl
  · simp only [List.nil_append, numeral?, hminus, Option.isSome_none, Option.getD_none, hwhole',
      hdecimals', hpower rest hrest, bind, Option.bind]
    rfl
  · simp only [List.cons_append, List.nil_append, numeral?, after?_self, Option.isSome_some,
      Option.getD_some, hwhole', hdecimals', hpower rest hrest, bind, Option.bind]
    rfl

/-! ## Values -/

/-- How far skipping has come: whether a value has just ended, the containers around, the innermost
first, and the bytes that are left. -/
structure Skip where
  ended : Bool
  around : List Container
  left : Bytes

namespace Skip

/-- Skipping that has come so far comes farther, and has enough steps left if it had. -/
def LeadsTo (a b : Skip) : Prop :=
  ∀ fuel, a.left.length < fuel → ∃ fuel', b.left.length < fuel' ∧
    skipFrom? fuel a.ended a.around a.left = skipFrom? fuel' b.ended b.around b.left

variable {a b c : Skip}

theorem LeadsTo.trans (h : a.LeadsTo b) (h' : b.LeadsTo c) : a.LeadsTo c := by
  intro fuel hfuel
  obtain ⟨fuel₁, hfuel₁, heq⟩ := h fuel hfuel
  obtain ⟨fuel₂, hfuel₂, heq'⟩ := h' fuel₁ hfuel₁
  exact ⟨fuel₂, hfuel₂, heq.trans heq'⟩

/-- One step, which reads at least the byte that stands after blanks. -/
theorem LeadsTo.of_head {blanks : Blanks} {head : UInt8} {s : Bytes} {ended ended' : Bool}
    {around around' : List Container} (hless : rest.length ≤ s.length)
    (hstep : ∀ fuel, skipFrom? (fuel + 1) ended around (blanks.bytes ++ head :: s) =
      skipFrom? fuel ended' around' rest) :
    LeadsTo ⟨ended, around, blanks.bytes ++ head :: s⟩ ⟨ended', around', rest⟩ := by
  intro fuel hfuel
  rw [List.length_append, List.length_cons] at hfuel
  obtain ⟨fuel, rfl⟩ := Nat.exists_eq_add_of_lt (Nat.zero_lt_of_lt hfuel)
  refine ⟨0 + fuel, ?_, hstep (0 + fuel)⟩
  change rest.length < 0 + fuel
  omega

end Skip

open Skip (LeadsTo)

variable {around : List Container} {blanks : Blanks} {s : Bytes}

theorem leadsTo_scalar {value : Bytes} {b : UInt8} (hvalue : value = b :: s)
    (hblank : isBlank b = false) (hlist : b ≠ byte '[') (hobject : b ≠ byte '{')
    (hskip : skipScalar? (value ++ rest) = some rest) :
    LeadsTo ⟨false, around, blanks.bytes ++ (value ++ rest)⟩ ⟨true, around, rest⟩ := by
  subst hvalue
  rw [List.cons_append] at hskip ⊢
  refine .of_head (by simp) fun fuel => ?_
  simp only [skipFrom?, skipBlanks_append_cons blanks hblank, after?_of_ne hlist,
    after?_of_ne hobject, hskip]

theorem leadsTo_emptyList (hend : after? ']' (skipBlanks s) = some rest)
    (hless : rest.length ≤ s.length) :
    LeadsTo ⟨false, around, blanks.bytes ++ byte '[' :: s⟩ ⟨true, around, rest⟩ := by
  refine .of_head hless fun fuel => ?_
  simp only [skipFrom?, skipBlanks_append_cons blanks (show isBlank (byte '[') = false by decide),
    after?_self, hend]

theorem leadsTo_list (hopen : after? ']' (skipBlanks s) = none) :
    LeadsTo ⟨false, around, blanks.bytes ++ byte '[' :: s⟩ ⟨false, .list :: around, s⟩ := by
  refine .of_head (Nat.le_refl _) fun fuel => ?_
  simp only [skipFrom?, skipBlanks_append_cons blanks (show isBlank (byte '[') = false by decide),
    after?_self, hopen]

theorem leadsTo_nextItem :
    LeadsTo ⟨true, .list :: around, blanks.bytes ++ byte ',' :: s⟩ ⟨false, .list :: around, s⟩ := by
  refine .of_head (Nat.le_refl _) fun fuel => ?_
  have hother : after? ']' (byte ',' :: s) = none := rfl
  simp only [skipFrom?, skipBlanks_append_cons blanks (show isBlank (byte ',') = false by decide),
    hother, after?_self]

theorem leadsTo_endOfList :
    LeadsTo ⟨true, .list :: around, blanks.bytes ++ byte ']' :: s⟩ ⟨true, around, s⟩ := by
  refine .of_head (Nat.le_refl _) fun fuel => ?_
  simp only [skipFrom?, skipBlanks_append_cons blanks (show isBlank (byte ']') = false by decide),
    after?_self]

/-! ## Objects -/

/-- A name with the colon after it is skipped. -/
theorem skipName?_key {key : Bytes} (hkey : IsStringBody key) (before after : Blanks)
    (rest : Bytes) : skipName? (before.bytes ++ (quoted key ++ (after.bytes ++ byte ':' :: rest))) =
      some rest := by
  have hquote : isBlank (byte '"') = false := by decide
  have hcolon : isBlank (byte ':') = false := by decide
  simp only [skipName?, quoted, List.cons_append, List.append_assoc, List.nil_append,
    skipBlanks_append_cons before hquote, after?_self, bind, Option.bind, skipString?_body hkey,
    skipBlanks_append_cons after hcolon]

theorem leadsTo_emptyObject (hend : after? '}' (skipBlanks s) = some rest)
    (hless : rest.length ≤ s.length) :
    LeadsTo ⟨false, around, blanks.bytes ++ byte '{' :: s⟩ ⟨true, around, rest⟩ := by
  have hother : after? '[' (byte '{' :: s) = none := rfl
  refine .of_head hless fun fuel => ?_
  simp only [skipFrom?, skipBlanks_append_cons blanks (show isBlank (byte '{') = false by decide),
    hother, after?_self, hend]

theorem leadsTo_object (hopen : after? '}' (skipBlanks s) = none) (hname : skipName? s = some rest)
    (hless : rest.length ≤ s.length) :
    LeadsTo ⟨false, around, blanks.bytes ++ byte '{' :: s⟩ ⟨false, .object :: around, rest⟩ := by
  have hother : after? '[' (byte '{' :: s) = none := rfl
  refine .of_head hless fun fuel => ?_
  simp only [skipFrom?, skipBlanks_append_cons blanks (show isBlank (byte '{') = false by decide),
    hother, after?_self, hopen, hname]

theorem leadsTo_nextEntry (hname : skipName? s = some rest) (hless : rest.length ≤ s.length) :
    LeadsTo ⟨true, .object :: around, blanks.bytes ++ byte ',' :: s⟩
      ⟨false, .object :: around, rest⟩ := by
  have hother : after? '}' (byte ',' :: s) = none := rfl
  refine .of_head hless fun fuel => ?_
  simp only [skipFrom?, skipBlanks_append_cons blanks (show isBlank (byte ',') = false by decide),
    hother, after?_self, hname]

theorem leadsTo_endOfObject :
    LeadsTo ⟨true, .object :: around, blanks.bytes ++ byte '}' :: s⟩ ⟨true, around, s⟩ := by
  refine .of_head (Nat.le_refl _) fun fuel => ?_
  simp only [skipFrom?, skipBlanks_append_cons blanks (show isBlank (byte '}') = false by decide),
    after?_self]

/-! ## Any value -/

/-- From before a value to after it, whatever is around it and whatever follows. -/
def Skippable (value : Bytes) : Prop :=
  ∀ (blanks : Blanks) (around : List Container) (rest : Bytes), EndsValue rest →
    LeadsTo ⟨false, around, blanks.bytes ++ (value ++ rest)⟩ ⟨true, around, rest⟩

/-- A value starts with no blank, and not as the end of a list. -/
theorem IsValue.exists_head {value : Bytes} (h : IsValue value) :
    ∃ b s, value = b :: s ∧ isBlank b = false ∧ b ≠ byte ']' := by
  cases h with
  | word hword =>
      rcases hword with rfl | rfl | rfl
      · exact ⟨byte 'n', _, rfl, by decide, by decide⟩
      · exact ⟨byte 't', _, rfl, by decide, by decide⟩
      · exact ⟨byte 'f', _, rfl, by decide, by decide⟩
  | number hnumber =>
      obtain ⟨b, s, rfl, hb⟩ := hnumber.exists_head
      exact ⟨b, s, rfl, isBlank_of_startsNumber hb, ne_of_startsNumber hb (by decide) (by decide)⟩
  | text _ => exact ⟨_, _, rfl, by decide, by decide⟩
  | list _ _ => exact ⟨_, _, rfl, by decide, by decide⟩
  | object _ _ => exact ⟨_, _, rfl, by decide, by decide⟩

theorem afterWord?_of_ne {word : String} {first b : UInt8} {others : Bytes}
    (hword : Utf8.encode word = first :: others) (hb : b ≠ first) (s : Bytes) :
    afterWord? word (b :: s) = none := by
  have hbeq : (first == b) = false := beq_false_of_ne hb.symm
  simp only [afterWord?, hword, List.isPrefixOf, hbeq, Bool.false_and, Bool.false_eq_true, if_false]

theorem skipScalar?_word {word : String} (hword : word = "null" ∨ word = "true" ∨ word = "false")
    (rest : Bytes) : skipScalar? (Utf8.encode word ++ rest) = some rest := by
  have hself : afterWord? word (Utf8.encode word ++ rest) = some rest := afterWord?_append word rest
  have hquote : after? '"' (Utf8.encode word ++ rest) = none := by
    rcases hword with rfl | rfl | rfl <;> rfl
  rw [skipScalar?, hquote]
  rcases hword with rfl | rfl | rfl
  · simp only [hself, Option.some_or]
  · have hnull : afterWord? "null" (Utf8.encode "true" ++ rest) = none := rfl
    simp only [hnull, hself, Option.none_or, Option.some_or]
  · have hnull : afterWord? "null" (Utf8.encode "false" ++ rest) = none := rfl
    have htrue : afterWord? "true" (Utf8.encode "false" ++ rest) = none := rfl
    simp only [hnull, htrue, hself, Option.none_or, Option.some_or]

theorem skippable_word {word : String} (hword : word = "null" ∨ word = "true" ∨ word = "false") :
    Skippable (Utf8.encode word) := by
  intro blanks around rest _
  have hskip := skipScalar?_word hword rest
  rcases hword with rfl | rfl | rfl
  · exact leadsTo_scalar (b := byte 'n') rfl (by decide) (by decide) (by decide) hskip
  · exact leadsTo_scalar (b := byte 't') rfl (by decide) (by decide) (by decide) hskip
  · exact leadsTo_scalar (b := byte 'f') rfl (by decide) (by decide) (by decide) hskip

theorem skippable_number {bytes : Bytes} (h : IsNumber bytes) : Skippable bytes := by
  intro blanks around rest hrest
  obtain ⟨n, hn⟩ := h.exists_numeral?
  have hnumeral := hn rest hrest
  obtain ⟨b, s, rfl, hb⟩ := h.exists_head
  have hne (other : UInt8) (hdash : other ≠ byte '-') (hother : isDigit other = false) :
      b ≠ other := ne_of_startsNumber hb hdash hother
  refine leadsTo_scalar rfl (isBlank_of_startsNumber hb) (hne _ (by decide) (by decide))
    (hne _ (by decide) (by decide)) ?_
  have hnull : afterWord? "null" (b :: (s ++ rest)) = none :=
    afterWord?_of_ne rfl (hne _ (by decide) (by decide)) _
  have htrue : afterWord? "true" (b :: (s ++ rest)) = none :=
    afterWord?_of_ne rfl (hne _ (by decide) (by decide)) _
  have hfalse : afterWord? "false" (b :: (s ++ rest)) = none :=
    afterWord?_of_ne rfl (hne _ (by decide) (by decide)) _
  rw [List.cons_append] at hnumeral ⊢
  simp only [skipScalar?, after?_of_ne (hne (byte '"') (by decide) (by decide)), hnull, htrue,
    hfalse, hnumeral, Option.none_or, Option.map_some]

theorem skippable_text {raw : Bytes} (h : IsStringBody raw) : Skippable (quoted raw) := by
  intro blanks around rest _
  refine leadsTo_scalar rfl (by decide) (by decide) (by decide) ?_
  simp only [quoted, List.cons_append, List.append_assoc, List.nil_append, skipScalar?, after?_self,
    skipString?_body h]

/-- Elements of a list, from before the first one to after the bracket. -/
theorem leadsTo_items {items : List Item} (hnonempty : items ≠ [])
    (hitems : ∀ item ∈ items, Skippable item.value) (blanks : Blanks) (around : List Container)
    (rest : Bytes) :
    LeadsTo
      ⟨false, .list :: around,
        blanks.bytes ++ (commaSeparated (items.map Item.bytes) ++ byte ']' :: rest)⟩
      ⟨true, around, rest⟩ := by
  induction items generalizing blanks with
  | nil => exact absurd rfl hnonempty
  | cons item items ih =>
      have hvalue (rest : Bytes) (hrest : EndsValue rest) :=
        hitems item List.mem_cons_self (blanks.append item.before) (.list :: around)
          (item.after.bytes ++ rest) (hrest.append item.after)
      simp only [Blanks.append, List.append_assoc] at hvalue
      cases items with
      | nil =>
          simp only [List.map_cons, List.map_nil, commaSeparated, List.flatMap_nil, List.append_nil,
            Item.bytes, List.append_assoc]
          exact (hvalue _ (endsValue_cons (by decide) rest)).trans leadsTo_endOfList
      | cons next items =>
          have htail := ih (List.cons_ne_nil _ _)
            (fun item' hitem' => hitems item' (List.mem_cons_of_mem _ hitem')) .none
          simp only [Blanks.none, List.nil_append, List.map_cons] at htail
          simp only [List.map_cons, commaSeparated_cons_cons, Item.bytes, List.append_assoc,
            List.cons_append] at htail ⊢
          exact (hvalue _ (endsValue_cons (by decide) _)).trans (leadsTo_nextItem.trans htail)

theorem skippable_list (within : Blanks) {items : List Item}
    (hitems : ∀ item ∈ items, IsValue item.value) (hskip : ∀ item ∈ items, Skippable item.value) :
    Skippable (listBytes within items) := by
  intro blanks around rest _
  simp only [listBytes, List.cons_append, List.append_assoc, List.nil_append]
  cases items with
  | nil =>
      refine leadsTo_emptyList ?_ (by simp; omega)
      exact (congrArg (after? ']') (skipBlanks_append_cons within (by decide) rest)).trans
        (after?_self ']' rest)
  | cons item items =>
      -- The bracket opens a list with elements, since the first one does not start as its end.
      obtain ⟨b, s, hvalue, hblank, hb⟩ := (hitems item List.mem_cons_self).exists_head
      refine (leadsTo_list ?_).trans (leadsTo_items (List.cons_ne_nil _ _) hskip within around rest)
      simp only [List.map_cons, commaSeparated, Item.bytes, hvalue, List.append_assoc,
        List.cons_append, skipBlanks_append, skipBlanks_cons hblank, after?_of_ne hb]

theorem skipName?_entry (e : Entry) (blanks : Blanks) (rest : Bytes) :
    skipName? (blanks.bytes ++ (e.bytes ++ rest)) = some (e.item.bytes ++ rest) := by
  have hname := skipName?_key e.isStringBody (blanks.append e.beforeKey) e.afterKey
    (e.item.bytes ++ rest)
  simp only [Blanks.append, List.append_assoc] at hname
  simpa only [Entry.bytes, List.append_assoc, List.cons_append] using hname

/-- Members of an object, from after the name of the first one to after the brace. -/
theorem leadsTo_entries (e : Entry) {entries : List Entry} (he : Skippable e.item.value)
    (hentries : ∀ e ∈ entries, Skippable e.item.value) (around : List Container) (rest : Bytes) :
    LeadsTo
      ⟨false, .object :: around, e.item.bytes ++
        ((entries.map Entry.bytes).flatMap (byte ',' :: ·) ++ byte '}' :: rest)⟩
      ⟨true, around, rest⟩ := by
  induction entries generalizing e with
  | nil =>
      simp only [List.map_nil, List.flatMap_nil, List.nil_append, Item.bytes, List.append_assoc]
      exact (he e.item.before _ _ ((endsValue_cons (by decide) rest).append e.item.after)).trans
        leadsTo_endOfObject
  | cons next entries ih =>
      have htail := ih next (hentries next List.mem_cons_self)
        fun e he => hentries e (List.mem_cons_of_mem next he)
      have hname := skipName?_entry next .none
        ((entries.map Entry.bytes).flatMap (byte ',' :: ·) ++ byte '}' :: rest)
      simp only [Blanks.none, List.nil_append] at hname
      simp only [List.map_cons, List.flatMap_cons, List.cons_append, List.append_assoc, Item.bytes]
      refine (he e.item.before _ _ ((endsValue_cons (by decide) _).append e.item.after)).trans
        ((leadsTo_nextEntry hname ?_).trans htail)
      simp only [Entry.bytes, List.length_append, List.length_cons]
      omega

theorem skippable_object (within : Blanks) {entries : List Entry}
    (hskip : ∀ e ∈ entries, Skippable e.item.value) : Skippable (objectBytes within entries) := by
  intro blanks around rest _
  simp only [objectBytes, List.cons_append, List.append_assoc, List.nil_append]
  cases entries with
  | nil =>
      refine leadsTo_emptyObject ?_ (by simp; omega)
      exact (congrArg (after? '}') (skipBlanks_append_cons within (by decide) rest)).trans
        (after?_self '}' rest)
  | cons e entries =>
      have htail := leadsTo_entries e (hskip e List.mem_cons_self)
        (fun e' he' => hskip e' (List.mem_cons_of_mem e he')) around rest
      simp only [List.map_cons, commaSeparated, List.append_assoc]
      refine (leadsTo_object ?_ (skipName?_entry e within _) ?_).trans htail
      · simp only [Entry.bytes, quoted, List.append_assoc, List.cons_append, skipBlanks_append,
          skipBlanks_cons (show isBlank (byte '"') = false by decide)]
        rfl
      · simp only [Entry.bytes, List.length_append, List.length_cons]
        omega

theorem IsValue.skippable {value : Bytes} (h : IsValue value) : Skippable value := by
  induction h with
  | word hword => exact skippable_word hword
  | number hnumber => exact skippable_number hnumber
  | text hraw => exact skippable_text hraw
  | list within hitems ih => exact skippable_list within hitems ih
  | object within _ ih => exact skippable_object within ih

/-- Any value is skipped to its end, whatever blanks are before it and whatever follows it. -/
theorem skipValue?_append {value : Bytes} (h : IsValue value) (blanks : Blanks)
    (hrest : EndsValue rest) : skipValue? (blanks.bytes ++ (value ++ rest)) = some rest := by
  obtain ⟨fuel, -, hskip⟩ := h.skippable blanks [] rest hrest _ (Nat.lt_succ_self _)
  exact hskip.trans (skipFrom?_done fuel rest)

end Enrollment.Json
