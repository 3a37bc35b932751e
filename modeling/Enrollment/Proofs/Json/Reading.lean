import Enrollment.Proofs.Json.Skipping

/-!
# Values that are read

A string is read exactly if it spells a text, and then as that text. So what is read of a value
depends on the value alone, and not on the blanks before it or on what follows it.
-/

namespace Enrollment

theorem Utf8.decode?_eq_some_iff {bytes : List UInt8} {s : String} :
    decode? bytes = some s ↔ bytes = encode s := by
  constructor
  · intro hdecode
    simp only [decode?, String.fromUTF8?] at hdecode
    split at hdecode
    next hvalid =>
      obtain rfl := Option.some.inj hdecode
      refine List.toByteArray_inj.mp ?_
      rw [toByteArray_encode, String.toUTF8_eq_toByteArray]
      rfl
    next => cases hdecode
  · rintro rfl
    exact decode?_encode s

namespace Json

variable {rest : Bytes}

/-! ## Strings -/

theorem stringBytes?_pair {h₁ h₂ h₃ h₄ l₁ l₂ l₃ l₄ : UInt8} {high low : Nat}
    (hquad : hexQuad? h₁ h₂ h₃ h₄ = some high) (hquad' : hexQuad? l₁ l₂ l₃ l₄ = some low)
    (hhigh : isHighSurrogate high = true) (hlow : isLowSurrogate low = true) (read rest : Bytes) :
    stringBytes? read (byte '\\' :: byte 'u' :: h₁ :: h₂ :: h₃ :: h₄ ::
        byte '\\' :: byte 'u' :: l₁ :: l₂ :: l₃ :: l₄ :: rest) =
      stringBytes? ((String.utf8EncodeChar (ofSurrogates high low)).reverse ++ read) rest := by
  have hquote : byte '\\' ≠ byte '"' := by decide
  have hnot : isLowSurrogate high = false := by
    simp only [isHighSurrogate, isLowSurrogate, Bool.and_eq_true, decide_eq_true_eq,
      Bool.and_eq_false_iff, decide_eq_false_iff_not] at hhigh ⊢
    omega
  rw [stringBytes?.eq_def]
  simp only [if_neg hquote, hquad, hquad', hnot, hhigh, hlow, if_true, Bool.false_eq_true, if_false,
    and_self]
  rfl

/-- What spells bytes is read as those bytes, whatever follows the closing quote. -/
theorem stringBytes?_of_spells {raw content : Bytes} (h : Spells raw content) (read rest : Bytes) :
    stringBytes? read (raw ++ byte '"' :: rest) = some (read.reverse ++ content, rest) := by
  induction h generalizing read with
  | nil => simpa using stringBytes?_end read rest
  | plain hplain _ ih =>
      rw [List.cons_append, stringBytes?_cons_of_plain _ _ hplain, ih]
      simp
  | @short e c raw content hescape _ ih =>
      have he : e ≠ byte 'u' := by
        rintro rfl
        cases hescape
      rw [List.cons_append, List.cons_append, stringBytes?_short _ _ he hescape, ih]
      simp
  | unit hquad hlow hhigh _ ih =>
      simp only [List.cons_append]
      rw [stringBytes?_unit _ _ hquad hlow hhigh, ih]
      simp
  | pair hquad hquad' hhigh hlow _ ih =>
      simp only [List.cons_append]
      rw [stringBytes?_pair hquad hquad' hhigh hlow, ih]
      simp

/-- Only what spells bytes is read. -/
theorem exists_spells_of_stringBytes? {read s content rest : Bytes}
    (hread : stringBytes? read s = some (content, rest)) :
    ∃ raw spelled, s = raw ++ byte '"' :: rest ∧ Spells raw spelled ∧
      content = read.reverse ++ spelled := by
  -- The quote ends the string, four kinds of parts go on with it, and all else is malformed.
  fun_induction stringBytes? read s with
  | case2 read s =>
      obtain ⟨rfl, rfl⟩ := Prod.mk.inj (Option.some.inj hread)
      exact ⟨[], [], rfl, .nil, (List.append_nil _).symm⟩
  | case7 read h₁ h₂ h₃ h₄ high hquad hnot hhigh b u l₁ l₂ l₃ l₄ s low hquad' hlow _ ih =>
      obtain ⟨rfl, rfl, hlow⟩ := hlow
      obtain ⟨raw, spelled, rfl, hspells, hcontent⟩ := ih hread
      refine ⟨_, _, rfl, .pair hquad hquad' hhigh hlow hspells, ?_⟩
      rw [hcontent]
      simp [stringBytes?.appendChar]
  | case10 read h₁ h₂ h₃ h₄ s unit hquad hlow hhigh _ ih =>
      obtain ⟨raw, spelled, rfl, hspells, rfl⟩ := ih hread
      refine ⟨_, _, rfl, .unit hquad (Bool.eq_false_iff.mpr hlow) (Bool.eq_false_iff.mpr hhigh)
        hspells, ?_⟩
      simp [stringBytes?.appendChar]
  | case12 read e s he c hescape _ ih =>
      obtain ⟨raw, spelled, rfl, hspells, rfl⟩ := ih hread
      exact ⟨_, _, rfl, .short hescape hspells, by simp⟩
  | case15 read b s hend hescape hcontrol ih =>
      obtain ⟨raw, spelled, rfl, hspells, rfl⟩ := ih hread
      exact ⟨_, _, rfl, .plain ⟨hend, hescape, hcontrol⟩ hspells, by simp⟩
  | _ => cases hread

/-- Where a string ends does not depend on who looks: the closing quote comes first. -/
theorem eq_of_stringBody {raw raw' rest' : Bytes} (h : IsStringBody raw) (h' : IsStringBody raw')
    (heq : raw ++ byte '"' :: rest = raw' ++ byte '"' :: rest') : raw = raw' ∧ rest = rest' := by
  have hskip := skipString?_body h rest
  rw [heq, skipString?_body h'] at hskip
  obtain rfl : rest' = rest := Option.some.inj hskip
  exact ⟨List.append_cancel_right heq, rfl⟩

/-- A string is read exactly if it spells a text, and then as that text. -/
theorem string?_eq_some_iff {raw : Bytes} (h : IsStringBody raw) {text : String}
    {rest' : Bytes} : string? (raw ++ byte '"' :: rest) = some (text, rest') ↔
      SpellsText raw text ∧ rest' = rest := by
  unfold SpellsText string?
  constructor
  · intro hread
    obtain ⟨⟨content, left⟩, hbytes, hdecode⟩ := Option.bind_eq_some_iff.mp hread
    obtain ⟨text', htext, hleft⟩ := Option.map_eq_some_iff.mp hdecode
    obtain ⟨rfl, rfl⟩ := Prod.mk.inj hleft
    obtain ⟨raw', spelled, heq, hspells, rfl⟩ := exists_spells_of_stringBytes? hbytes
    obtain ⟨rfl, rfl⟩ := eq_of_stringBody h hspells.isStringBody heq
    exact ⟨Utf8.decode?_eq_some_iff.mp htext ▸ hspells, rfl⟩
  · rintro ⟨hspells, rfl⟩
    rw [stringBytes?_of_spells hspells]
    simp [Utf8.decode?_encode]

/-! ## How a value shows what it is -/

section Heads

variable {value : Bytes}

theorem IsValue.skipBlanks_append (h : IsValue value) (rest : Bytes) :
    skipBlanks (value ++ rest) = value ++ rest := by
  obtain ⟨b, s, rfl, hblank, -⟩ := h.exists_head
  exact skipBlanks_cons hblank (s ++ rest)

/-- A value is a certain word, or starts otherwise. -/
theorem IsValue.eq_word_or_afterWord?_eq_none (h : IsValue value) {word : String}
    (hword : word = "null" ∨ word = "true" ∨ word = "false") :
    value = Utf8.encode word ∨ ∀ rest, afterWord? word (value ++ rest) = none := by
  cases h with
  | word hother =>
      rcases hword with rfl | rfl | rfl <;> rcases hother with rfl | rfl | rfl
      all_goals first
        | exact .inl rfl
        | exact .inr fun _ => rfl
  | number hnumber =>
      obtain ⟨b, s, rfl, hb⟩ := hnumber.exists_head
      refine .inr fun rest => ?_
      rcases hword with rfl | rfl | rfl
      all_goals exact afterWord?_of_ne rfl (ne_of_startsNumber hb (by decide) (by decide)) _
  | text _ | list _ _ | object _ _ =>
      rcases hword with rfl | rfl | rfl <;> exact .inr fun _ => rfl

/-- A value is null, or starts otherwise. -/
theorem IsValue.eq_null_or_after?_eq_none (h : IsValue value) :
    value = Utf8.encode "null" ∨ ∀ rest, after? 'n' (value ++ rest) = none := by
  cases h with
  | word hword =>
      rcases hword with rfl | rfl | rfl
      · exact .inl rfl
      all_goals exact .inr fun _ => rfl
  | number hnumber =>
      obtain ⟨b, s, rfl, hb⟩ := hnumber.exists_head
      exact .inr fun rest => after?_of_ne (ne_of_startsNumber hb (by decide) (by decide)) _
  | text _ | list _ _ | object _ _ => exact .inr fun _ => rfl

/-- A value is a number, or starts otherwise. -/
theorem IsValue.isNumber_or_startsNumber_eq_false (h : IsValue value) :
    IsNumber value ∨ ∀ rest, startsNumber (value ++ rest) = false := by
  cases h with
  | number hnumber => exact .inl hnumber
  | word hword => rcases hword with rfl | rfl | rfl <;> exact .inr fun _ => rfl
  | text _ | list _ _ | object _ _ => exact .inr fun _ => rfl

/-- A value is a string, or starts otherwise. -/
theorem IsValue.eq_quoted_or_after?_eq_none (h : IsValue value) :
    (∃ raw, IsStringBody raw ∧ value = quoted raw) ∨ ∀ rest, after? '"' (value ++ rest) = none := by
  cases h with
  | text hraw => exact .inl ⟨_, hraw, rfl⟩
  | number hnumber =>
      obtain ⟨b, s, rfl, hb⟩ := hnumber.exists_head
      exact .inr fun rest => after?_of_ne (ne_of_startsNumber hb (by decide) (by decide)) _
  | word hword => rcases hword with rfl | rfl | rfl <;> exact .inr fun _ => rfl
  | list _ _ | object _ _ => exact .inr fun _ => rfl

end Heads

/-! ## Values of a kind -/

theorem expected_ne_ok {α : Type} (what : String) (s : Bytes) (a : α) :
    expected what s ≠ .ok a := by
  unfold expected
  split <;> exact fun h => nomatch h

/-- Blanks before a value make no difference. -/
theorem Kind.read_blanks_append (kind : Kind) (blanks : Blanks) (s : Bytes) :
    kind.read (blanks.bytes ++ s) = kind.read s := by
  induction kind with
  | text => simp only [Kind.read, readText, skipBlanks_append]
  | flag => simp only [Kind.read, readFlag, skipBlanks_append]
  | count => simp only [Kind.read, readCount, skipBlanks_append]
  | optional kind ih => simp only [Kind.read, skipBlanks_append, ih]

/-- The value is read as one of a kind, whatever follows it. -/
def Kind.Reads (kind : Kind) (value : Bytes) (x : kind.Carrier) : Prop :=
  ∀ rest, EndsValue rest → kind.read (value ++ rest) = .ok (x, rest)

section Reads

variable {value rest' : Bytes}

theorem orMalformed_eq_ok_iff {α : Type} {read : Option α} {a : α} :
    orMalformed read = .ok a ↔ read = some a := by
  cases read <;> simp [orMalformed]

theorem readText_quoted (raw rest : Bytes) :
    readText (quoted raw ++ rest) = orMalformed (string? (raw ++ byte '"' :: rest)) := by
  simp only [quoted, List.cons_append, List.append_assoc, List.nil_append, readText,
    skipBlanks_cons (show isBlank (byte '"') = false by decide), after?_self]

theorem reads_of_readText (h : IsValue value) {x : String}
    (hread : readText (value ++ rest) = .ok (x, rest')) :
    rest' = rest ∧ Kind.text.Reads value x := by
  rcases h.eq_quoted_or_after?_eq_none with ⟨raw, hraw, rfl⟩ | hother
  · rw [readText_quoted, orMalformed_eq_ok_iff, string?_eq_some_iff hraw] at hread
    obtain ⟨hspells, rfl⟩ := hread
    refine ⟨rfl, fun rest _ => ?_⟩
    rw [Kind.read, readText_quoted, orMalformed_eq_ok_iff, string?_eq_some_iff hraw]
    exact ⟨hspells, rfl⟩
  · simp only [readText, h.skipBlanks_append, hother] at hread
    exact absurd hread (expected_ne_ok _ _ _)

theorem reads_of_readFlag (h : IsValue value) {x : Bool}
    (hread : readFlag (value ++ rest) = .ok (x, rest')) :
    rest' = rest ∧ Kind.flag.Reads value x := by
  have hself (b : Bool) (rest : Bytes) :
      readFlag (Utf8.encode (if b then "true" else "false") ++ rest) = .ok (b, rest) := by
    cases b with
    | true => exact readFlag_write true rest
    | false => exact readFlag_write false rest
  rcases h.eq_word_or_afterWord?_eq_none (.inr (.inl rfl)) with rfl | htrue
  · obtain ⟨rfl, rfl⟩ := Prod.mk.inj (Except.ok.inj ((hself true rest).symm.trans hread))
    exact ⟨rfl, fun rest _ => hself true rest⟩
  rcases h.eq_word_or_afterWord?_eq_none (.inr (.inr rfl)) with rfl | hfalse
  · obtain ⟨rfl, rfl⟩ := Prod.mk.inj (Except.ok.inj ((hself false rest).symm.trans hread))
    exact ⟨rfl, fun rest _ => hself false rest⟩
  · simp only [readFlag, h.skipBlanks_append, htrue, hfalse] at hread
    exact absurd hread (expected_ne_ok _ _ _)

theorem readCount_number {numeral : Numeral} (h : IsNumber value)
    (hnumeral : numeral? (value ++ rest) = some (numeral, rest)) {x : UInt64} :
    readCount (value ++ rest) = .ok (x, rest') ↔
      (∃ n, numeral.toNumber? = some (.count n) ∧ x = UInt64.ofNat n) ∧ rest' = rest := by
  have hstarts : startsNumber (value ++ rest) = true := by
    obtain ⟨b, s, rfl, hb⟩ := h.exists_head
    simpa only [List.cons_append, startsNumber, Bool.or_eq_true, beq_iff_eq] using hb
  have hnumber : readNumber (value ++ rest) =
      (orMalformed numeral.toNumber?).map fun n => (n, rest) := by
    simp only [readNumber, hnumeral]
    rfl
  simp only [readCount, (IsValue.number h).skipBlanks_append, hstarts, if_true, hnumber]
  cases numeral.toNumber? with
  | none => simp [orMalformed, Except.map]
  | some n => cases n <;> simp [orMalformed, Except.map, eq_comm]

theorem reads_of_readCount (h : IsValue value) (hrest : EndsValue rest) {x : UInt64}
    (hread : readCount (value ++ rest) = .ok (x, rest')) :
    rest' = rest ∧ Kind.count.Reads value x := by
  rcases h.isNumber_or_startsNumber_eq_false with hnumber | hother
  · obtain ⟨numeral, hnumeral⟩ := hnumber.exists_numeral?
    obtain ⟨hvalue, rfl⟩ := (readCount_number hnumber (hnumeral rest hrest)).mp hread
    exact ⟨rfl, fun rest hrest =>
      (readCount_number hnumber (hnumeral rest hrest)).mpr ⟨hvalue, rfl⟩⟩
  · simp only [readCount, h.skipBlanks_append, hother, Bool.false_eq_true, if_false] at hread
    exact absurd hread (expected_ne_ok _ _ _)

/-- Null is an optional value that is absent. -/
theorem Kind.reads_null (kind : Kind) : kind.optional.Reads (Utf8.encode "null") none := by
  intro rest _
  have hskip : skipBlanks (Utf8.encode "null" ++ rest) = Utf8.encode "null" ++ rest := rfl
  have hnull : afterWord? "null" (Utf8.encode "null" ++ rest) = some rest :=
    afterWord?_append "null" rest
  simp only [Kind.read, hskip, hnull]
  rfl

/-- What is read of a value is read of it whatever follows it, and it is read to its end. -/
theorem Kind.reads_of_read {kind : Kind} (h : IsValue value) (hrest : EndsValue rest)
    {x : kind.Carrier} (hread : kind.read (value ++ rest) = .ok (x, rest')) :
    rest' = rest ∧ kind.Reads value x := by
  induction kind with
  | text => exact reads_of_readText h hread
  | flag => exact reads_of_readFlag h hread
  | count => exact reads_of_readCount h hrest hread
  | optional kind ih =>
      -- A value of the kind within is read as that kind reads it, unless it is null.
      rcases h.eq_null_or_after?_eq_none with rfl | hother
      · obtain ⟨rfl, rfl⟩ :=
          Prod.mk.inj (Except.ok.inj ((kind.reads_null rest hrest).symm.trans hread))
        exact ⟨rfl, kind.reads_null⟩
      · have hwithin (rest : Bytes) : kind.optional.read (value ++ rest) =
            (kind.read (value ++ rest)).map fun read => (some read.1, read.2) := by
          simp only [Kind.read, h.skipBlanks_append, hother]
        rw [hwithin] at hread
        cases hinner : kind.read (value ++ rest) with
        | error fault => rw [hinner] at hread; cases hread
        | ok read =>
            obtain ⟨y, left⟩ := read
            rw [hinner] at hread
            obtain ⟨rfl, rfl⟩ := Prod.mk.inj (Except.ok.inj hread)
            obtain ⟨rfl, hreads⟩ := ih hinner
            refine ⟨rfl, fun rest hrest => ?_⟩
            rw [hwithin, hreads rest hrest]
            rfl

/-- What a value at the end of an object is read as. -/
def Kind.value? (kind : Kind) (value : Bytes) : Option kind.Carrier :=
  (kind.read (value ++ [byte '}'])).toOption.map (·.1)

theorem Kind.Reads.value?_eq {kind : Kind} {x : kind.Carrier} (h : kind.Reads value x) :
    kind.value? value = some x := by
  rw [value?, h _ (endsValue_cons (.inr (.inr rfl)) [])]
  rfl

/-- What is read of a value depends on the value alone. -/
theorem Kind.toOption_read (kind : Kind) (h : IsValue value) (blanks : Blanks)
    (hrest : EndsValue rest) :
    (kind.read (blanks.bytes ++ (value ++ rest))).toOption = (kind.value? value).map (·, rest) := by
  rw [kind.read_blanks_append]
  cases hread : kind.read (value ++ rest) with
  | ok read =>
      obtain ⟨x, left⟩ := read
      obtain ⟨rfl, hreads⟩ := Kind.reads_of_read h hrest hread
      rw [hreads.value?_eq]
      rfl
  | error fault =>
      cases hread' : kind.read (value ++ [byte '}']) with
      | error fault' => simp only [value?, hread', Except.toOption, Option.map_none]
      | ok read =>
          obtain ⟨-, hreads⟩ := Kind.reads_of_read h (endsValue_cons (.inr (.inr rfl)) []) hread'
          rw [hreads rest hrest] at hread
          cases hread

end Reads

end Json

end Enrollment
