import Enrollment.Proofs.Toml.Scalar

/-!
# Values of TOML, written and read

A plain value is read back from its text by the reader of all values: what follows the text is left,
and what stands between the values of a list is passed over.
-/

namespace Enrollment.Toml

open Text (Stops stops_cons)

/-! ## What is passed over -/

/-- What may stand in front of a value, a key or a header without being a part of it. -/
def isPassedOver (c : Char) : Bool :=
  isBlank c || c == '#' || isLineEnd c

section PassedOver

variable {cs : List Char}

theorem skipBlanks_eq_self (hcs : Stops isPassedOver cs) : skipBlanks cs = cs := by
  cases cs with
  | nil => rfl
  | cons c cs =>
      have hc := hcs c rfl
      simp only [isPassedOver, Bool.or_eq_false_iff] at hc
      simp [skipBlanks, hc.1.1]

theorem skipComment_eq_self (hcs : Stops isPassedOver cs) : skipComment cs = cs := by
  unfold skipComment
  split
  next => cases hcs '#' rfl
  next => rfl

theorem afterNewline?_of_stops (hcs : Stops isPassedOver cs) : afterNewline? cs = none :=
  afterNewline?_eq_none fun c hc => (Bool.or_eq_false_iff.mp (hcs c hc)).2

theorem skipLines_eq_self (hcs : Stops isPassedOver cs) : skipLines cs = cs := by
  cases cs with
  | nil => rfl
  | cons c cs =>
      simp [skipLines, skipLines.go, skipBlanks_eq_self hcs, skipComment_eq_self hcs,
        afterNewline?_of_stops hcs]

theorem skipLines_blank (hcs : Stops isPassedOver cs) : skipLines (' ' :: cs) = cs := by
  have hblank : skipBlanks (' ' :: cs) = skipBlanks cs := rfl
  simp [skipLines, skipLines.go, hblank, skipBlanks_eq_self hcs, skipComment_eq_self hcs,
    afterNewline?_of_stops hcs]

theorem afterLine?_eq_none (hcs : Stops isPassedOver cs) (hne : cs ≠ []) :
    afterLine? cs = none := by
  simp [afterLine?, skipBlanks_eq_self hcs, skipComment_eq_self hcs, afterNewline?_of_stops hcs,
    hne]

end PassedOver

/-! ## Values -/

/-- What a written value starts with. -/
def startsValue (c : Char) : Bool :=
  c == '"' || c == '\'' || c == '[' || c.isAlphanum

theorem isPassedOver_of_startsValue {c : Char} (hc : startsValue c = true) :
    isPassedOver c = false := by
  rw [Bool.eq_false_iff]
  intro hpassed
  simp only [isPassedOver, isBlank, isLineEnd, Bool.or_eq_true, beq_iff_eq] at hpassed
  rcases hpassed with ((rfl | rfl) | rfl) | rfl | rfl <;> cases hc

/-- The text of a value, from which a reader gives back the value. -/
structure Carries (read : Reader Value) (v : Value) (cs : List Char) : Prop where
  written : writeValue? v = some cs
  starts : ∃ c ds, cs = c :: ds ∧ startsValue c = true
  reads : ∀ rest, EndsValue rest → read (cs ++ rest) = some (v, rest)

namespace Carries

variable {read : Reader Value} {v : Value} {cs : List Char}

theorem stops (hcarries : Carries read v cs) (rest : List Char) :
    Stops isPassedOver (cs ++ rest) := by
  obtain ⟨c, ds, rfl, hc⟩ := hcarries.starts
  exact stops_cons (isPassedOver_of_startsValue hc)

/-- The text of a value is no end of a list. -/
theorem after?_bracket (hcarries : Carries read v cs) (rest : List Char) :
    after? ']' (cs ++ rest) = none := by
  obtain ⟨c, ds, rfl, hc⟩ := hcarries.starts
  refine if_neg ?_
  rintro rfl
  cases hc

end Carries

/-- A value that can be written: a text, a number without a sign that fits in a signed word, a truth
value, or a list of such values; with at most so many lists in one another. -/
inductive Value.IsPlain : Nat → Value → Prop
  | text {depth : Nat} (s : String) : IsPlain depth (.text s)
  | integer {depth n : Nat} (hn : n < signedSize) : IsPlain depth (.integer n)
  | flag {depth : Nat} (b : Bool) : IsPlain depth (.flag b)
  | list {depth : Nat} {values : List Value} (hvalues : ∀ v ∈ values, IsPlain depth v) :
      IsPlain (depth + 1) (.list values)

theorem EndsValue.stops_quotes {rest : List Char} (hrest : EndsValue rest) :
    Stops (fun c => c == '"' || c == '\'') rest :=
  hrest.stops fun c hc => by
    rcases endsValue_cases hc with rfl | rfl | rfl <;> rfl

theorem endsValue_bracket (rest : List Char) : EndsValue (']' :: rest) :=
  ⟨_, _, rfl, rfl⟩

theorem endsValue_comma (rest : List Char) : EndsValue (',' :: rest) :=
  ⟨_, _, rfl, rfl⟩

theorem endsValue_newline (rest : List Char) : EndsValue ('\n' :: rest) :=
  ⟨_, _, rfl, rfl⟩

theorem after?_self (c : Char) (cs : List Char) : after? c (c :: cs) = some cs :=
  if_pos rfl

/-- The values of a list are read back one by one, with a blank after each comma. -/
theorem exists_writeValues {read : Reader Value} {values : List Value}
    (hvalues : ∀ v ∈ values, ∃ cs, Carries read v cs) :
    ∃ cs, writeValue?.writeValues? values = some cs ∧
      (∀ rest, Stops isPassedOver (cs ++ ']' :: rest)) ∧
      ∀ rest before fuel, skipLines before = cs ++ ']' :: rest → cs.length < fuel →
        readList.go read fuel before = some (values, rest) := by
  induction values with
  | nil =>
      refine ⟨[], rfl, fun rest => stops_cons rfl, fun rest before fuel hbefore hfuel => ?_⟩
      obtain ⟨fuel, rfl⟩ := Nat.exists_eq_add_one_of_ne_zero (Nat.ne_zero_of_lt hfuel)
      simp [readList.go, hbefore, after?_self]
  | cons v values ih =>
      obtain ⟨first, hfirst⟩ := hvalues v List.mem_cons_self
      cases values with
      | nil =>
          refine ⟨first, hfirst.written, fun rest => hfirst.stops _,
            fun rest before fuel hbefore hfuel => ?_⟩
          obtain ⟨fuel, rfl⟩ := Nat.exists_eq_add_one_of_ne_zero (Nat.ne_zero_of_lt hfuel)
          have hbracket : skipLines (']' :: rest) = ']' :: rest :=
            skipLines_eq_self (stops_cons rfl)
          have hcomma : after? ',' (']' :: rest) = none := rfl
          simp [readList.go, hbefore, hfirst.after?_bracket,
            hfirst.reads _ (endsValue_bracket rest), hbracket, hcomma, after?_self]
      | cons w values =>
          obtain ⟨later, hlater, hstops, hreads⟩ :=
            ih fun w hw => hvalues w (List.mem_cons_of_mem v hw)
          have hwritten : writeValue?.writeValues? (v :: w :: values) =
              some (first ++ ',' :: ' ' :: later) := by
            simp [writeValue?.writeValues?, hfirst.written, hlater]
          refine ⟨_, hwritten, fun rest => ?_, fun rest before fuel hbefore hfuel => ?_⟩
          · rw [List.append_assoc]
            exact hfirst.stops _
          obtain ⟨fuel, rfl⟩ := Nat.exists_eq_add_one_of_ne_zero (Nat.ne_zero_of_lt hfuel)
          have hcomma (cs : List Char) : skipLines (',' :: cs) = ',' :: cs :=
            skipLines_eq_self (stops_cons rfl)
          rw [List.append_assoc] at hbefore
          have hrest : readList.go read fuel (' ' :: (later ++ ']' :: rest)) =
              some (w :: values, rest) := by
            refine hreads rest _ fuel (skipLines_blank (hstops rest)) ?_
            simp only [List.length_append, List.length_cons] at hfuel
            omega
          simp [readList.go, hbefore, hfirst.after?_bracket, hfirst.reads _ (endsValue_comma _),
            hcomma, after?_self, hrest]

/-- Where no list and no table in braces starts, a value holds no other. -/
theorem readValue_eq_readScalar (depth : Nat) {c : Char} (cs : List Char) (hlist : c ≠ '[')
    (htable : c ≠ '{') : readValue depth (c :: cs) = readScalar (c :: cs) := by
  cases depth with
  | zero => rfl
  | succ depth => simp [readValue, after?, hlist, htable]

theorem Carries.of_scalar {v : Value} {c : Char} {cs : List Char} (depth : Nat)
    (hwritten : writeValue? v = some (c :: cs)) (hstarts : startsValue c = true) (hlist : c ≠ '[')
    (hreads : ∀ rest, EndsValue rest → readScalar (c :: cs ++ rest) = some (v, rest)) :
    Carries (readValue depth) v (c :: cs) where
  written := hwritten
  starts := ⟨c, cs, rfl, hstarts⟩
  reads rest hrest := by
    have htable : c ≠ '{' := by
      rintro rfl
      cases hstarts
    rw [List.cons_append, readValue_eq_readScalar depth _ hlist htable]
    exact hreads rest hrest

/-- Every plain value can be written, and its text is read as the value. -/
theorem Value.IsPlain.exists_carries {depth : Nat} {v : Value} (hv : v.IsPlain depth) :
    ∃ cs, Carries (readValue depth) v cs := by
  induction hv with
  | @text depth s =>
      have hreads : ∀ rest, EndsValue rest → readScalar (writeString s ++ rest) =
          some (.text s, rest) := fun _ hrest => readScalar_writeString s hrest.stops_quotes
      obtain ⟨c, cs, hwrite, hc⟩ := exists_cons_of_writeString s
      refine ⟨writeString s, ?_⟩
      rw [hwrite] at hreads ⊢
      have hwritten : writeValue? (.text s) = some (c :: cs) := congrArg some hwrite
      rcases hc with rfl | rfl
      · exact .of_scalar depth hwritten rfl (by decide) hreads
      · exact .of_scalar depth hwritten rfl (by decide) hreads
  | @integer depth n hn =>
      have hreads : ∀ rest, EndsValue rest → readScalar (Decimal.write n ++ rest) =
          some (.integer n, rest) := fun _ hrest => readScalar_write hn hrest
      obtain ⟨d, ds, hwrite, hd⟩ := Decimal.exists_cons_of_write n
      have hwritten : writeValue? (.integer n) = some (d :: ds) := by
        simp [writeValue?, hn, hwrite]
      rw [hwrite] at hreads
      refine ⟨d :: ds, .of_scalar depth hwritten ?_ ?_ hreads⟩
      · simp [startsValue, Char.isAlphanum, hd]
      · rintro rfl
        cases hd
  | @flag depth b =>
      cases b with
      | true =>
          exact ⟨_, .of_scalar depth rfl rfl (by decide) fun rest _ => readScalar_flag true rest⟩
      | false =>
          exact ⟨_, .of_scalar depth rfl rfl (by decide) fun rest _ => readScalar_flag false rest⟩
  | @list depth values hvalues ih =>
      obtain ⟨cs, hwritten, hstops, hreads⟩ := exists_writeValues ih
      refine ⟨'[' :: (cs ++ [']']), by simp [writeValue?, hwritten], ⟨_, _, rfl, rfl⟩,
        fun rest hrest => ?_⟩
      have hlist : readList (readValue depth) (cs ++ ']' :: rest) = some (values, rest) :=
        hreads rest _ _ (skipLines_eq_self (hstops rest)) (by simp)
      simp [readValue, after?_self, hlist]

end Enrollment.Toml
