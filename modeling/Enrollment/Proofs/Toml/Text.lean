import Enrollment.Proofs.Text.Front
import Enrollment.Toml.Text
import Enrollment.Toml.Writer
import Mathlib.Tactic.SplitIfs

/-!
# Strings of TOML, written and read

A string is read back in whichever notation it was written. A string is read piece by piece, and the
argument follows the pieces: an escape or a character that stands for itself is one, and so is a
whole row of quotes in a string of several lines. There the writer lets at most two quotes stand
together, so that the reader finds three of them only at the end.
-/

namespace Enrollment.Toml

open Text (Stops stops_cons)

/-- The characters of line ends. -/
def isLineEnd (c : Char) : Bool :=
  c == '\n' || c == '\r'

theorem afterNewline?_eq_none {cs : List Char} (hcs : Stops isLineEnd cs) :
    afterNewline? cs = none := by
  unfold afterNewline?
  split
  next => cases hcs '\n' rfl
  next => cases hcs '\r' rfl
  next => rfl

/-! ## Pieces -/

/-- The pieces of a text, put together, are the characters of a string, and the rest is left. -/
inductive Spells (piece : Reader Piece) : List Char → List Char → List Char → Prop
  | last {cs text rest : List Char} (h : piece cs = some (.last text, rest)) :
      Spells piece cs text rest
  | more {cs left text later rest : List Char} (h : piece cs = some (.more text, left))
      (hshorter : left.length < cs.length) (hleft : Spells piece left later rest) :
      Spells piece cs (text ++ later) rest

theorem gather_go_of_spells {piece : Reader Piece} {cs text rest : List Char}
    (hspells : Spells piece cs text rest) {fuel : Nat} (hfuel : cs.length < fuel)
    (read : List Char) : gather.go piece fuel read cs = some (read.reverse ++ text, rest) := by
  induction hspells generalizing fuel read with
  | last h =>
      obtain ⟨fuel, rfl⟩ := Nat.exists_eq_add_one_of_ne_zero (Nat.ne_zero_of_lt hfuel)
      simp only [gather.go, h]
  | more h hshorter hleft ih =>
      obtain ⟨fuel, rfl⟩ := Nat.exists_eq_add_one_of_ne_zero (Nat.ne_zero_of_lt hfuel)
      simp only [gather.go, h]
      rw [ih (by omega)]
      simp

theorem gather_of_spells {piece : Reader Piece} {cs text rest : List Char}
    (hspells : Spells piece cs text rest) : gather piece cs = some (text, rest) :=
  gather_go_of_spells hspells (Nat.lt_succ_self _) []

/-! ## Escapes -/

theorem digits_of_code : ∀ n < 0x80,
    ['0', '0', Nat.digitChar (n / 16), (Nat.digitChar (n % 16)).toUpper].filterMap Hex.value? =
      [0, 0, n / 16, n % 16] := by
  decide +kernel

theorem codePoint?_code {n : Nat} (hn : n < 0x80) (rest : List Char) :
    codePoint? 4 ('0' :: '0' :: Nat.digitChar (n / 16) :: (Nat.digitChar (n % 16)).toUpper ::
      rest) = some (Char.ofNat n, rest) := by
  have hvalid : n.isValidChar := Or.inl (by omega)
  have hcode : n / 16 * 16 + n % 16 = n := by omega
  unfold codePoint?
  simp only [List.take_succ_cons, List.take_zero, digits_of_code n hn]
  simp [hcode, hvalid]

/-- A character that stands for itself between double quotes. -/
def IsPlain (c : Char) : Prop :=
  isPrintable c = true ∧ c ≠ '"' ∧ c ≠ '\\' ∧ c ≠ '\n'

theorem isPrintable_of_needsEscape {c : Char} (hescape : needsEscape c = false)
    (hnewline : c ≠ '\n') : isPrintable c = true := by
  simp only [needsEscape, isPrintable, Bool.or_eq_false_iff, Bool.and_eq_false_iff,
    decide_eq_false_iff_not, beq_eq_false_iff_ne, bne_eq_false_iff_eq, Bool.or_eq_true,
    Bool.and_eq_true, decide_eq_true_eq, beq_iff_eq] at hescape ⊢
  obtain ⟨(hhigh | htab) | hline, hdelete⟩ := hescape
  · exact Or.inr ⟨by omega, hdelete⟩
  · exact Or.inl htab
  · exact absurd hline hnewline

/-- How a character other than a quote is written: by an escape that is read as the character and
continues no line, or as itself. -/
inductive Escaped (lines : Bool) (c : Char) : List Char → Prop
  | escape {e : Char} {es : List Char}
      (hread : ∀ rest, readEscape (e :: (es ++ rest)) = some (c, rest))
      (hblank : isBlank e = false) (hline : isLineEnd e = false) :
      Escaped lines c ('\\' :: e :: es)
  | plain (hplain : IsPlain c) : Escaped lines c [c]
  | newline (hlines : lines = true) (hnewline : c = '\n') : Escaped lines c [c]

theorem escaped_escape (lines : Bool) {c : Char} (hquote : c ≠ '"') :
    Escaped lines c (escape lines c) := by
  unfold escape
  split_ifs with hbackspace htab hnewline hlines hfeed hreturn hbackslash hcontrol
  · subst c
    exact .escape (fun _ => rfl) rfl rfl
  · subst c
    exact .escape (fun _ => rfl) rfl rfl
  · exact .newline hlines hnewline
  · subst c
    exact .escape (fun _ => rfl) rfl rfl
  · subst c
    exact .escape (fun _ => rfl) rfl rfl
  · subst c
    exact .escape (fun _ => rfl) rfl rfl
  · subst c
    exact .escape (fun _ => rfl) rfl rfl
  · refine .escape (fun rest => ?_) rfl rfl
    have hcode : c.toNat < 0x80 := by
      simp only [needsEscape, Bool.or_eq_true, Bool.and_eq_true, decide_eq_true_eq, beq_iff_eq]
        at hcontrol
      omega
    have hread := codePoint?_code hcode rest
    rw [Char.ofNat_toNat] at hread
    exact hread
  · have hprintable := isPrintable_of_needsEscape (Bool.eq_false_iff.mpr hcontrol) hnewline
    exact .plain ⟨hprintable, hquote, hbackslash, hnewline⟩

/-- A written character starts with no quote. -/
theorem stops_escape (lines : Bool) {c : Char} (hquote : c ≠ '"') (rest : List Char) :
    Stops (· == '"') (escape lines c ++ rest) := by
  have hescaped := escaped_escape lines hquote
  revert hescaped
  cases escape lines c with
  | nil => intro hescaped; cases hescaped
  | cons d ds =>
      intro hescaped
      refine stops_cons ?_
      cases hescaped with
      | escape => rfl
      | plain hplain => simpa using hplain.2.1
      | newline => simpa using hquote

theorem length_lt_cons_cons (c d : Char) (rest : List Char) :
    rest.length < (c :: d :: rest).length := by
  simp only [List.length_cons]
  omega

theorem length_lt_escape (lines : Bool) {c : Char} (hquote : c ≠ '"') (rest : List Char) :
    rest.length < (escape lines c ++ rest).length := by
  have hescaped := escaped_escape lines hquote
  revert hescaped
  cases escape lines c with
  | nil => intro hescaped; cases hescaped
  | cons d ds =>
      intro _
      simp only [List.length_append, List.length_cons]
      omega

theorem basicPiece_escape {c : Char} (hquote : c ≠ '"') (rest : List Char) :
    basicPiece (escape false c ++ rest) = some (.more [c], rest) := by
  have hescaped := escaped_escape false hquote
  revert hescaped
  generalize escape false c = written
  intro hescaped
  cases hescaped with
  | escape hread => simp [basicPiece, hread]
  | plain hplain => simp [basicPiece, hplain.1, hplain.2.2.1]
  | newline hlines => cases hlines

theorem isLineEnd_of_isPrintable {c : Char} (hprintable : isPrintable c = true)
    (hnewline : c ≠ '\n') : isLineEnd c = false := by
  have hreturn : c ≠ '\r' := by
    rintro rfl
    cases hprintable
  simp [isLineEnd, hnewline, hreturn]

theorem linePiece_newline (rest : List Char) :
    linePiece ('\n' :: rest) = some (.more ['\n'], rest) :=
  rfl

theorem linePiece_printable {c : Char} (hprintable : isPrintable c = true) (hnewline : c ≠ '\n')
    (rest : List Char) : linePiece (c :: rest) = some (.more [c], rest) := by
  have hnone : afterNewline? (c :: rest) = none :=
    afterNewline?_eq_none (stops_cons (isLineEnd_of_isPrintable hprintable hnewline))
  simp [linePiece, hnone, hprintable]

theorem basicLinesPiece_escape {c : Char} (hquote : c ≠ '"') (rest : List Char) :
    basicLinesPiece (escape true c ++ rest) = some (.more [c], rest) := by
  have hescaped := escaped_escape true hquote
  revert hescaped
  generalize escape true c = written
  intro hescaped
  cases hescaped with
  | @escape e es hread hblank hline =>
      -- What follows the backslash is neither a blank nor a line end, so it continues no line.
      have hcontinues : afterContinuation? (e :: (es ++ rest)) = none := by
        have hskip : skipBlanks (e :: (es ++ rest)) = e :: (es ++ rest) := by
          simp [skipBlanks, hblank]
        have hnone : afterNewline? (e :: (es ++ rest)) = none :=
          afterNewline?_eq_none (stops_cons hline)
        rw [afterContinuation?, hskip, hnone]
        rfl
      simp [basicLinesPiece, hcontinues, hread]
  | plain hplain =>
      have hline := linePiece_printable hplain.1 hplain.2.2.2 rest
      simp [basicLinesPiece, hplain.2.1, hplain.2.2.1, hline]
  | newline hlines hnewline =>
      subst c
      rfl

/-! ## Strings of one line -/

/-- Where escapes are known and every quote has one, any characters can be written. -/
theorem spells_basic (cs rest : List Char) :
    Spells basicPiece (escapeAll false 0 0 cs ++ '"' :: rest) cs rest := by
  induction cs with
  | nil => exact .last rfl
  | cons c cs ih =>
      by_cases hquote : c = '"'
      · subst c
        have hpiece : basicPiece (escapeAll false 0 0 ('"' :: cs) ++ '"' :: rest) =
            some (.more ['"'], escapeAll false 0 0 cs ++ '"' :: rest) := rfl
        exact .more hpiece (length_lt_cons_cons _ _ _) ih
      · rw [escapeAll, if_neg hquote, List.append_assoc]
        exact .more (basicPiece_escape hquote _) (length_lt_escape _ hquote _) ih

theorem spells_literal {cs : List Char} (hcs : ∀ c ∈ cs, isPrintable c = true ∧ c ≠ '\'')
    (rest : List Char) : Spells literalPiece (cs ++ '\'' :: rest) cs rest := by
  induction cs with
  | nil => exact .last rfl
  | cons c cs ih =>
      obtain ⟨hprintable, hquote⟩ := hcs c List.mem_cons_self
      have hpiece : literalPiece (c :: (cs ++ '\'' :: rest)) =
          some (.more [c], cs ++ '\'' :: rest) := by
        simp [literalPiece, hprintable]
      exact .more hpiece (by simp) (ih fun d hd => hcs d (List.mem_cons_of_mem c hd))

/-! ## Strings of several lines -/

section Quotes

variable {quote : Char} {piece : Reader Piece} {run : Nat} {text later rest : List Char}

/-- A row of at most two quotes belongs to the string. -/
theorem quotesPiece_run (hrun : run ≤ 2) (htext : Stops (· == quote) text) :
    quotesPiece quote (List.replicate run quote ++ text) =
      (.more (List.replicate run quote), text) := by
  have htake : (List.replicate run quote ++ text).takeWhile (· == quote) =
      List.replicate run quote :=
    Text.takeWhile_append (by simp) htext
  simp [quotesPiece, htake, Nat.lt_succ_of_le hrun]

/-- Of a row of quotes at the end of the string the last three end it. -/
theorem quotesPiece_close (hrun : run ≤ 2) (hrest : Stops (· == quote) rest) :
    quotesPiece quote (List.replicate run quote ++ quote :: quote :: quote :: rest) =
      (.last (List.replicate run quote), rest) := by
  have hrow : List.replicate run quote ++ quote :: quote :: quote :: rest =
      List.replicate (run + 3) quote ++ rest := by
    rw [List.replicate_append_replicate.symm, List.append_assoc]
    rfl
  have htake : (List.replicate (run + 3) quote ++ rest).takeWhile (· == quote) =
      List.replicate (run + 3) quote :=
    Text.takeWhile_append (by simp) hrest
  simp [quotesPiece, hrow, htake, Nat.min_eq_left hrun]

variable (hquotes : ∀ cs, piece (quote :: cs) = some (quotesPiece quote (quote :: cs)))

include hquotes

theorem spells_run (hrun : run ≤ 2) (htext : Stops (· == quote) text)
    (hspells : Spells piece text later rest) :
    Spells piece (List.replicate run quote ++ text) (List.replicate run quote ++ later) rest := by
  cases run with
  | zero => exact hspells
  | succ run =>
      refine .more ?_ (by simp only [List.length_append, List.length_replicate]; omega) hspells
      rw [← quotesPiece_run hrun htext]
      exact hquotes _

theorem spells_close (hrun : run ≤ 2) (hrest : Stops (· == quote) rest) :
    Spells piece (List.replicate run quote ++ quote :: quote :: quote :: rest)
      (List.replicate run quote) rest := by
  refine .last ?_
  rw [← quotesPiece_close hrun hrest]
  cases run with
  | zero => exact hquotes _
  | succ run => exact hquotes _

end Quotes

theorem replicate_succ_append (run : Nat) (c : Char) (cs : List Char) :
    List.replicate (run + 1) c ++ cs = List.replicate run c ++ c :: cs := by
  rw [List.replicate_succ', List.append_assoc]
  rfl

/-- Any characters can be written on several lines with escapes. The quotes that stand before them
are those of a row that has been started. -/
theorem spells_basicLines (cs : List Char) {rest : List Char} (hrest : Stops (· == '"') rest)
    {run : Nat} (hrun : run ≤ 2) :
    Spells basicLinesPiece
      (List.replicate run '"' ++ (escapeAll true 2 run cs ++ '"' :: '"' :: '"' :: rest))
      (List.replicate run '"' ++ cs) rest := by
  have hquotes : ∀ s, basicLinesPiece ('"' :: s) = some (quotesPiece '"' ('"' :: s)) := fun _ => rfl
  induction cs generalizing run with
  | nil =>
      rw [List.append_nil]
      exact spells_close hquotes hrun hrest
  | cons c cs ih =>
      by_cases hquote : c = '"'
      · subst c
        rw [escapeAll, if_pos rfl]
        split
        -- A third quote in a row has an escape, after which a new row may start.
        · refine spells_run hquotes hrun (stops_cons rfl) ?_
          have hpiece (later : List Char) :
              basicLinesPiece ('\\' :: '"' :: later) = some (.more ['"'], later) := rfl
          exact .more (hpiece _) (length_lt_cons_cons _ _ _) (ih (Nat.zero_le 2))
        · have hroom : run + 1 ≤ 2 := by omega
          have hlonger := ih hroom
          rwa [replicate_succ_append, replicate_succ_append] at hlonger
      · rw [escapeAll, if_neg hquote, List.append_assoc]
        refine spells_run hquotes hrun (stops_escape true hquote _) ?_
        exact .more (basicLinesPiece_escape hquote _) (length_lt_escape _ hquote _)
          (ih (Nat.zero_le 2))

/-- Counts the rows of a character: the longest so far, and the one that may go on. -/
def countRun (quote : Char) (counted : Nat × Nat) (c : Char) : Nat × Nat :=
  if c == quote then (max counted.1 (counted.2 + 1), counted.2 + 1) else (counted.1, 0)

theorem longestRun_eq (quote : Char) (cs : List Char) :
    longestRun quote cs = (cs.foldl (countRun quote) (0, 0)).1 := rfl

theorem le_countRuns (quote : Char) (cs : List Char) (counted : Nat × Nat) :
    counted.1 ≤ (cs.foldl (countRun quote) counted).1 := by
  induction cs generalizing counted with
  | nil => exact Nat.le_refl _
  | cons c cs ih =>
      refine Nat.le_trans ?_ (ih (countRun quote counted c))
      unfold countRun
      split
      · exact Nat.le_max_left _ _
      · exact Nat.le_refl _

/-- Without a row of a character there is none of it. -/
theorem not_mem_of_longestRun {quote : Char} {cs : List Char} (hnone : longestRun quote cs = 0) :
    quote ∉ cs := by
  intro hmem
  obtain ⟨before, after, rfl⟩ := List.append_of_mem hmem
  rw [longestRun_eq, List.foldl_append, List.foldl_cons] at hnone
  have hlater := le_countRuns quote after
    (countRun quote (before.foldl (countRun quote) (0, 0)) quote)
  simp only [countRun, beq_self_eq_true, if_true] at hlater hnone
  omega

/-- Characters that need no escape can be written as they are, on several lines, if no more than two
quotes stand together. -/
theorem spells_literalLines {cs : List Char} (hcs : ∀ c ∈ cs, needsEscape c = false)
    {rest : List Char} (hrest : Stops (· == '\'') rest) {best run : Nat} (hbest : run ≤ best)
    (hruns : (cs.foldl (countRun '\'') (best, run)).1 ≤ 2) :
    Spells literalLinesPiece
      (List.replicate run '\'' ++ (cs ++ '\'' :: '\'' :: '\'' :: rest))
      (List.replicate run '\'' ++ cs) rest := by
  have hquotes : ∀ s, literalLinesPiece ('\'' :: s) = some (quotesPiece '\'' ('\'' :: s)) :=
    fun _ => rfl
  have hrun : run ≤ 2 := Nat.le_trans hbest (Nat.le_trans (le_countRuns '\'' cs (best, run)) hruns)
  induction cs generalizing best run with
  | nil =>
      rw [List.append_nil]
      exact spells_close hquotes hrun hrest
  | cons c cs ih =>
      have hleft : ∀ d ∈ cs, needsEscape d = false := fun d hd => hcs d (List.mem_cons_of_mem c hd)
      rw [List.foldl_cons] at hruns
      by_cases hquote : c = '\''
      · subst c
        simp only [countRun, beq_self_eq_true, if_true] at hruns
        have hlonger := le_countRuns '\'' cs (max best (run + 1), run + 1)
        have hspells := ih hleft (Nat.le_max_right _ _) hruns (by omega)
        rwa [replicate_succ_append, replicate_succ_append] at hspells
      · have hcount : countRun '\'' (best, run) c = (best, 0) := by simp [countRun, hquote]
        rw [hcount] at hruns
        refine spells_run hquotes hrun (stops_cons (by simpa using hquote)) ?_
        have hpiece : literalLinesPiece (c :: (cs ++ '\'' :: '\'' :: '\'' :: rest)) =
            some (.more [c], cs ++ '\'' :: '\'' :: '\'' :: rest) := by
          have hline : literalLinesPiece (c :: (cs ++ '\'' :: '\'' :: '\'' :: rest)) =
              linePiece (c :: (cs ++ '\'' :: '\'' :: '\'' :: rest)) := by
            simp [literalLinesPiece, hquote]
          rw [hline]
          by_cases hnewline : c = '\n'
          · subst c
            exact linePiece_newline _
          · exact linePiece_printable (isPrintable_of_needsEscape (hcs c List.mem_cons_self)
              hnewline) hnewline _
        exact .more hpiece (by simp) (ih hleft (Nat.zero_le _) hruns (Nat.zero_le _))

/-! ## Notations -/

/-- The characters of a row with no escape, no quote and no line end, of which there is one at
least, as a string between single quotes has them. -/
theorem literal_of_notationOf {cs : List Char} (hkind : notationOf cs = .literal) :
    cs ≠ [] ∧ ∀ c ∈ cs, isPrintable c = true ∧ c ≠ '\'' := by
  have hne : cs ≠ [] := by
    rintro rfl
    cases hkind
  unfold notationOf at hkind
  dsimp only at hkind
  split_ifs at hkind with _ hliteral
  simp only [Bool.and_eq_true, Bool.not_eq_true', decide_eq_true_eq, List.any_eq_false,
    List.contains_eq_mem, decide_eq_false_iff_not] at hliteral
  obtain ⟨⟨hescape, hrun⟩, hnewline⟩ := hliteral
  refine ⟨hne, fun c hc =>
    ⟨isPrintable_of_needsEscape (Bool.eq_false_iff.mpr (hescape c hc)) ?_, ?_⟩⟩
  · rintro rfl
    exact hnewline hc
  · rintro rfl
    exact not_mem_of_longestRun hrun hc

theorem literalLines_of_notationOf {cs : List Char} (hkind : notationOf cs = .literalLines) :
    (∀ c ∈ cs, needsEscape c = false) ∧ longestRun '\'' cs ≤ 2 := by
  unfold notationOf at hkind
  dsimp only at hkind
  split_ifs at hkind with _ _ _ hliteral
  simp only [Bool.and_eq_true, Bool.not_eq_true', decide_eq_true_eq, List.any_eq_false] at hliteral
  exact ⟨fun c hc => Bool.eq_false_iff.mpr (hliteral.1 c hc), hliteral.2⟩

theorem readString_basic {cs : List Char} (hcs : ∀ rest, cs ≠ '"' :: '"' :: rest) :
    readString ('"' :: cs) = gather basicPiece cs := by
  unfold readString
  split
  next heq => exact absurd (List.cons.inj heq).2 (hcs _)
  next heq => cases (List.cons.inj heq).1
  next => rfl

theorem readString_literal {cs : List Char} (hcs : ∀ rest, cs ≠ '\'' :: '\'' :: rest) :
    readString ('\'' :: cs) = gather literalPiece cs := by
  unfold readString
  split
  next heq => cases (List.cons.inj heq).1
  next heq => exact absurd (List.cons.inj heq).2 (hcs _)
  next => rfl

/-- A string between double quotes is not taken for one of several lines. -/
theorem escapeAll_ne_quotes (cs : List Char) {rest : List Char} (hrest : Stops (· == '"') rest)
    (later : List Char) : escapeAll false 0 0 cs ++ '"' :: rest ≠ '"' :: '"' :: later := by
  intro hquotes
  cases cs with
  | nil =>
      have hrest' : rest = '"' :: later := (List.cons.inj hquotes).2
      cases hrest '"' (hrest' ▸ rfl)
  | cons c cs =>
      by_cases hquote : c = '"'
      · subst c
        cases (List.cons.inj hquotes).1
      · rw [escapeAll, if_neg hquote, List.append_assoc] at hquotes
        have hstops := stops_escape false hquote (escapeAll false 0 0 cs ++ '"' :: rest)
        rw [hquotes] at hstops
        cases hstops '"' rfl

theorem skipNewline_of_stops {cs : List Char} (hcs : Stops isLineEnd cs) : skipNewline cs = cs := by
  rw [skipNewline, afterNewline?_eq_none hcs]
  rfl

/-- The line end that the writer puts in front of a text with line ends is the one that the reader
passes over, and it passes over nothing else. -/
theorem skipNewline_start {cs written : List Char}
    (hwritten : '\n' ∉ cs → Stops isLineEnd written) :
    skipNewline ((if cs.contains '\n' then ['\n'] else []) ++ written) = written := by
  split
  next => rfl
  next hnone =>
      refine skipNewline_of_stops (hwritten ?_)
      simpa using hnone

theorem stops_escapeAll_lines {cs : List Char} (hcs : '\n' ∉ cs) (limit run : Nat)
    (rest : List Char) :
    Stops isLineEnd (escapeAll true limit run cs ++ '"' :: rest) := by
  cases cs with
  | nil => exact stops_cons rfl
  | cons c cs =>
      by_cases hquote : c = '"'
      · subst c
        rw [escapeAll, if_pos rfl]
        split <;> exact stops_cons rfl
      · have hnewline : c ≠ '\n' := fun h => hcs (h ▸ List.mem_cons_self)
        rw [escapeAll, if_neg hquote, List.append_assoc]
        have hescaped := escaped_escape true hquote
        generalize escape true c = written at hescaped
        cases hescaped with
        | escape => exact stops_cons rfl
        | plain hplain =>
            exact stops_cons (isLineEnd_of_isPrintable hplain.1 hnewline)
        | newline _ h => exact absurd h hnewline

/-- A written string is read back, whatever characters it has, and what follows it is left. -/
theorem readString_writeString (s : String) {rest : List Char}
    (hrest : Stops (fun c => c == '"' || c == '\'') rest) :
    readString (writeString s ++ rest) = some (s.toList, rest) := by
  have hdouble : Stops (· == '"') rest := fun c hc => (Bool.or_eq_false_iff.mp (hrest c hc)).1
  have hsingle : Stops (· == '\'') rest := fun c hc => (Bool.or_eq_false_iff.mp (hrest c hc)).2
  unfold writeString
  generalize s.toList = cs
  dsimp only
  split
  next =>
      rw [List.append_assoc, List.append_assoc]
      refine (readString_basic fun later => ?_).trans (gather_of_spells (spells_basic cs rest))
      exact escapeAll_ne_quotes cs hdouble later
  next hkind =>
      obtain ⟨hne, hcs⟩ := literal_of_notationOf hkind
      rw [List.append_assoc, List.append_assoc]
      refine (readString_literal fun later hquotes => ?_).trans
        (gather_of_spells (spells_literal hcs rest))
      obtain ⟨c, cs, rfl⟩ := List.exists_cons_of_ne_nil hne
      exact (hcs c List.mem_cons_self).2 (List.cons.inj hquotes).1
  next =>
      have hskip := skipNewline_start fun hcs : '\n' ∉ cs =>
        stops_escapeAll_lines hcs 2 0 ('"' :: '"' :: rest)
      have hspells := gather_of_spells (spells_basicLines cs hdouble (Nat.zero_le 2))
      simp only [List.append_assoc]
      exact (congrArg (gather basicLinesPiece) hskip).trans hspells
  next hkind =>
      obtain ⟨hcs, hruns⟩ := literalLines_of_notationOf hkind
      have hstops (hnewline : '\n' ∉ cs) : Stops isLineEnd
          (cs ++ '\'' :: '\'' :: '\'' :: rest) := by
        refine Text.stops_append (fun c hc => ?_) (stops_cons rfl)
        have hline : c ≠ '\n' := fun h => hnewline (h ▸ hc)
        exact isLineEnd_of_isPrintable (isPrintable_of_needsEscape (hcs c hc) hline) hline
      have hskip := skipNewline_start hstops
      have hspells := gather_of_spells
        (spells_literalLines hcs hsingle (Nat.le_refl 0) (longestRun_eq '\'' cs ▸ hruns))
      simp only [List.append_assoc]
      exact (congrArg (gather literalLinesPiece) hskip).trans hspells

end Enrollment.Toml
