import Enrollment.Proofs.Toml.Value
import Mathlib.Data.List.Nodup

/-!
# Documents of TOML, written and read

A document of tables of plain values is read back: every line is taken up by what it was written
for, and nothing of it is left for the next one. The members since the last header and the tables
before it are carried along, as they are in the draft that the lines are read into.
-/

namespace Enrollment.Toml

open Text (Stops stops_cons)

/-! ## Names -/

/-- A name that needs no quotes. -/
def IsBareName (name : String) : Prop :=
  name.toList ≠ [] ∧ ∀ c ∈ name.toList, isBare c = true

instance (name : String) : Decidable (IsBareName name) :=
  decidable_of_iff (name.toList ≠ [] ∧ name.toList.all isBare = true)
    (and_congr_right fun _ => List.all_eq_true)

section Names

variable {name : String} {rest : List Char}

theorem not_isPassedOver_of_isBare {c : Char} (hc : isBare c = true) : isPassedOver c = false := by
  rw [Bool.eq_false_iff]
  intro hpassed
  simp only [isPassedOver, isBlank, isLineEnd, Bool.or_eq_true, beq_iff_eq] at hpassed
  rcases hpassed with ((rfl | rfl) | rfl) | rfl | rfl <;> cases hc

theorem IsBareName.exists_cons (hname : IsBareName name) :
    ∃ c cs, name.toList = c :: cs ∧ isBare c = true := by
  obtain ⟨c, cs, hcons⟩ := List.exists_cons_of_ne_nil hname.1
  exact ⟨c, cs, hcons, hname.2 c (hcons ▸ List.mem_cons_self)⟩

theorem IsBareName.stops (hname : IsBareName name) (rest : List Char) :
    Stops isPassedOver (name.toList ++ rest) := by
  obtain ⟨c, cs, hcons, hc⟩ := hname.exists_cons
  rw [hcons]
  exact stops_cons (not_isPassedOver_of_isBare hc)

theorem readLine_eq_none {c : Char} (hc : isBare c = true) (cs : List Char) :
    readLine (c :: cs) = none := by
  unfold readLine
  split
  next heq => cases (List.cons.inj heq).1; cases hc
  next heq => cases (List.cons.inj heq).1; cases hc
  next => rfl

theorem readKeyPart_bare (hname : IsBareName name) (hrest : Stops isBare rest) :
    readKeyPart (name.toList ++ rest) = some (name, rest) := by
  have hline : readLine (name.toList ++ rest) = none := by
    obtain ⟨c, cs, hcons, hc⟩ := hname.exists_cons
    rw [hcons]
    exact readLine_eq_none hc _
  simp [readKeyPart, hline, Text.takeWhile_append hname.2 hrest,
    Text.dropWhile_append hname.2 hrest, hname.1]

/-- A name is read as a key of one part if no point goes on with it. -/
theorem readKey_bare (hname : IsBareName name) (hrest : Stops isBare rest)
    (hpoint : after? '.' (skipBlanks rest) = none) :
    readKey (name.toList ++ rest) = some ([name], skipBlanks rest) := by
  have hread (parts : Nat) :
      readKey.go (parts + 1) (name.toList ++ rest) = some ([name], skipBlanks rest) := by
    simp [readKey.go, skipBlanks_eq_self (hname.stops rest), readKeyPart_bare hname hrest, hpoint]
  exact hread 78

theorem not_bracket_of_isBareName (hname : IsBareName name) (rest : List Char) :
    after? '[' (name.toList ++ rest) = none := by
  obtain ⟨c, cs, hcons, hc⟩ := hname.exists_cons
  rw [hcons]
  refine if_neg ?_
  rintro rfl
  cases hc

end Names

/-! ## Members -/

section Members

variable {members : Members} {key : String}

theorem lookup_eq_none_of_new (hnew : key ∉ members.map Prod.fst) : members.lookup key = none := by
  rw [List.lookup_eq_none_iff]
  intro m hm
  rw [bne_iff_ne]
  rintro rfl
  exact hnew (List.mem_map_of_mem hm)

theorem put_new (hnew : key ∉ members.map Prod.fst) (node : Node) :
    members.put key node = members ++ [(key, node)] := by
  refine if_neg ?_
  rw [List.any_eq_true]
  rintro ⟨m, hm, hkey⟩
  exact hnew (List.mem_map.mpr ⟨m, hm, beq_iff_eq.mp hkey⟩)

theorem addMember_new (hnew : key ∉ members.map Prod.fst) (v : Value) :
    addMember members ([key], v) = some (members ++ [(key, .value v)]) := by
  simp [addMember, Members.addDotted, lookup_eq_none_of_new hnew, put_new hnew]

end Members

/-! ## What can be written -/

/-- A member that can be written. -/
def IsWritable (member : String × Value) : Prop :=
  IsBareName member.1 ∧ member.2.IsPlain maxDepth

theorem isWritable_of_bare {name : String} {v : Value} (hname : IsBareName name)
    (hv : v.IsPlain maxDepth) : IsWritable (name, v) :=
  ⟨hname, hv⟩

/-- A member as the reader keeps it. -/
def kept (member : String × Value) : String × Node :=
  (member.1, .value member.2)

/-- A table that can be written. -/
structure IsWritableTable (table : String × List (String × Value)) : Prop where
  name : IsBareName table.1
  members : ∀ member ∈ table.2, IsWritable member
  distinct : (table.2.map Prod.fst).Nodup

theorem isWritableTable_of_bare {name : String} {members : List (String × Value)}
    (hname : IsBareName name) (hdistinct : (members.map Prod.fst).Nodup)
    (hmembers : ∀ member ∈ members, IsWritable member) : IsWritableTable (name, members) :=
  ⟨hname, hmembers, hdistinct⟩

/-- A table as the reader keeps it. -/
def keptTable (table : String × List (String × Value)) : String × Node :=
  (table.1, .table .defined (table.2.map kept))

/-! ## Lines -/

namespace Draft

variable {d d₁ d' : Draft} {line rest : List Char}

/-- The lines of a text make one draft of another. -/
def Reads (d : Draft) (cs : List Char) (d' : Draft) : Prop :=
  ∀ fuel, cs.length ≤ fuel → readLines fuel d cs = some d'

theorem reads_nil (d : Draft) : d.Reads [] d := by
  intro fuel _
  cases fuel <;> rfl

theorem reads_blank (hrest : d.Reads rest d') : d.Reads ('\n' :: rest) d' := by
  intro fuel hfuel
  obtain ⟨fuel, rfl⟩ := Nat.exists_eq_add_one_of_ne_zero (Nat.ne_zero_of_lt hfuel)
  have hafter : afterLine? ('\n' :: rest) = some rest := rfl
  simp [readLines, hafter, hrest fuel (Nat.le_of_succ_le_succ hfuel)]

/-- A line that is an item of the document is taken up by it. -/
theorem reads_line (hstops : Stops isPassedOver (line ++ '\n' :: rest))
    (hitem : d.readItem (line ++ '\n' :: rest) = some (d₁, '\n' :: rest))
    (hrest : d₁.Reads rest d') : d.Reads (line ++ '\n' :: rest) d' := by
  intro fuel hfuel
  simp only [List.length_append, List.length_cons] at hfuel
  obtain ⟨fuel, rfl⟩ := Nat.exists_eq_add_one_of_ne_zero (n := fuel) (by omega)
  have hnone : afterLine? (line ++ '\n' :: rest) = none := afterLine?_eq_none hstops (by simp)
  have hafter : afterLine? ('\n' :: rest) = some rest := rfl
  simp [readLines, hnone, skipBlanks_eq_self hstops, hitem, hafter, hrest fuel (by omega)]

/-! ### Members -/

theorem exists_writeMember {member : String × Value} (hmember : IsWritable member) :
    ∃ line, writeMember? member = some (line ++ ['\n']) ∧
      ∀ (d : Draft) rest, member.1 ∉ d.members.map Prod.fst →
        Stops isPassedOver (line ++ '\n' :: rest) ∧
        d.readItem (line ++ '\n' :: rest) =
          some ({ d with members := d.members ++ [kept member] }, '\n' :: rest) := by
  obtain ⟨name, v⟩ := member
  obtain ⟨hname, hv⟩ := hmember
  obtain ⟨cs, hcarries⟩ := hv.exists_carries
  refine ⟨name.toList ++ [' ', '=', ' '] ++ cs, by simp [writeMember?, hcarries.written],
    fun d rest hnew => ⟨?_, ?_⟩⟩
  · simp only [List.append_assoc]
    exact hname.stops _
  · have hkey : readKey (name.toList ++ ' ' :: '=' :: ' ' :: (cs ++ '\n' :: rest)) =
        some ([name], '=' :: ' ' :: (cs ++ '\n' :: rest)) :=
      readKey_bare hname (stops_cons rfl) rfl
    have hblank : skipBlanks (' ' :: (cs ++ '\n' :: rest)) = cs ++ '\n' :: rest :=
      skipBlanks_eq_self (hcarries.stops _)
    have hread : readMember (readValue maxDepth)
        (name.toList ++ ' ' :: '=' :: ' ' :: (cs ++ '\n' :: rest)) =
          some (([name], v), '\n' :: rest) := by
      simp [readMember, hkey, after?_self, hblank, hcarries.reads _ (endsValue_newline rest)]
    simp [readItem, not_bracket_of_isBareName hname, hread, addMember_new hnew, kept]

/-- The lines of members add them to those since the last header. -/
theorem exists_writeMembers {members : List (String × Value)}
    (hmembers : ∀ member ∈ members, IsWritable member) :
    ∃ lines, members.mapM writeMember? = some lines ∧
      ∀ (d : Draft) rest d', (d.members.map Prod.fst ++ members.map Prod.fst).Nodup →
        Reads { d with members := d.members ++ members.map kept } rest d' →
          d.Reads (lines.flatten ++ rest) d' := by
  induction members with
  | nil => exact ⟨[], rfl, fun d rest d' _ hrest => by simpa using hrest⟩
  | cons member members ih =>
      obtain ⟨line, hline, hreads⟩ := exists_writeMember (hmembers member List.mem_cons_self)
      obtain ⟨lines, hlines, hlater⟩ := ih fun m hm => hmembers m (List.mem_cons_of_mem member hm)
      refine ⟨(line ++ ['\n']) :: lines, by simp [hline, hlines], fun d rest d' hnodup hrest => ?_⟩
      have hnew : member.1 ∉ d.members.map Prod.fst := fun hmem =>
        (List.nodup_append.mp hnodup).2.2 _ hmem _ List.mem_cons_self rfl
      obtain ⟨hstops, hitem⟩ := hreads d (lines.flatten ++ rest) hnew
      have hdraft : Reads { d with members := d.members ++ [kept member] }
          (lines.flatten ++ rest) d' := by
        refine hlater _ rest d' ?_ ?_
        · simpa [kept] using hnodup
        · simpa using hrest
      simpa using reads_line hstops hitem hdraft

/-! ### Tables -/

theorem modifyAt_nil (members : Members) (change : Members → Option Members) :
    members.modifyAt change [] = change members := by
  rw [Members.modifyAt]

theorem openTable_new {root : Members} {name : String} (hclose : d.close = some root)
    (hnew : name ∉ root.map Prod.fst) :
    d.openTable [] name = some ⟨root, .table [] name, []⟩ := by
  simp [openTable, hclose, Members.follow?, lookup_eq_none_of_new hnew, modifyAt_nil]

theorem close_table {root : Members} {name : String} (members : Members)
    (hnew : name ∉ root.map Prod.fst) :
    close ⟨root, .table [] name, members⟩ = some (root ++ [(name, .table .defined members)]) := by
  simp [close, modifyAt_nil, put_new hnew]

/-- The section of a table closes the one before, and all of the table is in it. -/
theorem exists_writeSection {table : String × List (String × Value)}
    (htable : IsWritableTable table) :
    ∃ text, writeSection? table = some text ∧
      ∀ (d : Draft) root, d.close = some root → table.1 ∉ root.map Prod.fst →
        ∃ d₁ : Draft, d₁.close = some (root ++ [keptTable table]) ∧
          ∀ rest d', d₁.Reads rest d' → d.Reads (text ++ rest) d' := by
  obtain ⟨name, members⟩ := table
  obtain ⟨lines, hlines, hreads⟩ := exists_writeMembers htable.members
  refine ⟨'[' :: (name.toList ++ ']' :: '\n' :: lines.flatten), by simp [writeSection?, hlines],
    fun d root hclose hnew => ?_⟩
  refine ⟨⟨root, .table [] name, members.map kept⟩, close_table _ hnew, fun rest d' hrest => ?_⟩
  have hheader : d.readItem ('[' :: (name.toList ++ ']' :: '\n' :: (lines.flatten ++ rest))) =
      some (⟨root, .table [] name, []⟩, '\n' :: (lines.flatten ++ rest)) := by
    have hkey : readKey (name.toList ++ ']' :: '\n' :: (lines.flatten ++ rest)) =
        some ([name], ']' :: '\n' :: (lines.flatten ++ rest)) :=
      readKey_bare htable.name (stops_cons rfl) rfl
    simp [readItem, after?_self, readHeader, not_bracket_of_isBareName htable.name, hkey,
      openTable_new hclose hnew]
  have hmembers : Reads ⟨root, .table [] name, []⟩ (lines.flatten ++ rest) d' :=
    hreads _ rest d' (by simpa using htable.distinct) (by simpa using hrest)
  have hline : d.Reads (('[' :: name.toList ++ [']']) ++ '\n' :: (lines.flatten ++ rest)) d' :=
    reads_line (stops_cons rfl) (by simpa using hheader) hmembers
  simpa using hline

/-- The sections of tables, with blank lines between them, add the tables to the document. -/
theorem exists_writeSections {tables : List (String × List (String × Value))}
    (htables : ∀ table ∈ tables, IsWritableTable table) :
    ∃ texts, tables.mapM writeSection? = some texts ∧
      ∀ (d : Draft) root, d.close = some root →
        (root.map Prod.fst ++ tables.map Prod.fst).Nodup →
          ∃ d', d.Reads (['\n'].intercalate texts) d' ∧
            d'.close = some (root ++ tables.map keptTable) := by
  induction tables with
  | nil => exact ⟨[], rfl, fun d root hclose _ => ⟨d, reads_nil d, by simpa using hclose⟩⟩
  | cons table tables ih =>
      obtain ⟨text, htext, hreads⟩ := exists_writeSection (htables table List.mem_cons_self)
      obtain ⟨texts, htexts, hlater⟩ := ih fun t ht => htables t (List.mem_cons_of_mem table ht)
      refine ⟨text :: texts, by simp [htext, htexts], fun d root hclose hnodup => ?_⟩
      have hnew : table.1 ∉ root.map Prod.fst := fun hmem =>
        (List.nodup_append.mp hnodup).2.2 _ hmem _ List.mem_cons_self rfl
      obtain ⟨d₁, hclose₁, hfirst⟩ := hreads d root hclose hnew
      obtain ⟨d', hrest, hclose'⟩ := hlater d₁ _ hclose₁ (by simpa [keptTable] using hnodup)
      refine ⟨d', ?_, by simpa using hclose'⟩
      cases texts with
      | nil => exact hfirst _ d' hrest
      | cons second texts =>
          have hintercalate : ['\n'].intercalate (text :: second :: texts) =
              text ++ '\n' :: ['\n'].intercalate (second :: texts) := by
            simp [List.intercalate]
          rw [hintercalate]
          exact hfirst _ d' (reads_blank hrest)

end Draft

/-! ## Documents -/

theorem toValues_kept (members : List (String × Value)) :
    toValues (members.map kept) = members := by
  induction members with
  | nil => rfl
  | cons member members ih => simp [toValues, kept, Node.toValue, ih]

theorem toValues_keptTable (tables : List (String × List (String × Value))) :
    toValues (tables.map keptTable) = tables.map fun table => (table.1, .table table.2) := by
  induction tables with
  | nil => rfl
  | cons table tables ih => simp [toValues, keptTable, Node.toValue, toValues_kept, ih]

/-- A document starts with no byte order mark. -/
theorem stops_mark {tables : List (String × List (String × Value))} {texts : List (List Char)}
    (htexts : tables.mapM writeSection? = some texts) :
    Stops (· == '\uFEFF') (['\n'].intercalate texts) := by
  cases tables with
  | nil =>
      cases htexts
      exact Text.stops_nil
  | cons table tables =>
      simp only [List.mapM_cons, writeSection?, Option.bind_eq_bind, Option.bind_eq_some_iff,
        Option.map_eq_some_iff] at htexts
      obtain ⟨_, ⟨lines, -, rfl⟩, texts, -, htexts⟩ := htexts
      cases htexts
      cases texts <;> exact stops_cons rfl

theorem parse?_of_reads {cs : List Char} {d : Draft} {members : Members}
    (hmark : Stops (· == '\uFEFF') cs) (hread : Draft.empty.Reads cs d)
    (hclose : d.close = some members) : parse? (String.ofList cs) = some (toValues members) := by
  unfold parse?
  rw [String.toList_ofList]
  dsimp only
  split
  next => cases hmark '\uFEFF' rfl
  next => simp [hread _ (Nat.le_refl _), hclose]

/-- Tables whose names differ and whose members can be written can be written, and are the members
of the document that is read. -/
theorem exists_render {tables : List (String × List (String × Value))}
    (htables : ∀ table ∈ tables, IsWritableTable table)
    (hdistinct : (tables.map Prod.fst).Nodup) :
    ∃ text, render? tables = some text ∧
      parse? text = some (tables.map fun table => (table.1, .table table.2)) := by
  obtain ⟨texts, htexts, hreads⟩ := Draft.exists_writeSections htables
  obtain ⟨d', hread, hclose⟩ := hreads .empty [] rfl (by simpa using hdistinct)
  refine ⟨String.ofList (['\n'].intercalate texts), by simp [render?, htexts], ?_⟩
  rw [parse?_of_reads (stops_mark htexts) hread hclose, List.nil_append, toValues_keptTable]

end Enrollment.Toml
