import Enrollment.Net.Address
import Enrollment.Proofs.Text.Decimal
import Enrollment.Proofs.Text.Front

/-!
# Addresses, written and read

Every address is read back from the text it is written as. For version 6 this follows the three
forms that a text can take: all eight groups, a row of zero groups left out, or a version 4 address
at the end. What is left out is filled in again, since only zeros are.
-/

namespace Enrollment

open Text (Stops stops_nil stops_cons stops_append)

/-! ## Version 4 -/

namespace AddressV4

variable {rest : List Char}

theorem readOctet?_write (octet : UInt8) (hrest : Stops Char.isDigit rest) :
    readOctet? (Decimal.write octet.toNat ++ rest) = some (octet, rest) := by
  have hdigits : ∀ c ∈ Decimal.write octet.toNat, c.isDigit = true :=
    fun c hc => Decimal.isDigit_write hc
  have hlength : (Decimal.write octet.toNat).length ≤ 3 := by
    refine (Nat.length_toDigits_le_iff (by decide) (by decide)).mpr ?_
    exact Nat.lt_trans octet.toNat_lt (by decide)
  have hplain : ¬ ((Decimal.write octet.toNat).head? = some '0' ∧
      1 < (Decimal.write octet.toNat).length) := by
    rintro ⟨hzero, hlong⟩
    rcases Nat.eq_zero_or_pos octet.toNat with hnil | hpos
    · rw [hnil] at hlong
      exact absurd hlong (by decide)
    · exact Decimal.head?_write_ne_zero hpos hzero
  have hvalue : ¬ 255 < octet.toNat := Nat.not_lt.mpr (Nat.le_of_lt_succ octet.toNat_lt)
  simp only [readOctet?, Text.takeWhile_append hdigits hrest, Text.dropWhile_append hdigits hrest,
    Decimal.value_write]
  rw [if_neg, UInt8.ofNat_toNat]
  simp only [Bool.or_eq_true, Bool.and_eq_true, decide_eq_true_eq, beq_iff_eq, hvalue, or_false,
    List.isEmpty_iff, Decimal.write_ne_nil, Nat.not_lt.mpr hlength, hplain, not_false_iff]

/-- The four numbers with points between them. -/
theorem write_eq (a : AddressV4) (rest : List Char) : a.write ++ rest =
    Decimal.write a.a.toNat ++ '.' :: (Decimal.write a.b.toNat ++ '.' ::
      (Decimal.write a.c.toNat ++ '.' :: (Decimal.write a.d.toNat ++ rest))) := by
  simp [write, List.intercalate, List.intersperse]

theorem read?_write (a : AddressV4) (hrest : Stops Char.isDigit rest) :
    read? (a.write ++ rest) = some (a, rest) := by
  have hpoint : ∀ {s : List Char}, Stops Char.isDigit ('.' :: s) := stops_cons rfl
  simp [write_eq, read?, readPart?, afterSeparator?, readOctet?_write, hpoint, hrest]

/-- What has no point after its first digits is no address. -/
theorem read?_eq_none {cs : List Char} (hcs : (cs.dropWhile Char.isDigit).head? ≠ some '.') :
    read? cs = none := by
  unfold read? readPart? afterSeparator? readOctet?
  simp only [if_true, Option.bind_some]
  split
  · rfl
  · cases hdrop : cs.dropWhile Char.isDigit with
    | nil => rfl
    | cons c rest =>
        have hc : c ≠ '.' := by
          rintro rfl
          exact hcs (by rw [hdrop]; rfl)
        simp [hc]

end AddressV4

/-! ## Version 6 -/

namespace AddressV6

/-- A group as it is written. -/
abbrev writeGroup (group : UInt16) : List Char :=
  Nat.toDigits 16 group.toNat

theorem value?_digitChar : ∀ n < 16, Hex.value? (Nat.digitChar n) = some n := by
  decide

theorem digitChar_ne_point : ∀ n < 16, Nat.digitChar n ≠ '.' := by
  decide

/-- Hexadecimal numerals consist of digits below sixteen. -/
theorem exists_digitChar_of_mem {n : Nat} {c : Char} (hc : c ∈ Nat.toDigits 16 n) :
    ∃ d < 16, c = Nat.digitChar d := by
  induction n using Nat.base_induction 16 (by decide) with
  | single m hm =>
      rw [Nat.toDigits_of_lt_base hm, List.mem_singleton] at hc
      exact ⟨m, hm, hc⟩
  | digit m k hk hm ih =>
      rw [← Nat.toDigits_append_toDigits (by decide) hm hk, List.mem_append,
        Nat.toDigits_of_lt_base hk, List.mem_singleton] at hc
      exact hc.elim ih fun heq => ⟨k, hk, heq⟩

theorem hexValue_toDigits (n : Nat) : hexValue (Nat.toDigits 16 n) = n := by
  induction n using Nat.base_induction 16 (by decide) with
  | single m hm => simp [Nat.toDigits_of_lt_base hm, hexValue, value?_digitChar m hm]
  | digit m k hk hm ih =>
      unfold hexValue at ih ⊢
      rw [← Nat.toDigits_append_toDigits (by decide) hm hk, List.foldl_append, ih,
        Nat.toDigits_of_lt_base hk]
      simp [value?_digitChar k hk, Nat.mul_comm]

theorem isHexDigit_of_mem {group : UInt16} {c : Char} (hc : c ∈ writeGroup group) :
    isHexDigit c = true := by
  obtain ⟨d, hd, rfl⟩ := exists_digitChar_of_mem hc
  rw [isHexDigit, value?_digitChar d hd]
  rfl

theorem point_not_mem_writeGroup (group : UInt16) : '.' ∉ writeGroup group := by
  intro hmem
  obtain ⟨d, hd, heq⟩ := exists_digitChar_of_mem hmem
  exact digitChar_ne_point d hd heq.symm

variable {rest : List Char}

theorem readGroup?_write (group : UInt16) (hrest : Stops isHexDigit rest) :
    readGroup? (writeGroup group ++ rest) = some (group, rest) := by
  have hdigits : ∀ c ∈ writeGroup group, isHexDigit c = true := fun c hc => isHexDigit_of_mem hc
  have hlength : (writeGroup group).length ≤ 4 :=
    (Nat.length_toDigits_le_iff (by decide) (by decide)).mpr group.toNat_lt
  simp only [readGroup?, Text.takeWhile_append hdigits hrest, Text.dropWhile_append hdigits hrest,
    hexValue_toDigits, UInt16.ofNat_toNat]
  refine if_neg ?_
  simp [Nat.not_lt.mpr hlength]

/-- What may follow a group: another one, two colons, or nothing. -/
def FollowsGroup (rest : List Char) : Prop :=
  rest = [] ∨ ∃ s, rest = ':' :: s

theorem FollowsGroup.stops {p : Char → Bool} (hrest : FollowsGroup rest) (hp : p ':' = false) :
    Stops p rest := by
  rcases hrest with rfl | ⟨s, rfl⟩
  · exact stops_nil
  · exact stops_cons hp

/-- A group is not the first number of a version 4 address. -/
theorem readV4?_writeGroup (group : UInt16) (hrest : FollowsGroup rest) :
    AddressV4.read? (writeGroup group ++ rest) = none := by
  refine AddressV4.read?_eq_none ?_
  have hpoint : ∀ front : List Char, '.' ∉ front →
      ((front ++ rest).dropWhile Char.isDigit).head? ≠ some '.' := by
    intro front hfront
    induction front with
    | nil =>
        rcases hrest with rfl | ⟨s, rfl⟩ <;> simp
    | cons c front ih =>
        rw [List.mem_cons, not_or] at hfront
        obtain ⟨hc, hfront⟩ := hfront
        cases hdigit : c.isDigit with
        | true => simpa [hdigit] using ih hfront
        | false => simpa [hdigit] using Ne.symm hc
  exact hpoint _ (point_not_mem_writeGroup group)

/-- The colon before every group but the first. -/
def separator (first : Bool) : List Char :=
  if first then [] else [':']

theorem afterSeparator?_separator (first : Bool) (cs : List Char) :
    afterSeparator? ':' first (separator first ++ cs) = some cs := by
  cases first <;> simp [afterSeparator?, separator]

theorem readGroups_group (first : Bool) (limit : Nat) (group : UInt16)
    (hrest : FollowsGroup rest) :
    readGroups first (limit + 1) (separator first ++ (writeGroup group ++ rest)) =
      ⟨group :: (readGroups false limit rest).groups, (readGroups false limit rest).mapped,
        (readGroups false limit rest).rest⟩ := by
  have hmapped : (if limit = 0 then none else (afterSeparator? ':' first
      (separator first ++ (writeGroup group ++ rest))).bind AddressV4.read?) = none := by
    rw [afterSeparator?_separator, Option.bind_some, readV4?_writeGroup group hrest, ite_self]
  rw [readGroups, hmapped, afterSeparator?_separator]
  simp only [Option.bind_some, readGroup?_write group (hrest.stops (by decide))]

/-- What follows the groups that were written: two colons, or nothing. -/
def EndsGroups (rest : List Char) : Prop :=
  rest = [] ∨ ∃ s, rest = ':' :: ':' :: s

theorem EndsGroups.follows (hrest : EndsGroups rest) : FollowsGroup rest := by
  rcases hrest with rfl | ⟨s, rfl⟩
  · exact Or.inl rfl
  · exact Or.inr ⟨_, rfl⟩

theorem readGroups_end (first : Bool) (limit : Nat) (hrest : EndsGroups rest) :
    readGroups first limit rest = ⟨[], false, rest⟩ := by
  have hcolon : ∀ s, AddressV4.read? (':' :: s) = none ∧ readGroup? (':' :: s) = none := fun s =>
    ⟨AddressV4.read?_eq_none (by simp), rfl⟩
  cases limit with
  | zero => rfl
  | succ limit =>
      rcases hrest with rfl | ⟨s, rfl⟩
      · cases first <;> cases limit <;> rfl
      · cases first <;> simp [readGroups, afterSeparator?, hcolon]

/-- The groups after the first one, each with its colon. -/
def continued (groups : List UInt16) : List Char :=
  groups.flatMap fun group => ':' :: writeGroup group

theorem writeGroups_cons (group : UInt16) (groups : List UInt16) :
    writeGroups (group :: groups) = writeGroup group ++ continued groups := by
  unfold writeGroups continued
  induction groups generalizing group with
  | nil => simp [List.intercalate]
  | cons next groups ih =>
      have htail := ih next
      simp only [List.intercalate, List.map_cons, List.flatMap_cons] at htail ⊢
      rw [List.intersperse_cons_cons, List.flatten_cons, List.flatten_cons, htail]
      simp

theorem follows_continued (groups : List UInt16) (hrest : EndsGroups rest) :
    FollowsGroup (continued groups ++ rest) := by
  cases groups with
  | nil => exact hrest.follows
  | cons group groups => exact Or.inr ⟨_, rfl⟩

theorem readGroups_continued {groups : List UInt16} {limit : Nat} (hlimit : groups.length ≤ limit)
    (hrest : EndsGroups rest) :
    readGroups false limit (continued groups ++ rest) = ⟨groups, false, rest⟩ := by
  induction groups generalizing limit with
  | nil => exact readGroups_end false limit hrest
  | cons group groups ih =>
      obtain ⟨limit, rfl⟩ := Nat.exists_eq_add_of_lt hlimit
      have hread := readGroups_group false (groups.length + limit) group
        (follows_continued groups hrest)
      rw [ih (Nat.le_add_right _ _)] at hread
      simpa [separator, continued] using hread

/-- Groups that were written are read back, as far as the limit allows. -/
theorem readGroups_write {groups : List UInt16} {limit : Nat} (hlimit : groups.length ≤ limit)
    (hrest : EndsGroups rest) :
    readGroups true limit (writeGroups groups ++ rest) = ⟨groups, false, rest⟩ := by
  cases groups with
  | nil => exact readGroups_end true limit hrest
  | cons group groups =>
      obtain ⟨limit, rfl⟩ := Nat.exists_eq_add_of_lt hlimit
      have hread := readGroups_group true (groups.length + limit) group
        (follows_continued groups hrest)
      rw [readGroups_continued (Nat.le_add_right _ _) hrest] at hread
      rw [writeGroups_cons, List.append_assoc]
      exact hread

/-! ### The row of zeros that is left out -/

theorem replicate_leadingZeros (groups : List UInt16) :
    List.replicate (leadingZeros groups) 0 ++ groups.drop (leadingZeros groups) = groups := by
  unfold leadingZeros
  induction groups with
  | nil => rfl
  | cons group groups ih =>
      by_cases hzero : group = 0
      · subst hzero
        simpa [List.replicate_succ] using ih
      · simp [hzero]

/-- Between the groups before the row and those after it there are only zeros. -/
theorem longestZeros_spec (index : Nat) (groups : List UInt16) :
    ∃ start, (longestZeros index groups).1 = index + start ∧
      start + (longestZeros index groups).2 ≤ groups.length ∧
      groups.take start ++ List.replicate (longestZeros index groups).2 0 ++
        groups.drop (start + (longestZeros index groups).2) = groups := by
  induction groups generalizing index with
  | nil => exact ⟨0, rfl, Nat.le_refl _, rfl⟩
  | cons group groups ih =>
      obtain ⟨start, hstart, hlength, hgroups⟩ := ih (index + 1)
      unfold longestZeros
      simp only
      split
      -- The row starts further on, or with the first group.
      · refine ⟨start + 1, by omega, by simp only [List.length_cons]; omega, ?_⟩
        rw [Nat.add_right_comm]
        simpa using hgroups
      · refine ⟨0, rfl, ?_, ?_⟩
        · rw [Nat.zero_add]
          exact (List.takeWhile_sublist _).length_le
        · simpa using replicate_leadingZeros (group :: groups)

/-! ### Addresses -/

theorem joinGroups?_eq {a : AddressV6} {head tail : List UInt16}
    (hgroups : head ++ List.replicate (8 - head.length - tail.length) 0 ++ tail = a.groups) :
    joinGroups? head tail = some a := by
  obtain ⟨groups, hlength⟩ := a
  subst hgroups
  exact dif_pos hlength

theorem read?_of_colons {a : AddressV6} {head : List UInt16} {tailText : List Char}
    {tail : Groups} (hhead : head.length < 8)
    (htail : readGroups true (7 - head.length) tailText = tail)
    (hgroups : head ++ List.replicate (8 - head.length - tail.groups.length) 0 ++ tail.groups =
      a.groups) :
    read? (writeGroups head ++ ':' :: ':' :: tailText) = some (a, tail.rest) := by
  have hread : readGroups true 8 (writeGroups head ++ ':' :: ':' :: tailText) =
      ⟨head, false, ':' :: ':' :: tailText⟩ :=
    readGroups_write (Nat.le_of_lt hhead) (Or.inr ⟨_, rfl⟩)
  simp [read?, hread, Nat.ne_of_lt hhead, htail, joinGroups?_eq hgroups]

theorem toGroups_mapped (high low : UInt16) :
    AddressV4.toGroups ⟨UInt8.ofNat (high.toNat / 256), UInt8.ofNat high.toNat,
      UInt8.ofNat (low.toNat / 256), UInt8.ofNat low.toNat⟩ = [high, low] := by
  have hjoin : ∀ group : UInt16, UInt16.ofNat ((UInt8.ofNat (group.toNat / 256)).toNat * 256 +
      (UInt8.ofNat group.toNat).toNat) = group := by
    intro group
    have hlt : group.toNat < 65536 := group.toNat_lt
    have hsplit : (UInt8.ofNat (group.toNat / 256)).toNat * 256 +
        (UInt8.ofNat group.toNat).toNat = group.toNat := by
      simp only [UInt8.toNat_ofNat']
      omega
    rw [hsplit, UInt16.ofNat_toNat]
  rw [AddressV4.toGroups, hjoin, hjoin]

theorem groups_of_mapped {a : AddressV6} {mapped : AddressV4}
    (hmapped : mappedV4? a = some mapped) :
    a.groups = [0, 0, 0, 0, 0, 0xFFFF] ++ mapped.toGroups := by
  unfold mappedV4? at hmapped
  split at hmapped
  next high low heq =>
    obtain rfl := Option.some.inj hmapped
    rw [toGroups_mapped, heq]
    rfl
  next => cases hmapped

theorem read?_mapped {a : AddressV6} {mapped : AddressV4} (hmapped : mappedV4? a = some mapped) :
    read? ("::ffff:".toList ++ mapped.write) = some (a, []) := by
  -- After the group of ones the version 4 address is tried before another group.
  have hv4 : readGroups false 6 (':' :: mapped.write) = ⟨mapped.toGroups, true, []⟩ := by
    have hread := AddressV4.read?_write mapped stops_nil
    rw [List.append_nil] at hread
    simp [readGroups, afterSeparator?, hread]
  have hfollows : FollowsGroup (':' :: mapped.write) := Or.inr ⟨_, rfl⟩
  have htail := readGroups_group true 6 0xFFFF hfollows
  rw [hv4] at htail
  have hhead : ([] : List UInt16).length < 8 := by decide
  refine read?_of_colons hhead htail ?_
  rw [groups_of_mapped hmapped]
  rfl

/-- A version 6 address is read back. -/
theorem read?_write (a : AddressV6) : read? a.write = some (a, []) := by
  unfold write
  cases hmapped : mappedV4? a with
  | some mapped => exact read?_mapped hmapped
  | none =>
      obtain ⟨start, hstart, hfits, hgroups⟩ := longestZeros_spec 0 a.groups
      rw [Nat.zero_add] at hstart
      rw [a.length_groups] at hfits
      simp only [hstart]
      split
      next hlong =>
        have hhead : (a.groups.take start).length = start :=
          List.length_take_of_le (by rw [a.length_groups]; omega)
        have hcount : (a.groups.drop (start + (longestZeros 0 a.groups).2)).length =
            8 - start - (longestZeros 0 a.groups).2 := by
          rw [List.length_drop, a.length_groups, Nat.sub_sub]
        have hroom : (a.groups.drop (start + (longestZeros 0 a.groups).2)).length ≤
            7 - (a.groups.take start).length := by omega
        have htail := readGroups_write hroom (Or.inl rfl)
        rw [List.append_nil] at htail
        rw [List.append_assoc]
        refine read?_of_colons (by omega) htail ?_
        -- As many zeros are filled in as were left out.
        have hzeros : 8 - start - (8 - start - (longestZeros 0 a.groups).2) =
            (longestZeros 0 a.groups).2 := by omega
        simp only [hhead, hcount, hzeros]
        exact hgroups
      next =>
        have hread := readGroups_write (Nat.le_of_eq a.length_groups) (Or.inl rfl)
        rw [List.append_nil] at hread
        have hjoin : joinGroups? a.groups [] = some a :=
          joinGroups?_eq (by simp [a.length_groups])
        simp [read?, hread, a.length_groups, hjoin]

/-- A version 6 address is not taken for one of version 4. -/
theorem readV4?_write (a : AddressV6) : AddressV4.read? a.write = none := by
  have hcolons : ∀ s, AddressV4.read? (':' :: s) = none := fun s =>
    AddressV4.read?_eq_none (by simp)
  have hgroups : ∀ groups rest, EndsGroups rest → groups ≠ [] ∨ rest ≠ [] →
      AddressV4.read? (writeGroups groups ++ rest) = none := by
    intro groups rest hrest hsome
    cases groups with
    | nil =>
        rcases hrest with rfl | ⟨s, rfl⟩
        · simp at hsome
        · exact hcolons _
    | cons group groups =>
        rw [writeGroups_cons, List.append_assoc]
        exact readV4?_writeGroup group (follows_continued groups hrest)
  unfold write
  split
  · exact hcolons _
  · simp only
    split
    · rw [List.append_assoc]
      exact hgroups _ _ (Or.inr ⟨_, rfl⟩) (Or.inr (List.cons_ne_nil _ _))
    · have hsome : a.groups ≠ [] := List.ne_nil_of_length_pos (by rw [a.length_groups]; decide)
      simpa using hgroups a.groups [] (Or.inl rfl) (Or.inl hsome)

end AddressV6

namespace Address

/-- Every address is read back from its text. -/
theorem parse?_write (a : Address) : parse? a.write = some a := by
  cases a with
  | v4 a =>
      have hread := AddressV4.read?_write a stops_nil
      rw [List.append_nil] at hread
      simp [parse?, write, hread]
  | v6 a => simp [parse?, write, AddressV6.readV4?_write, AddressV6.read?_write]

end Address

end Enrollment
