import Enrollment.Toml.Document

/-!
# Integers of a document

Every integer of a document that was read is below the greatest number of a signed word, wherever it
stands: the reader of integers lets no other one through, and whatever else is done with values only
moves them into lists and tables.
-/

namespace Enrollment.Toml

/-- All integers in a value are below the bound of signed words. -/
inductive Value.Fits : Value → Prop
  | text (s : String) : Fits (.text s)
  | integer {n : Int} (hn : n < signedSize) : Fits (.integer n)
  | real : Fits .real
  | flag (b : Bool) : Fits (.flag b)
  | moment : Fits .moment
  | list {values : List Value} (hvalues : ∀ v ∈ values, Fits v) : Fits (.list values)
  | table {members : List (String × Value)} (hmembers : ∀ m ∈ members, Fits m.2) :
      Fits (.table members)

/-- All integers in a table under construction are below the bound of signed words. -/
inductive Node.Fits : Node → Prop
  | value {v : Value} (hv : v.Fits) : Fits (.value v)
  | table {origin : Origin} {members : List (String × Node)} (hmembers : ∀ m ∈ members, Fits m.2) :
      Fits (.table origin members)
  | tables {elements : List (List (String × Node))}
      (helements : ∀ members ∈ elements, ∀ m ∈ members, Fits m.2) : Fits (.tables elements)

/-- All members fit. -/
def Members.Fit (members : Members) : Prop :=
  ∀ m ∈ members, m.2.Fits

/-- What a reader of values reads fits. -/
def ReadsFitting (read : Reader Value) : Prop :=
  ∀ cs v rest, read cs = some (v, rest) → v.Fits

/-! ## Finished tables -/

theorem forall_mem_toValues {P : Value → Prop} {members : Members}
    (hmembers : ∀ m ∈ members, P m.2.toValue) : ∀ m ∈ toValues members, P m.2 := by
  induction members with
  | nil => simp [toValues]
  | cons m members ih =>
      simp only [toValues, List.forall_mem_cons] at hmembers ⊢
      exact ⟨hmembers.1, ih hmembers.2⟩

theorem fits_of_mem_toTables {elements : List Members}
    (helements : ∀ members ∈ elements, ∀ m ∈ members, m.2.toValue.Fits) :
    ∀ v ∈ toTables elements, v.Fits := by
  induction elements with
  | nil => simp [toTables]
  | cons members elements ih =>
      simp only [toTables, List.forall_mem_cons] at helements ⊢
      exact ⟨.table (forall_mem_toValues helements.1), ih helements.2⟩

theorem Node.Fits.toValue {node : Node} (hnode : node.Fits) : node.toValue.Fits := by
  induction hnode with
  | value hv => simpa [Node.toValue] using hv
  | table _ ih => simpa [Node.toValue] using Value.Fits.table (forall_mem_toValues ih)
  | tables _ ih =>
      rw [Node.toValue]
      exact .list fun v hv => fits_of_mem_toTables ih v (List.mem_reverse.mp hv)

theorem Members.Fit.toValues {members : Members} (hmembers : members.Fit) :
    ∀ m ∈ toValues members, m.2.Fits :=
  forall_mem_toValues fun m hm => (hmembers m hm).toValue

/-! ## Changes of members -/

namespace Members

variable {members members' : Members} {key : String} {node : Node} {path : List String}

theorem fit_nil : Fit [] := by
  intro m hm
  cases hm

theorem Fit.lookup (hmembers : members.Fit) (hlookup : members.lookup key = some node) :
    node.Fits := by
  obtain ⟨before, after, rfl, -⟩ := List.lookup_eq_some_iff.mp hlookup
  exact hmembers (key, node) (by simp)

theorem Fit.put (hmembers : members.Fit) (hnode : node.Fits) : (members.put key node).Fit := by
  unfold Members.put
  split
  · intro m hm
    obtain ⟨m', hm', rfl⟩ := List.mem_map.mp hm
    split
    · exact hnode
    · exact hmembers m' hm'
  · intro m hm
    rcases List.mem_append.mp hm with hold | hnew
    · exact hmembers m hold
    · obtain rfl := List.mem_singleton.mp hnew
      exact hnode

theorem Fit.remove (hmembers : members.Fit) : (members.remove key).Fit :=
  fun m hm => hmembers m (List.mem_filter.mp hm).1

theorem fit_of_table {origin : Origin} (hnode : Node.Fits (.table origin members)) :
    members.Fit := by
  cases hnode with
  | table hmembers => exact hmembers

theorem fits_replaceLast {last : Members} {before : List Members}
    (hnode : Node.Fits (.tables (last :: before))) {last' : Members} (hlast : last'.Fit) :
    Node.Fits (.tables (last' :: before)) := by
  cases hnode with
  | tables helements =>
      exact .tables (List.forall_mem_cons.mpr ⟨hlast, (List.forall_mem_cons.mp helements).2⟩)

theorem fit_of_last {last : Members} {before : List Members}
    (hnode : Node.Fits (.tables (last :: before))) : last.Fit := by
  cases hnode with
  | tables helements => exact helements last List.mem_cons_self

theorem Fit.addDotted {v : Value} (hmembers : members.Fit) (hv : v.Fits)
    (hadd : members.addDotted path key v = some members') : members'.Fit := by
  induction path generalizing members members' with
  | nil =>
      unfold Members.addDotted at hadd
      split at hadd
      · cases hadd
      · cases hadd
        exact hmembers.put (.value hv)
  | cons name path ih =>
      unfold Members.addDotted at hadd
      split at hadd
      next =>
        obtain ⟨inner, hinner, rfl⟩ := Option.map_eq_some_iff.mp hadd
        exact hmembers.put (.table (ih fit_nil hinner))
      next heq =>
        split at hadd
        · cases hadd
        · obtain ⟨inner, hinner, rfl⟩ := Option.map_eq_some_iff.mp hadd
          exact hmembers.put (.table (ih (fit_of_table (hmembers.lookup heq)) hinner))
      next heq =>
        split at hadd
        · cases hadd
        · obtain ⟨inner, hinner, rfl⟩ := Option.map_eq_some_iff.mp hadd
          have hnode := hmembers.lookup heq
          exact hmembers.put (fits_replaceLast hnode (ih (fit_of_last hnode) hinner))
      next => cases hadd

theorem Fit.modifyAt {change : Members → Option Members}
    (hchange : ∀ members members', Fit members → change members = some members' → members'.Fit)
    (hmembers : members.Fit) (hmodify : members.modifyAt change path = some members') :
    members'.Fit := by
  induction path generalizing members members' with
  | nil => exact hchange members members' hmembers hmodify
  | cons name path ih =>
      unfold Members.modifyAt at hmodify
      split at hmodify
      next =>
        obtain ⟨inner, hinner, rfl⟩ := Option.map_eq_some_iff.mp hmodify
        exact hmembers.put (.table (ih fit_nil hinner))
      next heq =>
        obtain ⟨inner, hinner, rfl⟩ := Option.map_eq_some_iff.mp hmodify
        exact hmembers.put (.table (ih (fit_of_table (hmembers.lookup heq)) hinner))
      next heq =>
        obtain ⟨inner, hinner, rfl⟩ := Option.map_eq_some_iff.mp hmodify
        have hnode := hmembers.lookup heq
        exact hmembers.put (fits_replaceLast hnode (ih (fit_of_last hnode) hinner))
      next => cases hmodify

theorem Fit.follow? (hmembers : members.Fit) (hfollow : members.follow? path = some members') :
    members'.Fit := by
  induction path generalizing members with
  | nil =>
      cases hfollow
      exact hmembers
  | cons name path ih =>
      unfold Members.follow? at hfollow
      split at hfollow
      next => exact ih fit_nil hfollow
      next heq => exact ih (fit_of_table (hmembers.lookup heq)) hfollow
      next heq => exact ih (fit_of_last (hmembers.lookup heq)) hfollow
      next => cases hfollow

end Members

/-! ## Reading values -/

theorem inWord?_lt {negative : Bool} {n : Nat} {m : Int} (hm : inWord? negative n = some m) :
    m < signedSize := by
  unfold inWord? at hm
  split at hm
  · split at hm
    · cases hm
      simp only [signedSize]
      omega
    · cases hm
  · split at hm
    next hsmall =>
      cases hm
      exact Int.ofNat_lt.mpr hsmall
    next => cases hm

theorem readInteger_lt {cs rest : List Char} {n : Int} (hread : readInteger cs = some (n, rest)) :
    n < signedSize := by
  have hbased (base : Nat) (cs : List Char) (hread : readBased base cs = some (n, rest)) :
      n < signedSize := by
    simp only [readBased, Option.bind_eq_bind, Option.bind_eq_some_iff] at hread
    obtain ⟨_, -, m, hm, heq⟩ := hread
    cases heq
    exact inWord?_lt hm
  unfold readInteger at hread
  split at hread
  · exact hbased _ _ hread
  · exact hbased _ _ hread
  · exact hbased _ _ hread
  · simp only [Option.bind_eq_bind, Option.bind_eq_some_iff] at hread
    obtain ⟨_, -, m, hm, heq⟩ := hread
    cases heq
    exact inWord?_lt hm

theorem readsFitting_readScalar : ReadsFitting readScalar := by
  intro cs v rest hread
  unfold readScalar at hread
  split at hread
  next => cases hread
  next =>
    split at hread
    · obtain ⟨_, -, heq⟩ := Option.map_eq_some_iff.mp hread
      cases heq
      exact .text _
    · split at hread
      · cases hread
        exact .flag _
      · cases hread
        exact .flag _
      · split at hread
        next =>
          cases hread
          exact .moment
        next =>
          cases hread
          exact .real
        next hinteger =>
          cases hread
          exact .integer (readInteger_lt hinteger)
        next => cases hread

section Containers

variable {element : Reader Value} {cs rest : List Char}

theorem fits_of_readList {values : List Value} (helement : ReadsFitting element)
    (hread : readList element cs = some (values, rest)) : ∀ v ∈ values, v.Fits := by
  have hgo : ∀ fuel cs values rest, readList.go element fuel cs = some (values, rest) →
      ∀ v ∈ values, v.Fits := by
    intro fuel
    induction fuel with
    | zero => intro cs values rest hread; cases hread
    | succ fuel ih =>
        intro cs values rest hread
        simp only [readList.go] at hread
        split at hread
        next =>
          cases hread
          simp
        next =>
          simp only [Option.bind_eq_bind, Option.bind_eq_some_iff] at hread
          obtain ⟨⟨v, after⟩, hv, hread⟩ := hread
          have hfirst := helement _ v after hv
          dsimp only at hread
          split at hread
          next =>
            obtain ⟨⟨vs, left⟩, hvs, heq⟩ := Option.bind_eq_some_iff.mp hread
            cases heq
            exact List.forall_mem_cons.mpr ⟨hfirst, ih _ vs left hvs⟩
          next =>
            obtain ⟨left, -, heq⟩ := Option.map_eq_some_iff.mp hread
            cases heq
            simpa using hfirst
  exact hgo _ _ _ _ hread

theorem fits_of_readMember {member : List String × Value} (helement : ReadsFitting element)
    (hread : readMember element cs = some (member, rest)) : member.2.Fits := by
  simp only [readMember, Option.bind_eq_bind, Option.bind_eq_some_iff] at hread
  obtain ⟨⟨key, _⟩, -, _, -, ⟨v, _⟩, hv, heq⟩ := hread
  cases heq
  exact helement _ _ _ hv

theorem fit_of_addMember {members members' : Members} {member : List String × Value}
    (hmembers : members.Fit) (hmember : member.2.Fits)
    (hadd : addMember members member = some members') : members'.Fit :=
  hmembers.addDotted hmember hadd

theorem fit_of_readMembers {members : Members} (helement : ReadsFitting element)
    (hread : readMembers element cs = some (members, rest)) : members.Fit := by
  have hgo : ∀ fuel cs before members rest, Members.Fit before →
      readMembers.go element fuel before cs = some (members, rest) → members.Fit := by
    intro fuel
    induction fuel with
    | zero => intro cs before members rest _ hread; cases hread
    | succ fuel ih =>
        intro cs before members rest hbefore hread
        simp only [readMembers.go, Option.bind_eq_bind, Option.bind_eq_some_iff] at hread
        obtain ⟨⟨member, _⟩, hmember, added, hadded, hread⟩ := hread
        have hfit := fit_of_addMember hbefore (fits_of_readMember helement hmember) hadded
        split at hread
        next => exact ih _ _ _ _ hfit hread
        next =>
          obtain ⟨_, -, heq⟩ := Option.map_eq_some_iff.mp hread
          cases heq
          exact hfit
  unfold readMembers at hread
  split at hread
  next =>
    cases hread
    exact Members.fit_nil
  next => exact hgo _ _ _ _ _ Members.fit_nil hread

theorem readsFitting_readValue (depth : Nat) : ReadsFitting (readValue depth) := by
  induction depth with
  | zero => exact readsFitting_readScalar
  | succ depth ih =>
      intro cs v rest hread
      unfold readValue at hread
      split at hread
      next =>
        obtain ⟨⟨values, _⟩, hvalues, heq⟩ := Option.map_eq_some_iff.mp hread
        cases heq
        exact .list (fits_of_readList ih hvalues)
      next =>
        obtain ⟨⟨members, _⟩, hmembers, heq⟩ := Option.map_eq_some_iff.mp hread
        cases heq
        exact .table (fit_of_readMembers ih hmembers).toValues
      next => exact readsFitting_readScalar _ _ _ hread

end Containers

/-! ## Reading documents -/

namespace Draft

variable {d d' : Draft} {path : List String} {key : String} {cs rest : List Char}

/-- All members of a draft fit. -/
structure Fit (d : Draft) : Prop where
  root : d.root.Fit
  members : d.members.Fit

theorem Fit.close {members : Members} (hd : d.Fit) (hclose : d.close = some members) :
    members.Fit := by
  unfold Draft.close at hclose
  split at hclose
  next =>
    cases hclose
    exact hd.members
  next =>
    refine hd.root.modifyAt (fun parent parent' hparent hput => ?_) hclose
    cases hput
    exact hparent.put (.table hd.members)
  next =>
    refine hd.root.modifyAt (fun parent parent' hparent hput => ?_) hclose
    split at hput
    next =>
      cases hput
      exact hparent.put (.tables (List.forall_mem_singleton.mpr hd.members))
    next heq =>
      cases hput
      have hnode := hparent.lookup heq
      cases hnode with
      | tables helements =>
          exact hparent.put (.tables (List.forall_mem_cons.mpr ⟨hd.members, helements⟩))
    next => cases hput

theorem Fit.openTable (hd : d.Fit) (hopen : d.openTable path key = some d') : d'.Fit := by
  simp only [Draft.openTable, Option.bind_eq_bind, Option.bind_eq_some_iff] at hopen
  obtain ⟨root, hclose, parent, hfollow, hopen⟩ := hopen
  have hroot := hd.close hclose
  split at hopen
  next =>
    obtain ⟨root', hmodify, heq⟩ := Option.bind_eq_some_iff.mp hopen
    cases heq
    refine ⟨hroot.modifyAt (fun _ _ hparent hsame => ?_) hmodify, Members.fit_nil⟩
    cases hsame
    exact hparent
  next heq =>
    obtain ⟨root', hmodify, heq'⟩ := Option.bind_eq_some_iff.mp hopen
    cases heq'
    refine ⟨hroot.modifyAt (fun _ _ hparent hremove => ?_) hmodify,
      Members.fit_of_table ((hroot.follow? hfollow).lookup heq)⟩
    cases hremove
    exact hparent.remove
  next => cases hopen

theorem Fit.openElement (hd : d.Fit) (hopen : d.openElement path key = some d') : d'.Fit := by
  simp only [Draft.openElement, Option.bind_eq_bind, Option.bind_eq_some_iff] at hopen
  obtain ⟨root, hclose, _, -, root', hmodify, hopen⟩ := hopen
  have hroot' : root'.Fit := by
    refine (hd.close hclose).modifyAt (fun _ _ hparent hsame => ?_) hmodify
    cases hsame
    exact hparent
  split at hopen
  · cases hopen
    exact ⟨hroot', Members.fit_nil⟩
  · cases hopen
    exact ⟨hroot', Members.fit_nil⟩
  · cases hopen

theorem Fit.readHeader (hd : d.Fit) (hread : d.readHeader cs = some (d', rest)) : d'.Fit := by
  unfold Draft.readHeader at hread
  split at hread
  next =>
    simp only [Option.bind_eq_bind, Option.bind_eq_some_iff] at hread
    obtain ⟨_, -, _, -, _, hopen, heq⟩ := hread
    cases heq
    exact hd.openElement hopen
  next =>
    simp only [Option.bind_eq_bind, Option.bind_eq_some_iff] at hread
    obtain ⟨_, -, _, -, _, hopen, heq⟩ := hread
    cases heq
    exact hd.openTable hopen

theorem Fit.readItem (hd : d.Fit) (hread : d.readItem cs = some (d', rest)) : d'.Fit := by
  unfold Draft.readItem at hread
  split at hread
  next => exact hd.readHeader hread
  next =>
    simp only [Option.bind_eq_bind, Option.bind_eq_some_iff] at hread
    obtain ⟨⟨member, _⟩, hmember, members, hadd, heq⟩ := hread
    cases heq
    have hfits := fits_of_readMember (readsFitting_readValue maxDepth) hmember
    exact ⟨hd.root, fit_of_addMember hd.members hfits hadd⟩

theorem Fit.readLines {fuel : Nat} (hd : d.Fit) (hread : readLines fuel d cs = some d') :
    d'.Fit := by
  induction fuel generalizing d cs with
  | zero =>
      unfold Draft.readLines at hread
      split at hread
      · cases hread
        exact hd
      · cases hread
  | succ fuel ih =>
      unfold Draft.readLines at hread
      split at hread
      · cases hread
        exact hd
      · split at hread
        next => exact ih hd hread
        next =>
          simp only [Option.bind_eq_bind, Option.bind_eq_some_iff] at hread
          obtain ⟨⟨d₁, _⟩, hitem, _, -, hread⟩ := hread
          exact ih (hd.readItem hitem) hread

end Draft

/-- The integers of a document fit in a signed word. -/
theorem fits_of_parse? {text : String} {members : List (String × Value)}
    (hparse : parse? text = some members) : ∀ m ∈ members, m.2.Fits := by
  simp only [parse?, Option.bind_eq_bind, Option.bind_eq_some_iff] at hparse
  obtain ⟨d, hread, closed, hclose, heq⟩ := hparse
  cases heq
  have hd : Draft.empty.Fit := ⟨Members.fit_nil, Members.fit_nil⟩
  exact ((hd.readLines hread).close hclose).toValues

end Enrollment.Toml
