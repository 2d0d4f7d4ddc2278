import Mathlib.Data.List.Nodup
import ClassMold.Proofs.Sample.Reading

/-! The values that can be read. They are of the kinds of JSON, their texts are of whatever kind
the strings of the text are of, and the keys of an object are distinct. -/
namespace ClassMold.Values
open Sample Spelling Printable Reading

/-- A value that JSON can write. Its texts, its keys included, are of a kind, and no object has a key
twice. -/
inductive IsValue (P : Text → Prop) : Sample → Prop where
  | null : IsValue P .null
  | bool (value : Bool) : IsValue P (.bool value)
  | int (value : Int) : IsValue P (.int value)
  | float (value : Binary64) : IsValue P (.float value)
  | str {value : Text} (kind : P value) : IsValue P (.str value)
  | list {items : List Sample} (each : ∀ item ∈ items, IsValue P item) : IsValue P (.list items)
  | object {members : List (Text × Sample)} (keys : ∀ member ∈ members, P member.1)
      (distinct : (members.map Prod.fst).Nodup) (each : ∀ member ∈ members, IsValue P member.2) :
      IsValue P (.object members)

variable {P : Text → Prop} {t left rest key : Text} {value : Sample} {items : List Sample}
  {members : List (Text × Sample)} {part : Part}

/-! ### Members -/

theorem set_member_keys (key : Text) (value : Sample) (members : List (Text × Sample)) :
    (setMember key value members).map Prod.fst =
      if key ∈ members.map Prod.fst then members.map Prod.fst else members.map Prod.fst ++ [key] := by
  induction members with
  | nil => rfl
  | cons member rest ih =>
    obtain ⟨name, held⟩ := member
    by_cases same : name = key
    · simp [setMember, same]
    · have other : ¬ key = name := fun eq => same eq.symm
      by_cases later : key ∈ rest.map Prod.fst <;> simp_all [setMember]

theorem set_member_distinct (distinct : (members.map Prod.fst).Nodup) :
    ((setMember key value members).map Prod.fst).Nodup := by
  rw [set_member_keys]
  split
  · exact distinct
  · rename_i absent
    rw [← List.concat_eq_append]
    exact distinct.concat absent

theorem set_member_mem {member : Text × Sample} (listed : member ∈ setMember key value members) :
    member = (key, value) ∨ member ∈ members := by
  induction members with
  | nil => exact .inl (List.mem_singleton.mp listed)
  | cons first rest ih =>
    obtain ⟨name, held⟩ := first
    unfold setMember at listed
    split at listed
    · rename_i same
      rcases List.mem_cons.mp listed with rfl | later
      · exact .inl (same ▸ rfl)
      · exact .inr (List.mem_cons_of_mem _ later)
    · rcases List.mem_cons.mp listed with rfl | later
      · exact .inr List.mem_cons_self
      · exact (ih later).imp_right (List.mem_cons_of_mem _)

/-- Of the members that are read some are kept, with distinct keys. -/
theorem collected (members : List (Text × Sample)) :
    (∀ member ∈ collectMembers members, member ∈ members) ∧
      ((collectMembers members).map Prod.fst).Nodup := by
  have folded : ∀ (more kept : List (Text × Sample)), (∀ member ∈ more, member ∈ members) →
      (∀ member ∈ kept, member ∈ members) → (kept.map Prod.fst).Nodup →
      (∀ member ∈ more.foldl (fun collected member => setMember member.1 member.2 collected) kept,
        member ∈ members) ∧
      ((more.foldl (fun collected member => setMember member.1 member.2 collected) kept).map
        Prod.fst).Nodup := by
    intro more
    induction more with
    | nil => exact fun kept _ sound distinct => ⟨sound, distinct⟩
    | cons first more ih =>
      intro kept inside sound distinct
      obtain ⟨own, others⟩ := List.forall_mem_cons.mp inside
      refine ih _ others (fun member listed => ?_) (set_member_distinct distinct)
      rcases set_member_mem listed with rfl | earlier
      · exact own
      · exact sound member earlier
  exact folded members [] (fun _ listed => listed) (List.forall_mem_nil _) List.nodup_nil

theorem set_member_new (absent : key ∉ members.map Prod.fst) :
    setMember key value members = members ++ [(key, value)] := by
  induction members with
  | nil => rfl
  | cons member rest ih =>
    obtain ⟨other, later⟩ := List.ne_and_not_mem_of_not_mem_cons absent
    rw [setMember, if_neg other.symm, ih later]
    rfl

/-- Members with distinct keys stay as they are. -/
theorem collected_all (distinct : (members.map Prod.fst).Nodup) : collectMembers members = members := by
  have folded : ∀ (more kept : List (Text × Sample)), ((kept ++ more).map Prod.fst).Nodup →
      more.foldl (fun collected member => setMember member.1 member.2 collected) kept = kept ++ more := by
    intro more
    induction more with
    | nil => exact fun kept _ => (List.append_nil kept).symm
    | cons member more ih =>
      intro kept distinct
      rw [List.map_append, List.map_cons] at distinct
      have absent : member.1 ∉ kept.map Prod.fst := fun listed =>
        (List.nodup_middle.mp distinct).notMem (List.mem_append_left _ listed)
      rw [List.foldl_cons, set_member_new absent, ih]
      · simp
      · simpa using distinct
  exact folded members [] distinct

/-! ### Words and numbers -/

/-- A value of a kind that a word or a number writes. -/
def IsFlat : Sample → Prop
  | .null | .bool _ | .int _ | .float _ => True
  | _ => False

theorem word_flat (taken : readWord t = some (value, left)) : IsFlat value := by
  unfold readWord at taken
  split at taken
  · rename_i word found search
    cases taken
    have listed := List.mem_of_find?_eq_some search
    simp only [wordValues, List.mem_cons, Prod.mk.injEq, List.not_mem_nil, or_false] at listed
    rcases listed with ⟨-, rfl⟩ | ⟨-, rfl⟩ | ⟨-, rfl⟩ | ⟨-, rfl⟩ | ⟨-, rfl⟩ | ⟨-, rfl⟩ <;> trivial
  · cases taken

theorem magnitude_flat {negative : Bool} (taken : readMagnitude negative t = some (.ok value, left)) :
    IsFlat value := by
  unfold readMagnitude wholeNumber at taken
  split at taken
  · cases taken
  · dsimp only at taken
    split at taken
    · cases taken
      trivial
    · split at taken
      · cases taken
      · cases taken
        trivial

theorem plain_flat {rest : Rest t} (read : readPlain t = .ok (value, rest)) : IsFlat value := by
  unfold readPlain at read
  split at read
  · rename_i taken
    cases read
    exact word_flat taken
  · split at read
    · cases read
    · cases read
    · rename_i taken
      cases read
      unfold readNumber at taken
      split at taken <;> exact magnitude_flat taken

theorem flat_value (flat : IsFlat value) : IsValue P value := by
  cases value with
  | null => exact .null
  | bool value => exact .bool value
  | int value => exact .int value
  | float value => exact .float value
  | _ => cases flat

/-! ### What is read -/

/-- What is read for a part consists of values. -/
def PartHolds (P : Text → Prop) : Part → Sample → Prop
  | .value, value => IsValue P value
  | .items, .list items => ∀ item ∈ items, IsValue P item
  | .members, .object members => ∀ member ∈ members, P member.1 ∧ IsValue P member.2
  | _, _ => False

/-- All strings that are spelled somewhere in a text are of a kind. -/
def AllSpelled (P : Text → Prop) (t : Text) : Prop :=
  ∀ u value rest, u <:+ t → Spells u value rest → P value

theorem all_spelled_suffix {u : Text} (strings : AllSpelled P t) (ends : u <:+ t) : AllSpelled P u :=
  fun v value rest inner => strings v value rest (inner.trans ends)

theorem named_kind {name after : Text} (names : Names t name after) (strings : AllSpelled P t) : P name := by
  cases names with
  | named spelled colon => exact strings _ _ _ (List.suffix_cons _ _) spelled

theorem reads_hold (reads : Reads part t value rest) (strings : AllSpelled P t) :
    PartHolds P part value := by
  induction reads with
  | text spelled => exact .str (strings _ _ _ (List.suffix_cons _ _) spelled)
  | noItems closed => exact .list (List.forall_mem_nil _)
  | items opened inner ih =>
    exact .list (ih (all_spelled_suffix strings ((skip_suffix _).trans (List.suffix_cons _ _))))
  | noMembers closed => exact .object (List.forall_mem_nil _) List.nodup_nil (List.forall_mem_nil _)
  | @members left rest members opened inner ih =>
    have each := ih (all_spelled_suffix strings ((skip_suffix _).trans (List.suffix_cons _ _)))
    obtain ⟨kept, distinct⟩ := collected members
    exact .object (fun member listed => (each member (kept member listed)).1) distinct
      fun member listed => (each member (kept member listed)).2
  | plain noText noList noObject read => exact flat_value (plain_flat read)
  | lastItem first closed ih => exact List.forall_mem_singleton.mpr (ih strings)
  | moreItems first comma more ih ihMore =>
    have ends := (skip_suffix _).trans ((skipped_suffix comma).trans (reads_suffix first))
    exact List.forall_mem_cons.mpr ⟨ih strings, ihMore (all_spelled_suffix strings ends)⟩
  | lastMember named first closed ih =>
    have inner := ih (all_spelled_suffix strings (name_suffix named))
    exact List.forall_mem_singleton.mpr ⟨named_kind named strings, inner⟩
  | moreMembers named first comma more ih ihMore =>
    have inner := ih (all_spelled_suffix strings (name_suffix named))
    have ends := (skip_suffix _).trans
      ((skipped_suffix comma).trans ((reads_suffix first).trans (name_suffix named)))
    exact List.forall_mem_cons.mpr
      ⟨⟨named_kind named strings, inner⟩, ihMore (all_spelled_suffix strings ends)⟩

/-- What is read from a text is a value. -/
theorem read_value (read : Sample.read t = .ok value) (strings : AllSpelled P t) : IsValue P value := by
  obtain ⟨-, rest, reads, -⟩ := read_ok_iff.mp read
  exact reads_hold reads (all_spelled_suffix strings (skip_suffix t))

/-- In a text with bytes no string holds the two halves of a pair next to each other. -/
theorem whole_spelled (printable : IsPrintable t) : AllSpelled Whole t :=
  fun _ _ _ ends spells => spelled_whole spells (printable_suffix printable ends)

end ClassMold.Values
