import Mathlib.Data.List.Induction
import ClassMold.Proofs.Inference.Reach
import ClassMold.Proofs.Sample.Values

/-! Members that are written more than once. Of the members of an object the reader keeps one for
each key, at the place of the first with that key and with the value of the last; what it gives for
a document is the document with this done in each object. A member that is written over leaves
nothing of itself, so the objects that classes stand for can be told from the document as it is
written: only last members lead to them. -/
namespace ClassMold.LastMembers
open Sample Reach Values

/-- The member is the last one with its key. -/
def IsLast {α : Type} (members : List (Text × α)) (member : Text × α) : Prop :=
  ∃ before after, members = before ++ member :: after ∧ member.1 ∉ after.map Prod.fst

/-- The keys of some members, each once, in the order in which they occur first. -/
def keysOf {α : Type} (members : List (Text × α)) : List Text := (members.map Prod.fst).eraseDups

/-- For each key, where it occurs first, the last member that has it. -/
def lastOfEach {α : Type} (members : List (Text × α)) : List (Text × α) :=
  (keysOf members).filterMap fun key => members.reverse.find? (·.1 == key)

mutual

/-- What is kept of a document: one member for each key in each of its objects. -/
def kept : Sample → Sample
  | .list items => .list (keptItems items)
  | .object members => .object (lastOfEach (keptMembers members))
  | other => other

/-- What is kept of each item of a list. -/
def keptItems : List Sample → List Sample
  | [] => []
  | item :: rest => kept item :: keptItems rest

/-- What is kept of the value of each member. -/
def keptMembers : List (Text × Sample) → List (Text × Sample)
  | [] => []
  | (key, value) :: rest => (key, kept value) :: keptMembers rest

end

mutual

/-- The objects that classes stand for, as they are written, each before those below it. -/
def writtenObjects : Sample → List (List (Text × Sample))
  | .list (first :: _) => writtenObjects first
  | .object members => members :: (lastOfEach (writtenBelow members)).flatMap fun below =>
    if SpellsLibraryType below.1 then [] else below.2
  | _ => []

/-- For each member its key and the objects that its value leads to. -/
def writtenBelow : List (Text × Sample) → List (Text × List (List (Text × Sample)))
  | [] => []
  | (key, value) :: rest => (key, writtenObjects value) :: writtenBelow rest

end

section Members

variable {α β : Type} {members : List (Text × α)} {member : Text × α} {key : Text}

/-! ### Last members -/

theorem find_last_iff : members.reverse.find? (·.1 == key) = some member ↔
    member.1 = key ∧ IsLast members member := by
  rw [List.find?_eq_some_iff_append, beq_iff_eq]
  refine and_congr_right fun same => ⟨?_, ?_⟩
  · rintro ⟨before, after, shape, others⟩
    refine ⟨after.reverse, before.reverse, ?_, fun listed => ?_⟩
    · rw [List.reverse_eq_iff.mp shape]
      simp
    · obtain ⟨other, later, eq⟩ := List.mem_map.mp listed
      have apart := others other (List.mem_reverse.mp later)
      simp [eq, same] at apart
  · rintro ⟨before, after, rfl, absent⟩
    refine ⟨after.reverse, before.reverse, by simp, fun other later => ?_⟩
    have apart : other.1 ≠ key := fun eq => absent
      (List.mem_map.mpr ⟨other, List.mem_reverse.mp later, eq.trans same.symm⟩)
    simpa using apart

theorem last_listed (last : IsLast members member) : member ∈ members := by
  obtain ⟨before, after, rfl, -⟩ := last
  simp

theorem mem_last_iff : member ∈ lastOfEach members ↔ IsLast members member := by
  simp only [lastOfEach, List.mem_filterMap, find_last_iff]
  refine ⟨fun ⟨_, _, _, last⟩ => last, fun last => ⟨member.1, ?_, rfl, last⟩⟩
  exact List.mem_eraseDups.mpr (List.mem_map_of_mem (last_listed last))

/-- Every key has its place among the last members. -/
theorem last_keys (members : List (Text × α)) : (lastOfEach members).map Prod.fst = keysOf members := by
  have each : ∀ key ∈ keysOf members, (members.reverse.find? (·.1 == key)).map Prod.fst = some key := by
    intro key listed
    obtain ⟨own, member, rfl⟩ := List.mem_map.mp (List.mem_eraseDups.mp listed)
    have some : (members.reverse.find? (·.1 == own.1)).isSome = true :=
      List.find?_isSome.mpr ⟨own, List.mem_reverse.mpr member, by simp⟩
    obtain ⟨last, found⟩ := Option.isSome_iff_exists.mp some
    rw [found, Option.map_some, (find_last_iff.mp found).1]
  rw [lastOfEach, List.map_filterMap, List.filterMap_congr each, List.filterMap_some]

/-- What is done to the values does not change which members are last. -/
theorem last_map (f : α → β) (members : List (Text × α)) :
    lastOfEach (members.map fun member => (member.1, f member.2)) =
      (lastOfEach members).map fun member => (member.1, f member.2) := by
  have keys : keysOf (members.map fun member => (member.1, f member.2)) = keysOf members := by
    rw [keysOf, List.map_map]
    rfl
  rw [lastOfEach, keys, lastOfEach, List.map_filterMap]
  refine List.filterMap_congr fun key _ => ?_
  rw [← List.map_reverse, List.find?_map]
  rfl

/-- Members with distinct keys can be told from their keys. -/
theorem found_by_keys (distinct : (members.map Prod.fst).Nodup) :
    ((members.map Prod.fst).filterMap fun key => members.find? (·.1 == key)) = members := by
  induction members with
  | nil => rfl
  | cons member rest ih =>
    obtain ⟨absent, others⟩ := List.nodup_cons.mp distinct
    have later : ∀ key ∈ rest.map Prod.fst,
        (member :: rest).find? (·.1 == key) = rest.find? (·.1 == key) := by
      intro key listed
      have apart : member.1 ≠ key := fun same => absent (same ▸ listed)
      rw [List.find?_cons_of_neg (by simpa using apart)]
    have own : (member :: rest).find? (·.1 == member.1) = some member := by simp
    rw [List.map_cons, List.filterMap_cons, own, List.filterMap_congr later, ih others]

end Members

/-! ### What the reader keeps -/

variable {key name : Text} {value : Sample} {members : List (Text × Sample)}

theorem collected_snoc (members : List (Text × Sample)) (member : Text × Sample) :
    collectMembers (members ++ [member]) = setMember member.1 member.2 (collectMembers members) := by
  rw [collectMembers, List.foldl_append]
  rfl

theorem found_when_set (key name : Text) (value : Sample) (members : List (Text × Sample)) :
    (setMember key value members).find? (·.1 == name) =
      if key = name then some (key, value) else members.find? (·.1 == name) := by
  induction members with
  | nil => by_cases same : key = name <;> simp [setMember, same]
  | cons member rest ih =>
    obtain ⟨other, held⟩ := member
    by_cases own : other = key
    · subst own
      by_cases same : other = name <;> simp [setMember, same]
    · by_cases same : other = name
      · subst same
        simp [setMember, own, Ne.symm own]
      · simp [setMember, own, same, ih]

theorem keys_snoc (members : List (Text × Sample)) (member : Text × Sample) :
    keysOf (members ++ [member]) =
      if member.1 ∈ keysOf members then keysOf members else keysOf members ++ [member.1] := by
  rw [keysOf, List.map_append, List.eraseDups_append]
  by_cases listed : member.1 ∈ members.map Prod.fst <;>
    simp [keysOf, List.removeAll, List.mem_eraseDups, List.eraseDups_cons, listed, -List.mem_map]

theorem collected_keys (members : List (Text × Sample)) :
    (collectMembers members).map Prod.fst = keysOf members := by
  induction members using List.reverseRecOn with
  | nil => rfl
  | append_singleton members member ih =>
    rw [collected_snoc, set_member_keys, ih, keys_snoc]

theorem collected_found (members : List (Text × Sample)) (key : Text) :
    (collectMembers members).find? (·.1 == key) = members.reverse.find? (·.1 == key) := by
  induction members using List.reverseRecOn with
  | nil => rfl
  | append_singleton members member ih =>
    obtain ⟨own, value⟩ := member
    rw [collected_snoc, found_when_set, ih, List.reverse_append]
    by_cases same : own = key <;> simp [same]

/-- Of the members that are read the last with each key are kept. -/
theorem collected_last (members : List (Text × Sample)) : collectMembers members = lastOfEach members := by
  have all := found_by_keys (collected members).2
  rw [collected_keys] at all
  rw [← all, lastOfEach]
  exact List.filterMap_congr fun key _ => collected_found members key

theorem kept_members_map (members : List (Text × Sample)) :
    keptMembers members = members.map fun member => (member.1, kept member.2) := by
  induction members with
  | nil => rfl
  | cons member rest ih => rw [keptMembers, ih, List.map_cons]

theorem written_below_map (members : List (Text × Sample)) :
    writtenBelow members = members.map fun member => (member.1, writtenObjects member.2) := by
  induction members with
  | nil => rfl
  | cons member rest ih => rw [writtenBelow, ih, List.map_cons]

/-- The members that are kept of an object: the last with each key, with what is kept of their values. -/
def keptOf (members : List (Text × Sample)) : List (Text × Sample) := lastOfEach (keptMembers members)

theorem kept_of_map (members : List (Text × Sample)) :
    keptOf members = (lastOfEach members).map fun member => (member.1, kept member.2) := by
  rw [keptOf, kept_members_map, last_map]

theorem kept_tip (value : Sample) : (kept value).tip = kept value.tip := by
  induction value using Sample.tip.induct with
  | case1 first later ih => simpa only [kept, keptItems, tip] using ih
  | case2 value notCons =>
    rw [tip.eq_2 value notCons]
    cases value with
    | list items =>
      cases items with
      | nil => rfl
      | cons first later => exact absurd rfl (notCons first later)
    | _ => rfl

/-- A document leads to an object exactly if what is kept of it does. -/
theorem kept_tip_object (value : Sample) :
    (∃ members, (kept value).tip = .object members) ↔ ∃ members, value.tip = .object members := by
  rw [kept_tip]
  cases value.tip <;> simp [kept]

theorem objects_below (members : List (Text × Sample)) :
    objectsBelow members =
      members.flatMap fun member => if SpellsLibraryType member.1 then [] else member.2.objects := by
  induction members with
  | nil => rfl
  | cons member rest ih => rw [objectsBelow, ih, List.flatMap_cons]

/-- The objects of what is kept are what is kept of the objects that are written. -/
theorem kept_objects (value : Sample) : (kept value).objects = (writtenObjects value).map keptOf := by
  refine (writtenObjects.mutual_induct
    (fun value => (kept value).objects = (writtenObjects value).map keptOf)
    (fun members => ∀ member ∈ members, (kept member.2).objects = (writtenObjects member.2).map keptOf)
    ?_ ?_ ?_ ?_ ?_).1 value
  · intro first later ih
    simpa only [kept, keptItems, objects, writtenObjects] using ih
  · intro members ih
    have below : objectsBelow (keptOf members) =
        (lastOfEach (writtenBelow members)).flatMap fun below =>
          (if SpellsLibraryType below.1 then [] else below.2).map keptOf := by
      rw [objects_below, kept_of_map, written_below_map, last_map, List.flatMap_map, List.flatMap_map]
      refine List.flatMap_congr fun member listed => ?_
      rw [ih member (last_listed (mem_last_iff.mp listed))]
      split <;> rfl
    rw [kept, objects, writtenObjects, List.map_cons, List.map_flatMap, ← below]
    rfl
  · intro value notCons notObject
    rw [writtenObjects.eq_3 value notCons notObject]
    refine (nothing_reached fun members shape => ?_).2
    obtain ⟨_, same⟩ := (kept_tip_object value).mp ⟨members, shape⟩
    rw [tip.eq_2 value notCons] at same
    exact notObject _ same
  · exact List.forall_mem_nil _
  · intro key value rest ih ihRest
    exact List.forall_mem_cons.mpr ⟨ih, ihRest⟩

end ClassMold.LastMembers
