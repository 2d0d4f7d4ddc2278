import ClassMold.Proofs.Inference.CustomTypes
import ClassMold.Proofs.Naming.SharedNames

/-! Which classes of a tree are named alike. A class is named by its key alone, so two
classes of one scope meet exactly where their keys do, and a class meets one around it
exactly where its key leads to that name. Where no two classes nested in one class meet,
the type of a field means the class of the object that the field's value leads to: a
type name is looked up in the class itself before the classes around it. -/
namespace ClassMold.ClassScopes
open Sample Steps Mirroring SharedNames

/-! ### Scopes -/

mutual

/-- The classes of a tree in the order of the walk, each with the classes around it, the
innermost first. -/
def scopes (outer : List ClassTree) : ClassTree → List (ClassTree × List ClassTree)
  | .node name depth fields nested =>
    (.node name depth fields nested, outer) ::
      allScopes (.node name depth fields nested :: outer) nested

/-- The classes of several trees, which stand in the same classes. -/
def allScopes (outer : List ClassTree) : List ClassTree → List (ClassTree × List ClassTree)
  | [] => []
  | c :: rest => scopes outer c ++ allScopes outer rest

end

/-- The classes that a type name can mean, for a class and those around it: the ones of
this name in the innermost class that has any, and else the outermost class itself. -/
def meant (name : Text) : List ClassTree → List ClassTree
  | [] => []
  | c :: outer =>
    match c.nested.filter (·.name = name) with
    | [] => if outer.isEmpty ∧ c.name = name then [c] else meant name outer
    | own => own

/-- A class whose nested classes are named apart from each other and from all classes
around them. -/
def NamesApart (scope : ClassTree × List ClassTree) : Prop :=
  (scope.1.nested.map ClassTree.name).Nodup ∧
    ∀ inner ∈ scope.1.nested, ∀ around ∈ scope.1 :: scope.2, inner.name ≠ around.name

mutual

/-- The objects that classes stand for, each with the names of its class and of those
around, as the keys on the way to it tell. -/
def objectScopes (outer : List Text) (name : Text) : Sample → List (List (Text × Sample) × List Text)
  | .list (first :: _) => objectScopes outer name first
  | .object members => (members, name :: outer) :: memberScopes (name :: outer) members
  | _ => []

/-- The objects that the members of one object lead to. -/
def memberScopes (outer : List Text) : List (Text × Sample) → List (List (Text × Sample) × List Text)
  | [] => []
  | (key, value) :: rest =>
    (if SpellsLibraryType key then [] else objectScopes outer (memberClass (key, value)) value) ++
      memberScopes outer rest

end

/-- Whether a class stands for the object that a member leads to. -/
def leadsToClass (member : Text × Sample) : Bool :=
  match member.2.tip with
  | .object _ => !SpellsLibraryType member.1
  | _ => false

/-- Keys that lead to names apart from each other and from all those around. -/
def KeysApart (object : List (Text × Sample) × List Text) : Prop :=
  (object.1.filter leadsToClass).Pairwise (¬ ClassesMeet · ·) ∧
    ∀ member ∈ object.1.filter leadsToClass, memberClass member ∉ object.2

variable {key name : Text} {value : Sample} {inner members : List (Text × Sample)} {depth : Int}
  {fields : List Field} {nested outer : List ClassTree} {c : ClassTree}

/-! ### One class -/

theorem classed_leads (classed : IsClassed key value inner) : leadsToClass (key, value) = true := by
  simp [leadsToClass, classed.1, classed.2]

theorem plain_leads_not (plain : IsPlain key value) : leadsToClass (key, value) = false := by
  unfold leadsToClass
  split
  · rename_i inner shape
    simp [plain.2 inner shape]
  · rfl

/-- The nested classes of a class have the names that the keys of its object tell. -/
theorem built_names (built : Built depth members fields nested) :
    nested.map ClassTree.name = (members.filter leadsToClass).map memberClass := by
  induction built with
  | nil => rfl
  | plain plain fixed rest ih => simpa [plain_leads_not plain] using ih
  | classed classed ran rest ih =>
    simp [classed_leads classed, ih, (class_name_depth ran).1, memberClass]

theorem named_alone {c : ClassTree} (apart : (nested.map ClassTree.name).Nodup) (listed : c ∈ nested) :
    nested.filter (·.name = c.name) = [c] := by
  induction nested with
  | nil => cases listed
  | cons d nested ih =>
    rw [List.map_cons, List.nodup_cons] at apart
    rcases List.mem_cons.mp listed with rfl | later
    · have others : nested.filter (·.name = c.name) = [] := by
        refine List.filter_eq_nil_iff.mpr fun d listed => ?_
        have other : d.name ≠ c.name :=
          fun same => apart.1 (same ▸ List.mem_map_of_mem (f := ClassTree.name) listed)
        simpa using other
      simp [others]
    · have other : d.name ≠ c.name :=
        fun same => apart.1 (same ▸ List.mem_map_of_mem (f := ClassTree.name) later)
      simp [other, ih apart.2 later]

/-- Where no two nested classes are named alike, a type name means one of them alone. -/
theorem meant_alone {d : ClassTree} (apart : (d.nested.map ClassTree.name).Nodup)
    (listed : c ∈ d.nested) : meant c.name (d :: outer) = [c] := by
  rw [meant, named_alone apart listed]

/-- What the scope of a class has in common with its object. -/
structure ScopeTold (scope : ClassTree × List ClassTree) (object : List (Text × Sample) × List Text) :
    Prop where
  /-- The names around the nested classes are those that the keys on the way tell. -/
  around : (scope.1 :: scope.2).map ClassTree.name = object.2
  /-- Nested classes are named apart exactly if their keys do not meet. -/
  siblings : (scope.1.nested.map ClassTree.name).Nodup ↔
    (object.1.filter leadsToClass).Pairwise (¬ ClassesMeet · ·)
  /-- They are named apart from the classes around exactly if their keys lead elsewhere. -/
  enclosed : (∀ inner ∈ scope.1.nested, ∀ around ∈ scope.1 :: scope.2, inner.name ≠ around.name) ↔
    ∀ member ∈ object.1.filter leadsToClass, memberClass member ∉ object.2
  /-- If they are named apart, the type of a field means the class of its value's object alone. -/
  denoted : (scope.1.nested.map ClassTree.name).Nodup →
    List.Forall₂
      (fun slot inner => NestedFor scope.1.depth slot inner ∧
        meant slot.1.typeName (scope.1 :: scope.2) = [inner])
      ((scope.1.fields.zip object.1).filter (·.1.isCustom)) scope.1.nested

theorem built_scope (name : Text) (outer : List ClassTree) (built : Built depth members fields nested) :
    ScopeTold (.node name depth fields nested, outer) (members, name :: outer.map ClassTree.name) := by
  have names : nested.map ClassTree.name = (members.filter leadsToClass).map memberClass :=
    built_names built
  have mirrors := (built_mirrors name built).nested
  refine ⟨rfl, ?_, ?_, fun apart => ?_⟩
  · simp only [ClassTree.nested, names, List.Nodup, List.pairwise_map, ne_eq, classes_meet_iff]
  · have around : ∀ t : Text, (∀ around ∈ ClassTree.node name depth fields nested :: outer,
        t ≠ around.name) ↔ t ∉ name :: outer.map ClassTree.name := by
      intro t
      simp [ClassTree.name, List.mem_map, eq_comm]
    have shown : (∀ t ∈ nested.map ClassTree.name, t ∉ name :: outer.map ClassTree.name) ↔
        ∀ member ∈ members.filter leadsToClass,
          memberClass member ∉ name :: outer.map ClassTree.name := by
      rw [names, List.forall_mem_map]
    simpa only [ClassTree.nested, around, List.forall_mem_map] using shown
  · have own := (List.forall₂_and_left (p := (· ∈ nested)) _ _).mpr ⟨fun _ => id, mirrors.flip⟩
    refine (own.imp fun inner slot both => ?_).flip
    obtain ⟨listed, made⟩ := both
    refine ⟨made, ?_⟩
    rw [← made.1]
    exact meant_alone apart listed

/-! ### A tree -/

/-- The scopes of a sample are of the objects that classes stand for, in their order. -/
theorem object_scopes_objects (value : Sample) : ∀ (outer : List Text) (name : Text),
    (objectScopes outer name value).map Prod.fst = value.objects := by
  refine (objects.mutual_induct
    (fun value => ∀ outer name, (objectScopes outer name value).map Prod.fst = value.objects)
    (fun members => ∀ outer, (memberScopes outer members).map Prod.fst = objectsBelow members)
    ?_ ?_ ?_ ?_ ?_).1 value
  · intro first later ih outer name
    simpa only [objectScopes, objects] using ih outer name
  · intro members ih outer name
    simp only [objectScopes, objects, List.map_cons, ih]
  · intro value notCons notObject outer name
    rw [objectScopes.eq_3 outer name value notCons notObject, objects.eq_3 value notCons notObject]
    rfl
  · intro outer
    rfl
  · intro key value rest ih ihRest outer
    by_cases hidden : SpellsLibraryType key
    · simp only [memberScopes, objectsBelow, hidden, ↓reduceIte, List.nil_append, ihRest]
    · simp only [memberScopes, objectsBelow, hidden, ↓reduceIte, List.map_append, ih, ihRest]

theorem plain_scopes (plain : IsPlain key value) (outer : List Text) (rest : List (Text × Sample)) :
    memberScopes outer ((key, value) :: rest) = memberScopes outer rest := by
  by_cases hidden : SpellsLibraryType key
  · simp [memberScopes, hidden]
  · have none := (Reach.nothing_reached fun inner shape => hidden (plain.2 inner shape)).2
    have empty : objectScopes outer (memberClass (key, value)) value = [] := by
      rw [← List.map_eq_nil_iff (f := Prod.fst), object_scopes_objects, none]
    simp [memberScopes, hidden, empty]

/-- The classes of a tree and the objects of its sample, each with the names around. -/
theorem scopes_told : ∀ {outer : List ClassTree} {name : Text} {depth : Int} {c : ClassTree},
    (inferClass name depth value).outcome = .ok c →
    List.Forall₂ ScopeTold (scopes outer c)
      (objectScopes (outer.map ClassTree.name) name value) := by
  refine (objects.mutual_induct
    (fun value => ∀ {outer : List ClassTree} {name : Text} {depth : Int} {c : ClassTree},
      (inferClass name depth value).outcome = .ok c → List.Forall₂ ScopeTold (scopes outer c)
        (objectScopes (outer.map ClassTree.name) name value))
    (fun members => ∀ {outer : List ClassTree} {depth : Int} {fields : List Field}
      {nested : List ClassTree}, Built depth members fields nested →
      List.Forall₂ ScopeTold (allScopes outer nested)
        (memberScopes (outer.map ClassTree.name) members)) ?_ ?_ ?_ ?_ ?_).1 value
  · intro first later ih outer name depth c ran
    rw [inferClass] at ran
    simpa only [objectScopes] using ih ran
  · intro members ih outer name depth c ran
    obtain ⟨_, fields, nested, shape, membersRan, rfl⟩ := infer_class_ok_iff.mp ran
    cases shape
    have built := infer_members_built membersRan
    exact .cons (built_scope name outer built) (ih built)
  · intro value notCons notObject outer name depth c ran
    obtain ⟨members, _, _, shape, -, -⟩ := infer_class_ok_iff.mp ran
    rw [tip.eq_2 value notCons] at shape
    exact absurd shape (notObject members)
  · intro outer depth fields nested built
    cases built
    exact .nil
  · intro key value rest ih ihRest outer depth fields nested built
    cases built with
    | plain plain fixed tail =>
      rw [plain_scopes plain]
      exact ihRest tail
    | classed classed ran tail =>
      simp only [memberScopes, classed.2, ↓reduceIte, allScopes]
      exact List.rel_append (ih ran) (ihRest tail)

theorem scopes_walk (c : ClassTree) : ∀ outer, (scopes outer c).map Prod.fst = c.walk := by
  refine (ClassTree.walk.mutual_induct
    (fun c => ∀ outer, (scopes outer c).map Prod.fst = c.walk)
    (fun cs => ∀ outer, (allScopes outer cs).map Prod.fst = ClassTree.walkAll cs) ?_ ?_ ?_).1 c
  · intro name depth fields nested ih outer
    rw [scopes, List.map_cons, ih, ClassTree.walk]
  · intro outer
    rfl
  · intro c rest ih ihRest outer
    rw [allScopes, List.map_append, ih, ihRest, ClassTree.walkAll]

/-- The classes of a tree are named apart, each from its siblings and from all classes
around it, exactly if the keys of every object lead to names that are apart. The same
holds class by class; and where the classes nested in one class are named apart, the type
of each of its custom fields means the class of the object behind that field alone. -/
theorem classes_apart_iff_keys_apart (name : Text) (depth : Int) (sample : Sample) (c : ClassTree)
    (ran : (inferClass name depth sample).outcome = .ok c) :
    (scopes [] c).map Prod.fst = c.walk ∧ (objectScopes [] name sample).map Prod.fst = sample.objects ∧
      ((∀ scope ∈ scopes [] c, NamesApart scope) ↔
        ∀ object ∈ objectScopes [] name sample, KeysApart object) ∧
      List.Forall₂ ScopeTold (scopes [] c) (objectScopes [] name sample) := by
  have told : List.Forall₂ ScopeTold (scopes [] c) (objectScopes [] name sample) :=
    @scopes_told sample [] name depth c ran
  refine ⟨scopes_walk c [], object_scopes_objects sample [] name, ?_, told⟩
  exact CustomTypes.forall_mem_iff (told.imp fun _ _ both => and_congr both.siblings both.enclosed)

/-- Two parties of an order with an address each, and goods under a plural key. -/
def delivery : Sample := .object [
  ("customer", .object [("address", .object [("city", .str "x")])]),
  ("supplier", .object [("address", .object [("zip", .int 1)])]),
  ("goods", .list [.object [("weight", .object [("kg", .int 1)])]])]

instance : DecidableRel ClassesMeet := fun member other =>
  decidable_of_iff _ (classes_meet_iff member other)

instance : DecidablePred KeysApart := fun _ => inferInstanceAs (Decidable (_ ∧ _))

theorem delivery_apart :
    ∃ c, (inferClass "Order" 0 delivery).outcome = .ok c ∧
      c.walk.map ClassTree.name =
        ["Order", "Customer", "Address", "Supplier", "Address", "Good", "Weight"] ∧
      ∀ scope ∈ scopes [] c, NamesApart scope := by
  obtain ⟨c, ran, walked⟩ : ∃ c, (inferClass "Order" 0 delivery).outcome = .ok c ∧
      c.walk.map ClassTree.name =
        ["Order", "Customer", "Address", "Supplier", "Address", "Good", "Weight"] := ⟨_, rfl, rfl⟩
  have keys : ∀ object ∈ objectScopes [] "Order" delivery, KeysApart object := by decide +kernel
  exact ⟨c, ran, walked, (classes_apart_iff_keys_apart "Order" 0 delivery c ran).2.2.1.mpr keys⟩

/-- Two keys that lead to one class name, which is also found inside of the first. -/
def namesakes : Sample := .object [("a", .object [("a", .object [])]), ("A", .object [])]

theorem namesakes_meet :
    ∃ c, (inferClass "Root" 0 namesakes).outcome = .ok c ∧
      ¬ (c.nested.map ClassTree.name).Nodup ∧
      ∃ d ∈ c.walk, ∃ inner ∈ d.nested, inner.name = d.name :=
  ⟨_, rfl, by decide, _, .tail _ (.head _), _, .head _, rfl⟩

end ClassMold.ClassScopes
