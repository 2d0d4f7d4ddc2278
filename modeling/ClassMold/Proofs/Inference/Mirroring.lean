import ClassMold.Proofs.Inference.Steps

/-! A class tree mirrors its sample. The tie between a class and the object that
it stands for is stated for the two lists that one run fills at different
moments, the fields and the nested classes; walked in order, the classes of a
tree are tied to the objects that the sample reaches, one for one. -/
namespace ClassMold.Mirroring
open Sample TypeNames Steps

/-- The nested class is the one that the field is typed with: it stands one
deeper and comes of the object that the field's value leads to. -/
def NestedFor (depth : Int) (slot : Field × (Text × Sample)) (inner : ClassTree) : Prop :=
  inner.name = slot.1.typeName ∧ inner.depth = depth + 1 ∧
    ∃ members, slot.2.2.tip = .object members ∧
      (inferClass slot.1.typeName (depth + 1) (.object members)).outcome = .ok inner

/-- What a class has in common with the members of the object it stands for. -/
structure Mirrors (c : ClassTree) (members : List (Text × Sample)) : Prop where
  /-- One field for each member, in order. -/
  keys : c.fields.map Field.key = members.map Prod.fst
  /-- As many custom fields as nested classes. -/
  customs : (c.fields.filter (·.isCustom)).length = c.nested.length
  /-- Each custom field, with the member it was made from, has its class. -/
  nested : List.Forall₂ (NestedFor c.depth) ((c.fields.zip members).filter (·.1.isCustom)) c.nested
  /-- The others are of a fixed type. -/
  fixed : ∀ f ∈ c.fields, f.isCustom = false → f.typeName ∈ fixedTypes

variable {name : Text} {depth : Int} {members : List (Text × Sample)} {fields : List Field}
  {nested : List ClassTree} {c : ClassTree}

theorem class_name_depth {value : Sample} (ran : (inferClass name depth value).outcome = .ok c) :
    c.name = name ∧ c.depth = depth := by
  obtain ⟨_, _, _, -, -, rfl⟩ := infer_class_ok_iff.mp ran
  exact ⟨rfl, rfl⟩

/-- Every class of a tree is what its object gives at its depth. -/
theorem class_runs {sample : Sample} (ran : (inferClass name depth sample).outcome = .ok c) :
    List.Forall₂ (fun d members => (inferClass d.name d.depth (.object members)).outcome = .ok d)
      c.walk sample.objects := by
  refine every_run _ (fun name depth members d ran => ?_) ran
  obtain ⟨named, placed⟩ := class_name_depth ran
  rw [named, placed]
  exact ran

theorem nested_for_class {key : Text} {value : Sample} {inner : List (Text × Sample)}
    (classed : IsClassed key value inner)
    (ran : (inferClass (elementName key value) (depth + 1) value).outcome = .ok c) :
    NestedFor depth (classField key value, (key, value)) c := by
  obtain ⟨named, deeper⟩ := class_name_depth ran
  refine ⟨named, deeper, inner, classed.1, ?_⟩
  rw [infer_class_tip, classed.1] at ran
  exact ran

/-- A member without a class adds a field of a fixed type, and nothing else. -/
theorem mirrors_plain {key type : Text} (value : Sample) (fixed : type ∈ fixedTypes)
    (mirrors : Mirrors (.node name depth fields nested) members) :
    Mirrors (.node name depth (memberField key value type :: fields) nested)
      ((key, value) :: members) := by
  have notCustom := plain_not_custom key value fixed
  obtain ⟨keys, customs, tied, others⟩ := mirrors
  refine ⟨congrArg (key :: ·) keys, ?_, ?_, ?_⟩
  · simpa [ClassTree.fields, ClassTree.nested, notCustom] using customs
  · simpa [ClassTree.fields, ClassTree.nested, ClassTree.depth, notCustom] using tied
  · intro f listed
    rcases List.mem_cons.mp listed with rfl | listed
    · exact fun _ => fixed
    · exact others f listed

/-- A member with a class adds a custom field and, at the same place, its class. -/
theorem mirrors_classed {key : Text} {value : Sample} {inner : List (Text × Sample)}
    (classed : IsClassed key value inner)
    (ran : (inferClass (elementName key value) (depth + 1) value).outcome = .ok c)
    (mirrors : Mirrors (.node name depth fields nested) members) :
    Mirrors (.node name depth (classField key value :: fields) (c :: nested))
      ((key, value) :: members) := by
  have custom := class_custom value classed.2
  obtain ⟨keys, customs, tied, others⟩ := mirrors
  refine ⟨congrArg (key :: ·) keys, ?_, ?_, ?_⟩
  · simpa [ClassTree.fields, ClassTree.nested, custom] using customs
  · simp only [ClassTree.fields, List.zip_cons_cons, List.filter_cons, custom, ↓reduceIte]
    exact .cons (nested_for_class classed ran) tied
  · intro f listed notCustom
    rcases List.mem_cons.mp listed with rfl | listed
    · rw [custom] at notCustom
      cases notCustom
    · exact others f listed notCustom

/-- One class mirrors its object, by the chain of its members. -/
theorem built_mirrors (name : Text) (built : Built depth members fields nested) :
    Mirrors (.node name depth fields nested) members := by
  induction built with
  | nil => exact ⟨rfl, rfl, .nil, by simp [ClassTree.fields]⟩
  | plain _ fixed _ ih => exact mirrors_plain _ fixed ih
  | classed classed ran _ ih => exact mirrors_classed classed ran ih

theorem partner_of_mem {α β : Type} {R : α → β → Prop} {as : List α} {bs : List β}
    (tied : List.Forall₂ R as bs) {a : α} (member : a ∈ as) : ∃ b ∈ bs, R a b := by
  induction tied with
  | nil => cases member
  | cons holds rest ih =>
    rcases List.mem_cons.mp member with rfl | member
    · exact ⟨_, List.mem_cons_self, holds⟩
    · obtain ⟨b, listed, found⟩ := ih member
      exact ⟨b, List.mem_cons_of_mem _ listed, found⟩

/-- What holds of a class because its members are built like this holds of all classes of
a tree, whatever objects they stand for. -/
theorem every_walked (P : ClassTree → Prop)
    (each : ∀ name depth members fields nested, Built depth members fields nested →
      P (.node name depth fields nested)) {sample : Sample}
    (ran : (inferClass name depth sample).outcome = .ok c) : ∀ d ∈ c.walk, P d := by
  intro d walked
  obtain ⟨_, -, holds⟩ := partner_of_mem (every_class (fun d _ => P d) each ran) walked
  exact holds

/-- The classes below the root of a tree are those nested in one of its classes. -/
theorem mem_below_iff (d c : ClassTree) :
    d ∈ ClassTree.walkAll c.nested ↔ ∃ outer ∈ c.walk, d ∈ outer.nested := by
  refine (ClassTree.walk.mutual_induct
    (fun c => d ∈ ClassTree.walkAll c.nested ↔ ∃ outer ∈ c.walk, d ∈ outer.nested)
    (fun cs => d ∈ ClassTree.walkAll cs ↔
      d ∈ cs ∨ ∃ outer ∈ ClassTree.walkAll cs, d ∈ outer.nested) ?_ ?_ ?_).1 c
  · intro name depth fields nested ih
    simpa only [ClassTree.walk, List.mem_cons, exists_eq_or_imp, ClassTree.nested] using ih
  · simp [ClassTree.walkAll]
  · intro c rest ih ihRest
    have own : d ∈ c.walk ↔ d = c ∨ d ∈ ClassTree.walkAll c.nested := by
      cases c
      simp [ClassTree.walk, ClassTree.nested]
    simp only [ClassTree.walkAll, List.mem_append, own, ih, ihRest, List.mem_cons, or_and_right,
      exists_or, or_assoc]
    exact or_congr_right or_left_comm

/-- Every type that a class mentions is fixed or the name of one of its own classes. -/
theorem mirrored_types_declared (mirrors : Mirrors c members) {f : Field} (member : f ∈ c.fields) :
    f.typeName ∈ fixedTypes ∨ ∃ inner ∈ c.nested, inner.name = f.typeName := by
  cases custom : f.isCustom with
  | false => exact .inl (mirrors.fixed f member custom)
  | true =>
    right
    have paired : ((c.fields.zip members).map Prod.fst) = c.fields := by
      apply List.map_fst_zip
      exact Nat.le_of_eq (by simpa using congrArg List.length mirrors.keys)
    obtain ⟨slot, listed, rfl⟩ := List.mem_map.mp (paired.symm ▸ member)
    obtain ⟨inner, own, tied⟩ :=
      partner_of_mem mirrors.nested (List.mem_filter.mpr ⟨listed, custom⟩)
    exact ⟨inner, own, tied.1⟩

/-- The classes of a tree mirror the objects that the sample reaches, and every
type that a declaration mentions is fixed or declared in the very same class. -/
theorem tree_mirrors_sample (name : Text) (depth : Int) (sample : Sample) (c : ClassTree)
    (ran : (inferClass name depth sample).outcome = .ok c) :
    c.name = name ∧ c.depth = depth ∧ List.Forall₂ Mirrors c.walk sample.objects ∧
      ∀ d ∈ c.walk, ∀ f ∈ d.fields,
        f.typeName ∈ fixedTypes ∨ ∃ inner ∈ d.nested, inner.name = f.typeName := by
  obtain ⟨named, placed⟩ := class_name_depth ran
  have mirrored := every_class Mirrors
    (fun name _ _ _ _ built => built_mirrors name built) ran
  refine ⟨named, placed, mirrored, ?_⟩
  have declared := mirrored.imp fun _ _ mirrors =>
    And.intro (fun f (member : f ∈ _) => mirrored_types_declared mirrors member) mirrors
  exact ((List.forall₂_and_left _ _).mp declared).1

/-- A sample with an object behind two lists, one behind a name that the library
takes, and an empty one. -/
def basket : Sample := .object [
  ("items", .list [.list [.object [("sku", .str "a"), ("tags", .list [])], .int 1], .null]),
  ("string", .object [("inside", .object [])]),
  ("meta", .object [])]

theorem basket_tree_mirrors :
    ∃ c, (inferClass "Basket" 0 basket).outcome = .ok c ∧
      c.walk.map ClassTree.name = ["Basket", "Item", "Meta"] ∧
      List.Forall₂ Mirrors c.walk basket.objects := by
  obtain ⟨c, ran, walked⟩ : ∃ c, (inferClass "Basket" 0 basket).outcome = .ok c ∧
      c.walk.map ClassTree.name = ["Basket", "Item", "Meta"] := ⟨_, rfl, rfl⟩
  exact ⟨c, ran, walked, (tree_mirrors_sample "Basket" 0 basket c ran).2.2.1⟩

end ClassMold.Mirroring
