import ClassMold.ClassTree.Outline
import ClassMold.Proofs.Inference.Steps
import ClassMold.Proofs.Sample.RoundTrip

/-! Outlines tell whole trees. A class tree can be put together again from the sample that its
outline is read back as, and the outline of a tree that was inferred from what the reader gives
can be read back once it can be written: its keys come from the reader, and its names are free of
surrogates. -/
namespace ClassMold.Outlines
open Sample Steps Spelling Values RoundTrip Printable

/-! ### Trees put together again -/

/-- The field that a sample tells of, its parts in the order of an outline. -/
def fieldOf? : Sample → Option Field
  | .object [(_, .str key), (_, .str name), (_, .str typeName), (_, .int arrayDepth), (_, .bool isCustom)] =>
    some { key, name, typeName, arrayDepth, isCustom }
  | _ => none

mutual

/-- The class tree that a sample tells of. -/
def treeOf? : Sample → Option ClassTree
  | .object [(_, .str name), (_, .int depth), (_, .list fields), (_, .list nested)] => do
    let fields ← fields.mapM fieldOf?
    let nested ← treesOf? nested
    return .node name depth fields nested
  | _ => none

/-- The class trees that samples tell of. -/
def treesOf? : List Sample → Option (List ClassTree)
  | [] => some []
  | first :: rest => do
    let c ← treeOf? first
    let others ← treesOf? rest
    return c :: others

end

theorem field_told (f : Field) : fieldOf? (sampleOf f.outline) = some f := rfl

theorem fields_told (fields : List Field) :
    (samplesOf (fields.map Field.outline)).mapM fieldOf? = some fields := by
  induction fields with
  | nil => rfl
  | cons f rest ih => simp [samplesOf, field_told, ih]

/-- An outline tells its tree. -/
theorem tree_told (c : ClassTree) : treeOf? (sampleOf c.outline) = some c := by
  refine (ClassTree.outline.mutual_induct
    (fun c => treeOf? (sampleOf c.outline) = some c)
    (fun cs => treesOf? (samplesOf (ClassTree.outlineAll cs)) = some cs) ?_ ?_ ?_).1 c
  · intro name depth fields nested ih
    simp [ClassTree.outline, sampleOf, membersOf, treeOf?, fields_told, ih]
  · rfl
  · intro c rest ih ihRest
    simp [ClassTree.outlineAll, samplesOf, treesOf?, ih, ihRest]

/-! ### Outlines that can be read back -/

/-- A field whose texts are read back as they are. -/
structure TellableField (f : Field) : Prop where
  key : Whole f.key
  name : Whole f.name
  type : Whole f.typeName

/-- A class whose name and the texts of whose fields are. -/
structure Tellable (c : ClassTree) : Prop where
  name : Whole c.name
  fields : ∀ f ∈ c.fields, TellableField f

theorem string_whole (s : String) : Whole s := printable_whole (printable_string s)

variable {c : ClassTree} {f : Field} {value : Sample} {name key : Text} {depth : Int}
  {members : List (Text × Sample)} {fields : List Field} {nested : List ClassTree}

theorem writable_int {i : Int} : (Document.int i).isWritable = true ↔ Decimal.isTooLong i = false := by
  rw [Document.isWritable, Bool.not_eq_true']

theorem writable_list {items : List Document} :
    (Document.list items).isWritable = true ↔ ∀ item ∈ items, item.isWritable = true := by
  rw [Document.isWritable]
  induction items with
  | nil => simp [Document.allWritable]
  | cons item rest ih => rw [Document.allWritable, Bool.and_eq_true, ih, List.forall_mem_cons]

theorem writable_object {members : List (Text × Document)} :
    (Document.object members).isWritable = true ↔ ∀ member ∈ members, member.2.isWritable = true := by
  rw [Document.isWritable]
  induction members with
  | nil => simp [Document.membersWritable]
  | cons member rest ih =>
    rw [Document.membersWritable, Bool.and_eq_true, ih, List.forall_mem_cons]

theorem field_readable (tellable : TellableField f) (writable : f.outline.isWritable = true) :
    Readable f.outline := by
  have each := writable_object.mp writable
  simp only [List.forall_mem_cons, List.not_mem_nil, false_imp_iff, implies_true, and_true] at each
  obtain ⟨-, -, -, depth, -⟩ := each
  refine .object ?_ ?_ ?_
  · simp only [List.forall_mem_cons, List.not_mem_nil, false_imp_iff, implies_true, and_true]
    exact ⟨string_whole _, string_whole _, string_whole _, string_whole _, string_whole _⟩
  · simp only [List.map_cons, List.map_nil]
    decide
  · simp only [List.forall_mem_cons, List.not_mem_nil, false_imp_iff, implies_true, and_true]
    exact ⟨.str tellable.key, .str tellable.name, .str tellable.type, .int (writable_int.mp depth), .bool _⟩

theorem class_readable {outlines : List Document} (tellable : Tellable (.node name depth fields nested))
    (few : Decimal.isTooLong depth = false) (writable : ∀ f ∈ fields, f.outline.isWritable = true)
    (inner : ∀ item ∈ outlines, Readable item) :
    Readable (.object [("class_name", .str name), ("depth", .int depth),
      ("fields", .list (fields.map Field.outline)), ("nested_classes", .list outlines)]) := by
  refine .object ?_ ?_ ?_
  · simp only [List.forall_mem_cons, List.not_mem_nil, false_imp_iff, implies_true, and_true]
    exact ⟨string_whole _, string_whole _, string_whole _, string_whole _⟩
  · simp only [List.map_cons, List.map_nil]
    decide
  · simp only [List.forall_mem_cons, List.not_mem_nil, false_imp_iff, implies_true, and_true]
    refine ⟨.str tellable.name, .int few, .list ?_, .list inner⟩
    exact List.forall_mem_map.mpr fun f listed => field_readable (tellable.fields f listed) (writable f listed)

theorem outline_readable (tellable : ∀ d ∈ c.walk, Tellable d) (writable : c.outline.isWritable = true) :
    Readable c.outline := by
  refine (ClassTree.outline.mutual_induct
    (fun c => (∀ d ∈ c.walk, Tellable d) → c.outline.isWritable = true → Readable c.outline)
    (fun cs => (∀ d ∈ ClassTree.walkAll cs, Tellable d) →
      (∀ item ∈ ClassTree.outlineAll cs, item.isWritable = true) →
      ∀ item ∈ ClassTree.outlineAll cs, Readable item) ?_ ?_ ?_).1 c tellable writable
  · intro name depth fields nested ih tellable writable
    rw [ClassTree.walk, List.forall_mem_cons] at tellable
    have each := writable_object.mp writable
    simp only [List.forall_mem_cons, List.not_mem_nil, false_imp_iff, implies_true, and_true] at each
    obtain ⟨-, few, own, below⟩ := each
    have fieldsWritable := List.forall_mem_map.mp (writable_list.mp own)
    exact class_readable tellable.1 (writable_int.mp few) fieldsWritable
      (ih tellable.2 (writable_list.mp below))
  · exact fun _ _ => List.forall_mem_nil _
  · intro c rest ih ihRest tellable writable
    rw [ClassTree.walkAll, List.forall_mem_append] at tellable
    rw [ClassTree.outlineAll, List.forall_mem_cons] at writable ⊢
    exact ⟨ih tellable.1 writable.1, ihRest tellable.2 writable.2⟩

/-! ### Trees that are inferred -/

theorem fixed_printable {type : Text} (fixed : type ∈ TypeNames.fixedTypes) : IsPrintable type := by
  simp only [TypeNames.fixedTypes, List.mem_cons, List.not_mem_nil, or_false] at fixed
  rcases fixed with rfl | rfl | rfl | rfl | rfl <;> exact printable_string _

theorem element_name_printable (key : Text) (value : Sample) : IsPrintable (elementName key value) := by
  unfold elementName Field.className
  split
  · exact singular_printable key
  · exact type_name_printable key

theorem member_field_tellable {type : Text} (value : Sample) (whole : Whole key)
    (typed : IsPrintable type) : TellableField (memberField key value type) where
  key := whole
  name := printable_whole (field_name_printable key _)
  type := printable_whole typed

/-- Keys are as whole as in the sample, and names hold no surrogates at all. -/
theorem inferred_tellable (read : IsValue Whole value) (named : Whole name)
    (ran : (inferClass name depth value).outcome = .ok c) : ∀ d ∈ c.walk, Tellable d := by
  refine (objects.mutual_induct
    (fun value => ∀ {name : Text} {depth : Int} {c}, IsValue Whole value → Whole name →
      (inferClass name depth value).outcome = .ok c → ∀ d ∈ c.walk, Tellable d)
    (fun members => ∀ {depth : Int} {fields nested},
      (∀ member ∈ members, Whole member.1 ∧ IsValue Whole member.2) → Built depth members fields nested →
      (∀ f ∈ fields, TellableField f) ∧ ∀ d ∈ ClassTree.walkAll nested, Tellable d)
    ?_ ?_ ?_ ?_ ?_).1 value read named ran
  · intro first later ih name depth c read named ran
    cases read with
    | list each =>
      rw [inferClass] at ran
      exact ih (each first List.mem_cons_self) named ran
  · intro members ih name depth c read named ran
    cases read with
    | object keys distinct each =>
      obtain ⟨_, fields, nested, shape, membersRan, rfl⟩ := infer_class_ok_iff.mp ran
      cases shape
      obtain ⟨own, below⟩ := ih (fun member listed => ⟨keys member listed, each member listed⟩)
        (infer_members_built membersRan)
      exact List.forall_mem_cons.mpr ⟨⟨named, own⟩, below⟩
  · intro value notCons notObject name depth c read named ran
    obtain ⟨members, _, _, shape, -, -⟩ := infer_class_ok_iff.mp ran
    rw [tip.eq_2 value notCons] at shape
    exact absurd shape (notObject members)
  · intro depth fields nested each built
    cases built
    exact ⟨List.forall_mem_nil _, List.forall_mem_nil _⟩
  · intro key value rest ih ihRest depth fields nested each built
    obtain ⟨⟨whole, read⟩, others⟩ := List.forall_mem_cons.mp each
    cases built with
    | plain plain fixed tail =>
      obtain ⟨own, below⟩ := ihRest others tail
      have told : TellableField _ := member_field_tellable value whole (fixed_printable fixed)
      exact ⟨List.forall_mem_cons.mpr ⟨told, own⟩, below⟩
    | classed classed ran tail =>
      obtain ⟨own, below⟩ := ihRest others tail
      have typed := element_name_printable key value
      have told : TellableField _ := member_field_tellable value whole typed
      have inner := ih read (printable_whole typed) ran
      have field : TellableField (classField key value) := ⟨told.key, told.name, told.type⟩
      exact ⟨List.forall_mem_cons.mpr ⟨field, own⟩, List.forall_mem_append.mpr ⟨inner, below⟩⟩

end ClassMold.Outlines
