import Mathlib.Data.List.Nodup
import ClassMold.Proofs.Naming.SharedNames
import ClassMold.Proofs.Source.Members
import ClassMold.Proofs.Source.Signatures

/-! What a class declares twice. Its fields are named one by one, each for its own key, and
nothing keeps them apart. So a declaration, a parameter or an accessor comes twice exactly
where two keys of the object meet, and which options were chosen only decides where it
shows: two fields can be apart and still share their accessors. -/
namespace ClassMold.DeclaredOnce
open Sample Steps Mirroring Parts Legibility Members Signatures SharedNames

/-- A class that declares no field, no parameter of a method and no accessor twice. -/
structure DeclaresOnce (body : Body) : Prop where
  fields : (body.declarations.map fun pair => declaredName pair.2).Nodup
  parameters : ∀ method ∈ body.constructors ++ body.accessors, (parameterNames method.1).Nodup
  accessors : (body.accessors.map fun method => methodName method.1).Nodup

variable {f : Field} {name : Text} {depth : Int} {members : List (Text × Sample)}
  {fields : List Field} {nested : List ClassTree} {options : OutputOptions} {sample : Sample}
  {c d : ClassTree}

/-! ### Names -/

/-- Each field is named for its own member. -/
theorem built_field_names (built : Built depth members fields nested) :
    fields.map Field.name = members.map memberName := by
  induction built with
  | nil => rfl
  | plain plain fixed rest ih => exact congrArg _ ih
  | classed classed ran rest ih => exact congrArg _ ih

theorem names_nodup_iff (named : fields.map Field.name = members.map memberName) :
    (fields.map Field.name).Nodup ↔ members.Pairwise (¬ NamesMeet · ·) := by
  rw [named, List.Nodup, List.pairwise_map]
  simp only [ne_eq, names_meet_iff]

theorem accessors_nodup_iff (named : fields.map Field.name = members.map memberName) :
    (fields.map Field.accessorName).Nodup ↔ members.Pairwise (¬ AccessorsMeet · ·) := by
  have accessors : fields.map Field.accessorName = members.map fun member =>
      capitalized (memberName member) := by
    have raised := congrArg (List.map capitalized) named
    rwa [List.map_map, List.map_map] at raised
  rw [accessors, List.Nodup, List.pairwise_map]
  simp only [ne_eq, accessors_meet_iff]

/-- Names that are apart as accessors are apart. -/
theorem names_apart (apart : members.Pairwise (¬ AccessorsMeet · ·)) :
    members.Pairwise (¬ NamesMeet · ·) :=
  apart.imp fun other meet => other (.inl ((names_meet_iff _ _).mpr meet))

/-! ### Declarations -/

theorem declared_names (options : OutputOptions) (legible : ∀ f ∈ d.fields, LegibleField f) :
    (bodyRead options d).declarations.map (fun pair => declaredName pair.2) = d.fields.map Field.name := by
  rw [bodyRead, List.map_map]
  exact List.map_congr_left fun f member => declared_name options (legible f member)

/-- Only the constructor with parameters has more than one, and these are named like the fields. -/
theorem parameters_nodup (options : OutputOptions) (legible : ∀ f ∈ d.fields, LegibleField f)
    (names : (d.fields.map Field.name).Nodup) :
    ∀ method ∈ (bodyRead options d).constructors ++ (bodyRead options d).accessors,
      (parameterNames method.1).Nodup := by
  intro method listed
  have read : method ∈ (methods options d.name d.fields).map (methodRead options) := by
    simpa [bodyRead, methods] using listed
  obtain ⟨m, own, rfl⟩ := List.mem_map.mp read
  rcases method_cases own with rfl | rfl | ⟨f, member, rfl | rfl⟩
  · have last : parameterNames ((Method.fullConstructor d.name d.fields).header options) =
        d.fields.map Field.name := by
      simp [parameterNames, full_parameters options d.name legible, List.filterMap_map, Function.comp_def]
    exact last ▸ names
  · have none : parameterNames ((Method.emptyConstructor d.name d.fields).header options) = [] := by
      simp [parameterNames, empty_parameters]
    exact none ▸ List.nodup_nil
  · have none : parameterNames ((Method.getter f).header options) = [] := by
      simp [parameterNames, (getter_read options (legible f member)).2]
    exact none ▸ List.nodup_nil
  · have one : parameterNames ((Method.setter f).header options) = [f.name] := by
      simp [parameterNames, (setter_read options (legible f member)).2]
    exact one ▸ List.nodup_singleton f.name

/-- The names of the accessors of one field. -/
def accessorNames (options : OutputOptions) (f : Field) : List Text :=
  (if options.getters then [Text.ofString "get" ++ f.accessorName] else []) ++
    (if options.setters then [Text.ofString "set" ++ f.accessorName] else [])

theorem accessor_names (options : OutputOptions) (legible : ∀ f ∈ d.fields, LegibleField f) :
    (bodyRead options d).accessors.map (fun method => methodName method.1) =
      d.fields.flatMap (accessorNames options) := by
  rw [bodyRead, List.map_map, List.map_flatMap]
  refine List.flatMap_congr fun f member => ?_
  have getter := (getter_read options (legible f member)).1
  have setter := (setter_read options (legible f member)).1
  unfold accessors accessorNames
  cases options.getters <;> cases options.setters <;> simp [methodRead, getter, setter]

theorem get_ne_set (t u : Text) : Text.ofString "get" ++ t ≠ Text.ofString "set" ++ u :=
  fun same => absurd (List.cons.inj same).1 (by decide)

/-- The accessors of two fields are named apart if there are any and the fields are. -/
theorem accessors_disjoint_iff (options : OutputOptions) (f g : Field) :
    (accessorNames options f).Disjoint (accessorNames options g) ↔
      (options.getters = true ∨ options.setters = true → f.accessorName ≠ g.accessorName) := by
  unfold accessorNames
  cases options.getters <;> cases options.setters <;>
    simp [get_ne_set, fun t u => (get_ne_set t u).symm, eq_comm]

theorem accessor_names_nodup_iff (options : OutputOptions) (fields : List Field) :
    (fields.flatMap (accessorNames options)).Nodup ↔
      (options.getters = true ∨ options.setters = true → (fields.map Field.accessorName).Nodup) := by
  have own : ∀ f ∈ fields, (accessorNames options f).Nodup := by
    intro f _
    have kinds : Text.ofString "get" ≠ Text.ofString "set" := by decide
    unfold accessorNames
    cases options.getters <;> cases options.setters <;> simp [kinds]
  have apart : Function.onFun List.Disjoint (accessorNames options) = fun f g =>
      options.getters = true ∨ options.setters = true → f.accessorName ≠ g.accessorName :=
    funext fun f => funext fun g => propext (accessors_disjoint_iff options f g)
  rw [List.nodup_flatMap, and_iff_right own, apart, List.Nodup, List.pairwise_map]
  by_cases some : options.getters = true ∨ options.setters = true
  · simp only [some, true_imp_iff]
  · exact iff_of_true (List.pairwise_of_forall fun _ _ any => absurd any some) fun any => absurd any some

/-- A class declares nothing twice exactly if its names are apart where they are written. -/
theorem declares_once_iff (options : OutputOptions) (legible : ∀ f ∈ d.fields, LegibleField f) :
    DeclaresOnce (bodyRead options d) ↔ (d.fields.map Field.name).Nodup ∧
      (options.getters = true ∨ options.setters = true → (d.fields.map Field.accessorName).Nodup) := by
  constructor
  · intro once
    have names := once.fields
    have accessors := once.accessors
    rw [declared_names options legible] at names
    rw [accessor_names options legible, accessor_names_nodup_iff] at accessors
    exact ⟨names, accessors⟩
  · rintro ⟨names, accessors⟩
    refine ⟨?_, ?_, ?_⟩
    · rwa [declared_names options legible]
    · exact parameters_nodup options legible names
    · rwa [accessor_names options legible, accessor_names_nodup_iff]

/-! ### Trees -/

/-- What the names of a class have in common with the keys of its object. -/
structure NamesTold (d : ClassTree) (members : List (Text × Sample)) : Prop where
  /-- Fields are named apart exactly if their keys do not meet. -/
  fields : (d.fields.map Field.name).Nodup ↔ members.Pairwise (¬ NamesMeet · ·)
  /-- Their accessors are named apart exactly if their keys do not meet in one of these names. -/
  accessors : (d.fields.map Field.accessorName).Nodup ↔ members.Pairwise (¬ AccessorsMeet · ·)
  /-- The class can be read. -/
  read : ∀ options, ∃ body, ReadAs options d body
  /-- It declares nothing twice exactly if the keys do not meet where it matters. -/
  declared : ∀ options body, ReadAs options d body → (DeclaresOnce body ↔
    members.Pairwise (¬ NamesMeet · ·) ∧
      (options.getters = true ∨ options.setters = true → members.Pairwise (¬ AccessorsMeet · ·)))

/-- In a tree, a class names its fields apart exactly if no two keys of its object meet, and
their accessors if no two meet in one of those names. It declares nothing twice then, and
only then. -/
theorem declared_once_iff_keys_apart (name : Text) (depth : Int) (sample : Sample) (c : ClassTree)
    (ran : (inferClass name depth sample).outcome = .ok c) :
    List.Forall₂ NamesTold c.walk sample.objects := by
  have named := every_class (fun d members => d.fields.map Field.name = members.map memberName)
    (fun _ _ _ _ _ built => built_field_names built) ran
  have reads : ∀ d ∈ c.walk, (∀ options, ReadAs options d (bodyRead options d)) ∧
      ∀ f ∈ d.fields, LegibleField f := fun d walked =>
    ⟨fun options => inferred_reads options ran d walked, (inferred_legible_inside ran d walked).fields⟩
  refine ((List.forall₂_and_left _ _).mpr ⟨reads, named⟩).imp fun d members both => ?_
  obtain ⟨⟨read, legible⟩, names⟩ := both
  refine ⟨names_nodup_iff names, accessors_nodup_iff names, fun options => ⟨_, read options⟩, ?_⟩
  intro options body reads
  rw [read_unique reads (read options), declares_once_iff options legible, names_nodup_iff names,
    accessors_nodup_iff names]

instance : DecidableRel AccessorsMeet := fun member other =>
  decidable_of_iff _ (accessors_meet_iff member other)

/-- An account with keys that join words, hold a digit in front, and are reserved. -/
def account : Sample := .object [
  ("user-id", .int 1), ("user", .object [("id", .int 1), ("class", .str "x")]), ("2fa", .bool true)]

theorem account_declared_once :
    ∃ c, (inferClass "Account" 0 account).outcome = .ok c ∧
      (c.walk.flatMap fun d => d.fields.map Field.name) = ["userId", "user", "_2fa", "id", "class_"] ∧
      ∀ d ∈ c.walk, ∀ options, ∃ body, ReadAs options d body ∧ DeclaresOnce body := by
  obtain ⟨c, ran, named⟩ : ∃ c, (inferClass "Account" 0 account).outcome = .ok c ∧
      (c.walk.flatMap fun d => d.fields.map Field.name) = ["userId", "user", "_2fa", "id", "class_"] :=
    ⟨_, rfl, by decide +kernel⟩
  have apart : ∀ members ∈ account.objects, members.Pairwise (¬ AccessorsMeet · ·) := by decide +kernel
  refine ⟨c, ran, named, fun d walked options => ?_⟩
  obtain ⟨members, listed, told⟩ :=
    partner_of_mem (declared_once_iff_keys_apart "Account" 0 account c ran) walked
  obtain ⟨body, read⟩ := told.read options
  have once := told.declared options body read
  exact ⟨body, read, once.mpr ⟨names_apart (apart members listed), fun _ => apart members listed⟩⟩

/-- Keys that only differ in what separates their words, and keys that only differ in a
letter that accessors raise. -/
def lookalikes : Sample := .object [("a-b", .int 1), ("a_b", .int 2), ("xY", .int 3), ("XY", .int 4)]

theorem lookalikes_meet :
    ∃ c, (inferClass "Root" 0 lookalikes).outcome = .ok c ∧
      c.fields.map Field.key = ["a-b", "a_b", "xY", "XY"] ∧
      c.fields.map Field.name = ["aB", "aB", "xY", "XY"] ∧
      c.fields.map Field.accessorName = ["AB", "AB", "XY", "XY"] :=
  ⟨_, rfl, by decide +kernel, by decide +kernel, by decide +kernel⟩

end ClassMold.DeclaredOnce
