import ClassMold.Proofs.Settings.Flags
import ClassMold.Proofs.Source.Members
import ClassMold.Proofs.Source.Signatures

/-! Final fields are assigned. With final fields a class has no setters, whatever else was
asked for, and it can be created without arguments: each field then gets a literal that
its declared type can take. Whether a constructor assigns these literals or hands them to
the one with parameters, it does so for every field once and in order, and no other line
of the class assigns anything. All this is read off the lines of the class. -/
namespace ClassMold.FinalFields
open Alphabet Steps TypeNames Mirroring Parts Legibility Members Signatures

/-! ### Literals -/

/-- The primitive types of the language. -/
def primitiveTypes : List Text :=
  ["boolean", "byte", "short", "int", "long", "char", "float", "double"]

/-- The literal that a variable of a type can start with. All types but the primitive
ones are types of references. -/
inductive DefaultOf : Text → Text → Prop where
  | boolean : DefaultOf "boolean" "false"
  | int : DefaultOf "int" "0"
  | float : DefaultOf "float" "0.0f"
  | reference {type : Text} (reference : type ∉ primitiveTypes) : DefaultOf type "null"

/-- A field whose type is one of the fixed types if it is primitive. -/
def TypeKnown (f : Field) : Prop := f.typeName ∈ primitiveTypes → f.typeName ∈ fixedTypes

variable {f : Field} {boxed : Bool} {name : Text} {depth : Int} {members : List (Text × Sample)}
  {fields : List Field} {nested : List ClassTree} {options : OutputOptions} {sample : Sample}
  {c d : ClassTree}

/-- An array type ends with a bracket, which no primitive type does. -/
theorem array_not_primitive (array : 0 < f.arrayDepth) : f.declaredType boxed ∉ primitiveTypes := by
  intro listed
  have ends : ∀ type ∈ primitiveTypes, type.getLast? ≠ some (.scalar ']') := by decide
  have pairs : ∃ n, f.arrayDepth.toNat = n + 1 := ⟨f.arrayDepth.toNat - 1, by omega⟩
  obtain ⟨n, count⟩ := pairs
  refine ends _ listed ?_
  rw [declared_type_eq, brackets, count, List.replicate_succ', List.flatten_append]
  simp [Text.ofString]

theorem boxed_not_primitive (known : TypeKnown f) : f.elementType true ∉ primitiveTypes := by
  cases named : ScalarType.named? f.typeName with
  | none =>
    simp only [Field.elementType, named, Option.map_none, Option.getD_none, ↓reduceIte]
    exact fun listed => unnamed_type named (known listed)
  | some type =>
    simp only [Field.elementType, named, Option.map_some, Option.getD_some, ↓reduceIte]
    cases type <;> decide

/-- The default of a field fits the type that it is declared with. -/
theorem default_fits (known : TypeKnown f) (boxed : Bool) :
    DefaultOf (f.declaredType boxed) (f.defaultLiteral boxed) := by
  by_cases array : 0 < f.arrayDepth
  · have null : f.defaultLiteral boxed = "null" := by simp [Field.defaultLiteral, Field.isArray, array]
    rw [null]
    exact .reference (array_not_primitive array)
  · have none : f.arrayDepth.toNat = 0 := by omega
    have element : f.declaredType boxed = f.elementType boxed := by
      simp [declared_type_eq, brackets, none]
    rw [element]
    cases boxed with
    | true => exact .reference (boxed_not_primitive known)
    | false =>
      cases named : ScalarType.named? f.typeName with
      | none =>
        have null : f.defaultLiteral false = "null" := by
          simp [Field.defaultLiteral, Field.isArray, array, named]
        rw [null]
        exact .reference fun listed => unnamed_type named (known listed)
      | some type =>
        have literal : f.defaultLiteral false = type.defaultLiteral := by
          simp [Field.defaultLiteral, Field.isArray, array, named]
        have own : f.elementType false = type.name := (named_type named).symm
        rw [literal, own]
        cases type with
        | boolean => exact .boolean
        | int => exact .int
        | float => exact .float
        | string => exact .reference (by decide)
        | object => exact .reference (by decide)

/-- Keys lead to no primitive type, so only values do. -/
theorem built_types_known (built : Built depth members fields nested) :
    ∀ f ∈ fields, TypeKnown f := by
  induction built with
  | nil => exact nofun
  | plain plain fixed rest ih => exact List.forall_mem_cons.mpr ⟨fun _ => fixed, ih⟩
  | @classed key value inner members fields c nested classed ran rest ih =>
    have small : ∀ type ∈ primitiveTypes, ∃ first ∈ type.head?, Casing.AsciiSmall first := by decide
    refine List.forall_mem_cons.mpr ⟨fun listed => ?_, ih⟩
    exact absurd rfl (element_name_ne_small key value (small _ listed))

theorem inferred_types_known (ran : (inferClass name depth sample).outcome = .ok c) :
    ∀ d ∈ c.walk, ∀ f ∈ d.fields, TypeKnown f :=
  every_walked (fun d => ∀ f ∈ d.fields, TypeKnown f)
    (fun _ _ _ _ _ built => built_types_known built) ran

/-! ### Constructors -/

/-- The constructors that a class with final fields has. Either there is one with a
parameter for each field, and the one without parameters calls it, or the latter is
alone and assigns the fields itself. -/
inductive Initializes (options : OutputOptions) (d : ClassTree) : List (Text × List Text) → Prop where
  | delegating {full empty : Text × List Text} {inner arguments : Text}
      (asked : options.fieldConstructor = true)
      (header : full.1 = "public " ++ d.name ++ "(" ++ inner ++ ")")
      (takes : parameters full.1 = d.fields.map fun f =>
        [Text.ofString "final", f.declaredType options.boxedPrimitives, f.name])
      (assigns : full.2 = d.fields.map fun f =>
        (("this." ++ f.name ++ " = " ++ f.name ++ ";") : Text))
      (other : empty.1 = "public " ++ d.name ++ "()")
      (calls : empty.2 = ["this(" ++ arguments ++ ");"])
      (count : (listed arguments).length = (parameters full.1).length)
      (fits : List.Forall₂ (fun f literal => DefaultOf (f.declaredType options.boxedPrimitives) literal)
        d.fields (listed arguments)) :
      Initializes options d [full, empty]
  | assigning {empty : Text × List Text}
      (spared : options.fieldConstructor = false)
      (header : empty.1 = "public " ++ d.name ++ "()")
      (assigns : List.Forall₂ (fun f line => ∃ literal : Text, line = f.name ++ " = " ++ literal ++ ";" ∧
        DefaultOf (f.declaredType options.boxedPrimitives) literal) d.fields empty.2) :
      Initializes options d [empty]

theorem default_part (f : Field) (boxed : Bool) : ListPart (f.defaultLiteral boxed) := by
  obtain ⟨plain, some⟩ := default_unseparated f boxed
  obtain ⟨first, rest, shape⟩ := List.exists_cons_of_ne_nil some
  have blank := plain (.scalar ' ') (by decide)
  refine ⟨plain _ (by decide), first, by simp [shape], fun same => blank ?_⟩
  simp [shape, same]

theorem constructors_initialize (final : options.finalFields = true) (d : ClassTree)
    (legible : ∀ f ∈ d.fields, LegibleField f) (known : ∀ f ∈ d.fields, TypeKnown f) :
    Initializes options d ((constructors options d.name d.fields).map (methodRead options)) := by
  cases asked : options.fieldConstructor with
  | true =>
    have both : constructors options d.name d.fields =
        [.fullConstructor d.name d.fields, .emptyConstructor d.name d.fields] := by
      simp [constructors, asked, final]
    have arguments : listed (Text.joinWith ", "
        (d.fields.map (·.defaultLiteral options.boxedPrimitives))) =
          d.fields.map (·.defaultLiteral options.boxedPrimitives) :=
      listed_join (List.forall_mem_map.mpr fun f _ => default_part f _)
    have taken : parameters ((Method.fullConstructor d.name d.fields).header options) = _ :=
      full_parameters options d.name legible
    rw [both]
    refine .delegating asked rfl taken rfl rfl (if_pos asked) ?_ ?_
    · change _ = (parameters ((Method.fullConstructor d.name d.fields).header options)).length
      rw [arguments, taken, List.length_map, List.length_map]
    · rw [arguments, List.forall₂_map_right_iff, List.forall₂_same]
      exact fun f member => default_fits (known f member) _
  | false =>
    have alone : constructors options d.name d.fields = [.emptyConstructor d.name d.fields] := by
      simp [constructors, asked, final]
    have body : (Method.emptyConstructor d.name d.fields).body options =
        d.fields.map (·.defaultAssignment options) := by
      simp [Method.body, asked]
    rw [alone]
    refine .assigning asked rfl ?_
    rw [methodRead, body, List.forall₂_map_right_iff, List.forall₂_same]
    exact fun f member => ⟨_, rfl, default_fits (known f member) _⟩

/-! ### Classes -/

/-- What is read of a class with final fields. -/
structure Finalized (options : OutputOptions) (d : ClassTree) (body : Body) : Prop where
  /-- All fields are declared final. -/
  declared : body.declarations.map (fun pair => spaced pair.2) = d.fields.map fun f =>
    [Text.ofString "private", Text.ofString "final", f.declaredType options.boxedPrimitives, f.name ++ ";"]
  /-- All constructors give each field a value. -/
  initialized : Initializes options d body.constructors
  /-- All accessors are getters. -/
  accessed : body.accessors.map (fun method => (methodName method.1, parameters method.1, method.2)) =
    if options.getters then
      d.fields.map fun f =>
        ((("get" ++ f.accessorName) : Text), [], [(("return " ++ f.name ++ ";") : Text)])
    else []
  /-- All lines together assign each field once. -/
  assigned : (classHeader d.name d.depth :: body.ownLines).filterMap assigned? = d.fields.map Field.name

theorem fields_assign {part : Field → Text} (each : ∀ f ∈ fields, assigned? (part f) = some f.name) :
    (fields.map part).filterMap assigned? = fields.map Field.name := by
  induction fields with
  | nil => rfl
  | cons f fields ih =>
    obtain ⟨first, rest⟩ := List.forall_mem_cons.mp each
    rw [List.map_cons, List.filterMap_cons_some first, ih rest, List.map_cons]

theorem constructors_assign (final : options.finalFields = true) (name : Text)
    (legible : ∀ f ∈ fields, LegibleField f) :
    (((constructors options name fields).map (methodRead options)).flatMap
      fun method => method.1 :: method.2).filterMap assigned? = fields.map Field.name := by
  have headers := header_assigns_nothing options
  cases asked : options.fieldConstructor with
  | true =>
    have call : assigned? ("this(" ++ (Text.joinWith ", "
        (fields.map (·.defaultLiteral options.boxedPrimitives)) ++ ");")) = none := by
      simpa [Text.ofString] using delegation_assigns_nothing
        (Text.joinWith ", " (fields.map (·.defaultLiteral options.boxedPrimitives)) ++ ");")
    have assigned := fields_assign fun f member => assignment_assigns (legible f member)
    simp [constructors, asked, final, methodRead, headers, Method.body, call, assigned]
  | false =>
    have each : ∀ f ∈ fields, assigned? (f.defaultAssignment options) = some f.name :=
      fun f member => default_assigns (legible f member)
    have assigned := fields_assign each
    simp [constructors, asked, final, methodRead, headers, Method.body, assigned]

theorem body_finalized (final : options.finalFields = true) (noSetters : options.setters = false)
    (d : ClassTree) (legible : ∀ f ∈ d.fields, LegibleField f) (known : ∀ f ∈ d.fields, TypeKnown f) :
    Finalized options d (bodyRead options d) := by
  have getters : d.fields.flatMap (accessors options) =
      if options.getters then d.fields.map Method.getter else [] := by
    unfold accessors
    cases options.getters <;> simp [noSetters, List.map_eq_flatMap]
  refine ⟨?_, constructors_initialize final d legible known, ?_, ?_⟩
  · rw [bodyRead, List.map_map]
    refine List.map_congr_left fun f member => ?_
    exact (declaration_spaced (legible f member)).trans (by simp [modifiers, final])
  · rw [bodyRead, getters]
    split
    · rw [List.map_map, List.map_map]
      refine List.map_congr_left fun f member => ?_
      obtain ⟨named, takes⟩ := getter_read options (legible f member)
      exact Prod.ext named (Prod.ext takes rfl)
    · rfl
  · have declarations : ((bodyRead options d).declarations.flatMap
        fun pair => [pair.1, pair.2]).filterMap assigned? = [] := by
      refine List.filterMap_eq_nil_iff.mpr fun line listed => ?_
      obtain ⟨pair, member, inside⟩ := List.mem_flatMap.mp listed
      obtain ⟨f, -, rfl⟩ := List.mem_map.mp member
      rcases List.mem_pair.mp inside with rfl | rfl
      · exact key_assigns_nothing f
      · exact final_assigns_nothing final f
    have accessed : ((bodyRead options d).accessors.flatMap
        fun method => method.1 :: method.2).filterMap assigned? = [] := by
      refine List.filterMap_eq_nil_iff.mpr fun line listed => ?_
      obtain ⟨method, member, inside⟩ := List.mem_flatMap.mp listed
      rw [bodyRead, getters] at member
      obtain ⟨m, own, rfl⟩ := List.mem_map.mp member
      obtain ⟨-, getter⟩ := List.mem_ite_nil_right.mp own
      obtain ⟨f, field, rfl⟩ := List.mem_map.mp getter
      rcases List.mem_pair.mp inside with rfl | rfl
      · exact header_assigns_nothing options (.getter f)
      · simpa [Text.ofString] using return_assigns_nothing (legible f field)
    rw [List.filterMap_cons_none (class_header_assigns_nothing d.name d.depth), Body.ownLines,
      List.filterMap_append, declarations, List.flatMap_append, List.filterMap_append, accessed]
    rw [List.append_nil, List.nil_append]
    exact constructors_assign final d.name legible

/-- Options that were accepted with final fields ask for no setters. Each class of a tree is
then read as one block with the classes nested in it, and what is its own declares its
fields final, gives each a value in every constructor, and assigns it nowhere else. The
lines are those of the text, if the root has a legal name. -/
theorem final_fields_assigned (store : Store) (data : Datum) (options : OutputOptions) (name : Text)
    (depth : Int) (sample : Sample) (c : ClassTree)
    (accepted : (OutputOptions.validate store data).outcome = .ok options)
    (final : options.finalFields = true) (ran : (inferClass name depth sample).outcome = .ok c) :
    options.setters = false ∧
      (∀ d ∈ c.walk, ∃ body, ReadAs options d body ∧ Finalized options d body) ∧
      (name.isIdentifier = true → depth = 0 →
        (c.render options).splitAll (.scalar '\n') = c.lines options ++ [[]]) := by
  have noSetters := Flags.setters_give_way accepted final
  refine ⟨noSetters, fun d walked => ⟨bodyRead options d, ?_, ?_⟩, ?_⟩
  · exact inferred_reads options ran d walked
  · have legible := (inferred_legible_inside ran d walked).fields
    exact body_finalized final noSetters d legible (inferred_types_known ran d walked)
  · rintro legal rfl
    rw [render_lines, split_lines (Layout.laid_in_line (Layout.inferred_laid options legal ran))]

/-- Settings that ask for final fields and for setters. -/
def contradictory : Datum := .mapping [
  (.str "setters", .bool true), (.str "final_fields", .bool true), (.str "field_constructor", .bool true)]

/-- A sensor with fields of several types and a class of its own for one of them. -/
def sensor : Sample := .object [
  ("on", .bool true), ("limits", .list [.int 1]), ("level", .int 1),
  ("owner", .object [("name", .str "x")])]

theorem sensor_finalized :
    ∃ options c, (OutputOptions.validate .empty contradictory).outcome = .ok options ∧
      options.finalFields = true ∧ (inferClass "Sensor" 0 sensor).outcome = .ok c ∧
      c.walk.map ClassTree.name = ["Sensor", "Owner"] ∧ options.setters = false ∧
      ∀ d ∈ c.walk, ∃ body, ReadAs options d body ∧ Finalized options d body := by
  obtain ⟨options, accepted, final⟩ : ∃ options,
      (OutputOptions.validate .empty contradictory).outcome = .ok options ∧
        options.finalFields = true := ⟨_, rfl, rfl⟩
  obtain ⟨c, ran, walked⟩ : ∃ c, (inferClass "Sensor" 0 sensor).outcome = .ok c ∧
      c.walk.map ClassTree.name = ["Sensor", "Owner"] := ⟨_, rfl, rfl⟩
  obtain ⟨noSetters, finalized, -⟩ :=
    final_fields_assigned .empty contradictory options "Sensor" 0 sensor c accepted final ran
  exact ⟨options, c, accepted, final, ran, walked, noSetters, finalized⟩

end ClassMold.FinalFields
