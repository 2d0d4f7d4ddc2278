import ClassMold.Proofs.Source.FinalFields

/-! The constructors of a class, told apart by the types that they take. A class has up to
two: one with a parameter for each field, and one without parameters that calls it. If
there are no fields, the two are the same constructor declared twice, and the second one
calls itself; with a field for them to differ in, neither happens. -/
namespace ClassMold.ConstructorSignatures
open Alphabet Steps Mirroring Parts Legibility Members Signatures FinalFields

/-! ### Readers -/

/-- The types of the parameters of a method: the words before their names. -/
def parameterTypes (header : Text) : List Text :=
  (parameters header).filterMap fun words => words.dropLast.getLast?

/-- Whether a header is one of a constructor: nothing stands between its modifier and the name
of the class. -/
def constructs (name header : Text) : Bool := Text.startsWith header ("public " ++ name ++ "(")

/-- The arguments that a line hands to a constructor of the same class. -/
def delegated? (line : Text) : Option (List Text) :=
  if Text.startsWith line "this(" then some (listed (bracketed line.dropLast)) else none

/-- A constructor that hands on as many arguments as it takes. -/
def CallsItself (method : Text × List Text) : Prop :=
  ∃ line ∈ method.2, ∃ arguments ∈ delegated? line, arguments.length = (parameterTypes method.1).length

/-- Both constructors are asked for, and there is no field for them to differ in. -/
def Meet (options : OutputOptions) {α : Type} (members : List α) : Prop :=
  options.fieldConstructor = true ∧ options.finalFields = true ∧ members = []

variable {options : OutputOptions} {name : Text} {f : Field} {fields : List Field} {d : ClassTree}

/-! ### Headers -/

theorem full_types (options : OutputOptions) (name : Text) (legible : ∀ f ∈ fields, LegibleField f) :
    parameterTypes ((Method.fullConstructor name fields).header options) =
      fields.map (·.declaredType options.boxedPrimitives) := by
  rw [parameterTypes, full_parameters options name legible, List.filterMap_map]
  exact congrFun List.filterMap_eq_map' fields

theorem empty_types (options : OutputOptions) (name : Text) (fields : List Field) :
    parameterTypes ((Method.emptyConstructor name fields).header options) = [] := by
  rw [parameterTypes, empty_parameters, List.filterMap_nil]

theorem constructor_constructs {m : Method} (own : m ∈ constructors options name fields) :
    constructs name (m.header options) = true := by
  refine List.isPrefixOf_iff_prefix.mpr ?_
  simp only [constructors, List.mem_append, List.mem_ite_nil_right, List.mem_singleton] at own
  obtain ⟨-, rfl⟩ | ⟨-, rfl⟩ := own
  · exact ⟨Text.joinWith ", " (fields.map (·.parameter options)) ++ ")", by simp [Method.header]⟩
  · exact ⟨")", by simp [Method.header, Text.ofString]⟩

/-- Between the modifier of an accessor and its name stands a type. -/
theorem accessor_constructs_nothing {m : Method} (word : IsWord name) (own : m ∈ accessors options f) :
    constructs name (m.header options) = false := by
  have typed : ∃ rest, m.header options =
      Text.ofString "public " ++ (Text.ofString "final" ++ .scalar ' ' :: rest) := by
    simp only [accessors, List.mem_append, List.mem_ite_nil_right, List.mem_singleton] at own
    obtain ⟨-, rfl⟩ | ⟨-, rfl⟩ := own
    · exact ⟨f.declaredType options.boxedPrimitives ++ " get" ++ f.accessorName ++ "()",
        by simp [Method.header, Text.ofString]⟩
    · exact ⟨"void set" ++ f.accessorName ++ "(" ++ f.parameter options ++ ")",
        by simp [Method.header, Text.ofString]⟩
  obtain ⟨rest, header⟩ := typed
  refine Bool.eq_false_iff.mpr fun starts => ?_
  obtain ⟨tail, whole⟩ := List.isPrefixOf_iff_prefix.mp starts
  rw [header, List.append_assoc, List.append_assoc, List.append_cancel_left_eq] at whole
  obtain ⟨-, bracket, -⟩ := word_ends word (by decide) (by decide) (by decide) whole
  cases bracket

/-! ### Delegations -/

/-- The arguments of a call are read back. -/
theorem delegation_read (options : OutputOptions) (fields : List Field) :
    delegated? ("this(" ++ Text.joinWith ", " (fields.map (·.defaultLiteral options.boxedPrimitives)) ++
      ");") = some (fields.map (·.defaultLiteral options.boxedPrimitives)) := by
  set arguments := Text.joinWith ", " (fields.map (·.defaultLiteral options.boxedPrimitives)) with joined
  have plain : .scalar '(' ∉ arguments := by
    refine fun inside => join_all (P := (· ≠ .scalar '(')) (by decide) ?_ _ inside rfl
    refine List.forall_mem_map.mpr fun f _ c held same => ?_
    exact (default_unseparated f options.boxedPrimitives).1 (.scalar '(') (by decide) (same ▸ held)
  have whole : ("this(" ++ arguments ++ ");" : Text).dropLast =
      Text.ofString "this" ++ .scalar '(' :: (arguments ++ [.scalar ')']) := by
    have shape : ("this(" ++ arguments ++ ");" : Text) =
        (Text.ofString "this" ++ .scalar '(' :: (arguments ++ [.scalar ')'])) ++ [.scalar ';'] := by
      simp [Text.ofString]
    rw [shape, List.dropLast_concat]
  have starts : Text.startsWith ("this(" ++ arguments ++ ");") "this(" = true :=
    List.isPrefixOf_iff_prefix.mpr ⟨arguments ++ ");", by simp⟩
  rw [delegated?, if_pos starts, whole, bracketed_eq _ plain, joined,
    listed_join (List.forall_mem_map.mpr fun f _ => default_part f _)]

/-- A line calls nothing if no bracket comes behind its first word. -/
theorem word_delegates_nothing {mark : CodePoint} {rest : Text} (word : IsWord name) (ends : ¬ IsWordPart mark)
    (other : mark ≠ .scalar '(') : delegated? (name ++ mark :: rest) = none := by
  refine if_neg fun starts => ?_
  obtain ⟨tail, whole⟩ := List.isPrefixOf_iff_prefix.mp starts
  have call : Text.ofString "this(" = Text.ofString "this" ++ [.scalar '('] := by decide
  rw [call, List.append_assoc, List.singleton_append] at whole
  obtain ⟨-, bracket, -⟩ := word_ends (by decide) word (by decide) ends whole
  exact other bracket.symm

theorem assignment_delegates_nothing (f : Field) : delegated? f.assignment = none := by
  have shape : f.assignment =
      Text.ofString "this" ++ .scalar '.' :: (f.name ++ Text.ofString " = " ++ f.name ++ [.scalar ';']) := by
    simp [Field.assignment, Text.ofString]
  rw [shape]
  exact word_delegates_nothing (by decide) (by decide) (by decide)

theorem default_delegates_nothing (options : OutputOptions) (legible : LegibleField f) :
    delegated? (f.defaultAssignment options) = none := by
  have shape : f.defaultAssignment options = f.name ++ .scalar ' ' ::
      (Text.ofString "= " ++ f.defaultLiteral options.boxedPrimitives ++ [.scalar ';']) := by
    simp [Field.defaultAssignment, Text.ofString]
  rw [shape]
  exact word_delegates_nothing legible.name (by decide) (by decide)

/-! ### Classes -/

/-- The constructors are told apart by their types unless both are asked for without a field. -/
theorem types_apart_iff (options : OutputOptions) (name : Text) (legible : ∀ f ∈ fields, LegibleField f) :
    ((constructors options name fields).map fun m => parameterTypes (m.header options)).Nodup ↔
      ¬ Meet options fields := by
  unfold constructors Meet
  cases options.fieldConstructor <;> cases options.finalFields <;>
    simp [full_types options name legible, empty_types]

theorem full_calls_nothing (options : OutputOptions) (name : Text) (fields : List Field) :
    ¬ CallsItself (methodRead options (.fullConstructor name fields)) := by
  rintro ⟨line, inside, arguments, calls, -⟩
  obtain ⟨f, -, rfl⟩ := List.mem_map.mp inside
  rw [assignment_delegates_nothing f] at calls
  cases calls

/-- The constructor without parameters calls one with as many parameters as the class has fields. -/
theorem empty_calls_itself_iff (options : OutputOptions) (name : Text)
    (legible : ∀ f ∈ fields, LegibleField f) :
    CallsItself (methodRead options (.emptyConstructor name fields)) ↔
      options.fieldConstructor = true ∧ fields = [] := by
  unfold CallsItself
  rw [methodRead, empty_types]
  cases asked : options.fieldConstructor with
  | true =>
    have body : (Method.emptyConstructor name fields).body options = _ := if_pos asked
    rw [body]
    simp only [List.mem_singleton, exists_eq_left, delegation_read, Option.mem_some_iff]
    simp
  | false =>
    have body : (Method.emptyConstructor name fields).body options = _ :=
      if_neg (Bool.eq_false_iff.mp asked)
    refine iff_of_false ?_ (by simp)
    rintro ⟨line, inside, arguments, calls, -⟩
    rw [body] at inside
    obtain ⟨f, member, rfl⟩ := List.mem_map.mp inside
    rw [default_delegates_nothing options (legible f member)] at calls
    cases calls

theorem calls_itself_iff (options : OutputOptions) (name : Text) (legible : ∀ f ∈ fields, LegibleField f) :
    (∃ method ∈ (constructors options name fields).map (methodRead options), CallsItself method) ↔
      Meet options fields := by
  have full := full_calls_nothing options name fields
  have empty := empty_calls_itself_iff options name legible
  unfold constructors Meet
  cases asked : options.fieldConstructor <;> cases final : options.finalFields <;>
    simp [full, empty, asked]

/-- The constructors of a class are its methods that bear its name and nothing else. -/
theorem constructors_named (options : OutputOptions) (word : IsWord d.name) :
    ((bodyRead options d).constructors ++ (bodyRead options d).accessors).filter
      (fun method => constructs d.name method.1) = (bodyRead options d).constructors := by
  rw [List.filter_append]
  have all : ∀ method ∈ (bodyRead options d).constructors, constructs d.name method.1 = true :=
    List.forall_mem_map.mpr fun m own => constructor_constructs own
  have none : ∀ method ∈ (bodyRead options d).accessors, ¬ constructs d.name method.1 = true := by
    refine List.forall_mem_map.mpr fun m own => Bool.eq_false_iff.mp ?_
    obtain ⟨f, -, accessor⟩ := List.mem_flatMap.mp own
    exact accessor_constructs_nothing word accessor
  rw [List.filter_eq_self.mpr all, List.filter_eq_nil_iff.mpr none, List.append_nil]

/-! ### Trees -/

/-- What the constructors of a class have to do with the members of its object. -/
structure ConstructorsTold (options : OutputOptions) (d : ClassTree) (members : List (Text × Sample)) : Prop where
  /-- The class can be read. -/
  read : ∃ body, ReadAs options d body
  /-- No two constructors take the same types, unless both are asked for and there is no member. -/
  apart : ∀ body, ReadAs options d body →
    ((body.constructors.map fun method => parameterTypes method.1).Nodup ↔ ¬ Meet options members)
  /-- Then, and only then, one of them calls itself. -/
  calls : ∀ body, ReadAs options d body →
    ((∃ method ∈ body.constructors, CallsItself method) ↔ Meet options members)

/-- Each class of a tree declares its constructors apart and has none that calls itself, except
where both are asked for and the class comes of an object without members: there the two
take the same types and one of them calls itself. If the root has a legal name, the lines are
those of the text, and the constructors are the methods that bear the name of their class. -/
theorem constructors_apart_iff (options : OutputOptions) (name : Text) (depth : Int) (sample : Sample)
    (c : ClassTree) (ran : (inferClass name depth sample).outcome = .ok c) :
    List.Forall₂ (ConstructorsTold options) c.walk sample.objects ∧
      (name.isIdentifier = true → depth = 0 →
        (c.render options).splitAll (.scalar '\n') = c.lines options ++ [[]] ∧
        ∀ d ∈ c.walk, ∀ body, ReadAs options d body →
          (body.constructors ++ body.accessors).filter (fun method => constructs d.name method.1) =
            body.constructors) := by
  have reads := inferred_reads options ran
  constructor
  · have mirrored := every_class Mirrors (fun name _ _ _ _ built => built_mirrors name built) ran
    have legible : ∀ d ∈ c.walk, ReadAs options d (bodyRead options d) ∧ LegibleInside d :=
      fun d walked => ⟨reads d walked, inferred_legible_inside ran d walked⟩
    refine ((List.forall₂_and_left _ _).mpr ⟨legible, mirrored⟩).imp fun d members both => ?_
    obtain ⟨⟨read, inside⟩, mirrors⟩ := both
    have meet : Meet options d.fields ↔ Meet options members := by
      have lengths := congrArg List.length mirrors.keys
      simp only [List.length_map] at lengths
      simp [Meet, ← List.length_eq_zero_iff, lengths]
    refine ⟨⟨_, read⟩, fun body reads => ?_, fun body reads => ?_⟩
    · rw [read_unique reads read, ← meet, ← types_apart_iff options d.name inside.fields, bodyRead,
        List.map_map]
      rfl
    · rw [read_unique reads read, ← meet]
      exact calls_itself_iff options d.name inside.fields
  · rintro legal rfl
    refine ⟨?_, fun d walked body read => ?_⟩
    · rw [render_lines, split_lines (Layout.laid_in_line (Layout.inferred_laid options legal ran))]
    · have word := (inferred_legible (identifier_word legal) (Int.le_refl 0) ran d walked).name
      rw [read_unique read (reads d walked)]
      exact constructors_named options word

/-- Settings that ask for both constructors. -/
def bothConstructors : OutputOptions := { finalFields := true, fieldConstructor := true }

/-- A record with a number and an object without members. -/
def tagged : Sample := .object [("id", .int 1), ("meta", .object [])]

theorem tagged_constructors_told :
    ∃ c, (inferClass "Tagged" 0 tagged).outcome = .ok c ∧ c.walk.map ClassTree.name = ["Tagged", "Meta"] ∧
      (∀ body, ReadAs bothConstructors c body →
        (body.constructors.map fun method => parameterTypes method.1).Nodup ∧
          ¬ ∃ method ∈ body.constructors, CallsItself method) ∧
      ∀ inner ∈ c.nested, ∃ body, ReadAs bothConstructors inner body ∧
        ∃ method ∈ body.constructors, CallsItself method := by
  obtain ⟨c, inner, ran, walked, below, named⟩ : ∃ c inner, (inferClass "Tagged" 0 tagged).outcome = .ok c ∧
      c.walk = [c, inner] ∧ c.nested = [inner] ∧ c.walk.map ClassTree.name = ["Tagged", "Meta"] :=
    ⟨_, _, rfl, rfl, rfl, rfl⟩
  obtain ⟨told, -⟩ := constructors_apart_iff bothConstructors "Tagged" 0 tagged c ran
  rw [walked] at told
  cases told with
  | cons outer rest =>
    cases rest with
    | cons empty _ =>
      have apart : ¬ Meet bothConstructors [(Text.ofString "id", Sample.int 1), ("meta", .object [])] :=
        fun meet => List.cons_ne_nil _ _ meet.2.2
      refine ⟨c, ran, named, fun body read => ⟨(outer.apart body read).mpr apart, ?_⟩, ?_⟩
      · exact fun calls => apart ((outer.calls body read).mp calls)
      · rw [below, List.forall_mem_singleton]
        obtain ⟨body, read⟩ := empty.read
        exact ⟨body, read, (empty.calls body read).mpr ⟨rfl, rfl, rfl⟩⟩

/-- The constructors of a class without fields, each with its body. -/
def twiceDeclared : List (Text × List Text) := [("public Root()", []), ("public Root()", ["this();"])]

/-- A class without fields declares its constructor twice, and the second one calls itself. -/
theorem empty_class_calls_itself :
    (OutputOptions.validate .empty (.mapping [(.str "final_fields", .bool true),
      (.str "field_constructor", .bool true)])).outcome = .ok bothConstructors ∧
    ∃ c, (inferClass "Root" 0 (.object [])).outcome = .ok c ∧
      c.render bothConstructors = "public final class Root\n\x7b\n\n" ++
        "\tpublic Root()\n\t\x7b\n\t\x7d\n\n\tpublic Root()\n\t\x7b\n\t\tthis();\n\t\x7d\n\x7d\n" ∧
      ∃ body, ReadAs bothConstructors c body ∧ body.constructors = twiceDeclared ∧
        ¬ (body.constructors.map fun method => parameterTypes method.1).Nodup ∧
        ∃ method ∈ body.constructors, CallsItself method := by
  obtain ⟨c, ran, rendered, walked, constructors⟩ : ∃ c,
      (inferClass "Root" 0 (.object [])).outcome = .ok c ∧
      c.render bothConstructors = "public final class Root\n\x7b\n\n" ++
        "\tpublic Root()\n\t\x7b\n\t\x7d\n\n\tpublic Root()\n\t\x7b\n\t\tthis();\n\t\x7d\n\x7d\n" ∧
      c ∈ c.walk ∧ (bodyRead bothConstructors c).constructors = twiceDeclared :=
    ⟨_, rfl, by decide +kernel, List.mem_singleton_self _, by decide +kernel⟩
  refine ⟨rfl, c, ran, rendered, _, inferred_reads bothConstructors ran c walked, constructors, ?_, ?_⟩
  · rw [constructors]
    decide +kernel
  · rw [constructors]
    exact ⟨_, List.mem_cons_of_mem _ List.mem_cons_self, _, List.mem_cons_self, [], by decide +kernel,
      by decide +kernel⟩

end ClassMold.ConstructorSignatures
