import ClassMold.Proofs.Inference.Outlines
import ClassMold.Proofs.Source.Legibility

/-! Which sources can be printed. Names and types that come of keys are free of lone surrogates,
whatever the keys are, so a source only shows such a surrogate where it shows a key: in the
annotation of a field. The literal there keeps it. -/
namespace ClassMold.PrintableSources
open Alphabet Printable Parts Steps Mirroring Legibility Outlines

variable {f : Field} {t name : Text} {depth : Int} {c : ClassTree}
  {members : List (Text × Sample)} {fields : List Field} {nested : List ClassTree} {boxed : Bool}

/-! ### Literals and names -/

/-- A literal shows every surrogate that stands alone. -/
theorem literal_printable_iff : IsPrintable t.literal ↔ IsPrintable t := by
  refine ⟨fun printable c listed => ?_, literal_printable⟩
  cases c with
  | scalar c => rfl
  | surrogate offset =>
    have shown : CodePoint.plainEscape (.surrogate offset) = [.surrogate offset] :=
      StringLiterals.escape_beyond (by rw [CodePoint.val]; omega)
    refine printable _ (List.mem_append_left _ (List.mem_cons_of_mem _ ?_))
    exact List.mem_flatMap.mpr ⟨_, listed, shown ▸ List.mem_singleton_self _⟩

theorem printable_made (printable : IsPrintable t) : Made Clear t := by
  intro c listed
  cases c with
  | scalar c =>
    have number := Encoded.char_number c
    unfold Encoded.IsCharacter at number
    rw [Clear, CodePoint.val]
    omega
  | surrogate offset => cases printable _ listed

theorem capitalized_printable (printable : IsPrintable t) : IsPrintable (capitalized t) :=
  clear_printable (capitalized_made clear_closed (printable_made printable))

/-- A field whose name and type can be printed. -/
structure Named (f : Field) : Prop where
  name : IsPrintable f.name
  type : IsPrintable f.typeName

theorem element_type_printable (named : Named f) : IsPrintable (f.elementType boxed) := by
  rcases element_type_cases f boxed with same | ⟨type, same⟩ <;> rw [same]
  · exact named.type
  · cases type <;> exact printable_string _

theorem declared_type_printable (named : Named f) : IsPrintable (f.declaredType boxed) := by
  rw [declared_type_eq, printable_append]
  refine ⟨element_type_printable named, fun c listed => ?_⟩
  obtain ⟨bracket, inside, held⟩ := List.mem_flatten.mp listed
  rw [List.eq_of_mem_replicate inside] at held
  exact printable_string _ c held

theorem default_printable (f : Field) (boxed : Bool) : IsPrintable (f.defaultLiteral boxed) := by
  unfold Field.defaultLiteral
  split
  · exact printable_string _
  · cases ScalarType.named? f.typeName with
    | none => exact printable_string _
    | some type => cases type <;> exact printable_string _

theorem parameter_printable (options : OutputOptions) (named : Named f) :
    IsPrintable (f.parameter options) := by
  simp [Field.parameter, declared_type_printable named, named.name]

/-! ### Lines -/

theorem key_line_printable_iff : IsPrintable (keyLine f) ↔ IsPrintable f.key := by
  simp [keyLine, literal_printable_iff]

theorem declaration_printable (options : OutputOptions) (named : Named f) :
    IsPrintable (declaration options f) := by
  have type : IsPrintable (f.declaredType options.boxedPrimitives) := declared_type_printable named
  unfold declaration
  cases options.finalFields <;> simp [type, named.name]

/-- A method of fields that have names and types to print. -/
def NamedMethod : Method → Prop
  | .fullConstructor name fields => IsPrintable name ∧ ∀ f ∈ fields, Named f
  | .emptyConstructor name fields => IsPrintable name ∧ ∀ f ∈ fields, Named f
  | .getter f => Named f
  | .setter f => Named f

theorem methods_named (options : OutputOptions) (printable : IsPrintable name)
    (each : ∀ f ∈ fields, Named f) : ∀ m ∈ methods options name fields, NamedMethod m :=
  methods_all ⟨printable, each⟩ ⟨printable, each⟩ each each

theorem header_printable (options : OutputOptions) {m : Method} (named : NamedMethod m) :
    IsPrintable (m.header options) := by
  cases m with
  | fullConstructor name fields =>
    have parameters : IsPrintable (Text.joinWith ", " (fields.map (·.parameter options))) :=
      (printable_join_iff (printable_string _)).mpr
        (List.forall_mem_map.mpr fun f listed => parameter_printable options (named.2 f listed))
    simp [Method.header, named.1, parameters]
  | emptyConstructor name fields => simp [Method.header, named.1]
  | getter f =>
    have named : Named f := named
    simp [Method.header, Field.accessorName, declared_type_printable named, capitalized_printable named.name]
  | setter f =>
    have named : Named f := named
    simp [Method.header, Field.accessorName, parameter_printable options named,
      capitalized_printable named.name]

theorem assignment_printable (named : Named f) : IsPrintable f.assignment := by
  simp [Field.assignment, named.name]

theorem body_printable (options : OutputOptions) {m : Method} (named : NamedMethod m) :
    ∀ line ∈ m.body options, IsPrintable line := by
  cases m with
  | fullConstructor name fields =>
    exact List.forall_mem_map.mpr fun f listed => assignment_printable (named.2 f listed)
  | emptyConstructor name fields =>
    rw [Method.body]
    split
    · have arguments : IsPrintable (Text.joinWith ", "
          (fields.map (·.defaultLiteral options.boxedPrimitives))) :=
        (printable_join_iff (printable_string _)).mpr
          (List.forall_mem_map.mpr fun f _ => default_printable f options.boxedPrimitives)
      simp [arguments]
    · refine List.forall_mem_map.mpr fun f listed => ?_
      simp [Field.defaultAssignment, (named.2 f listed).name, default_printable]
  | getter f =>
    have named : Named f := named
    simp [Method.body, named.name]
  | setter f => exact List.forall_mem_singleton.mpr (assignment_printable named)

@[simp] theorem printable_indentation (depth : Int) : IsPrintable (indentation depth) :=
  printable_replicate _ _

theorem method_printable (options : OutputOptions) {m : Method} (named : NamedMethod m) (depth : Int) :
    ∀ line ∈ m.lines options (indentation depth), IsPrintable line := by
  have header := header_printable options named
  have body : ∀ line ∈ m.body options, IsPrintable (indentation depth ++ "\t" ++ line) := by
    intro line listed
    simp [body_printable options named line listed]
  simp only [Method.lines, bracedLines, List.forall_mem_append, List.forall_mem_cons, List.forall_mem_map,
    printable_append (t := indentation depth), printable_indentation, printable_nil, header, true_and]
  exact ⟨⟨⟨printable_string _, List.forall_mem_nil _⟩, body⟩, printable_string _, List.forall_mem_nil _⟩

theorem declaration_lines_printable_iff (options : OutputOptions) (named : Named f) (depth : Int) :
    (∀ line ∈ f.declarationLines (indentation depth) options, IsPrintable line) ↔ IsPrintable f.key := by
  simp [declaration_lines, key_line_printable_iff, declaration_printable options named]

theorem class_header_printable (printable : IsPrintable name) (depth : Int) :
    IsPrintable (classHeader name depth) := by
  unfold classHeader
  split <;> simp [printable]

/-! ### Classes -/

/-- A class whose names can all be printed. -/
structure NamedClass (c : ClassTree) : Prop where
  name : IsPrintable c.name
  fields : ∀ f ∈ c.fields, Named f

/-- The keys of all fields of a class can be printed. -/
def KeysPrintable (c : ClassTree) : Prop := ∀ f ∈ c.fields, IsPrintable f.key

theorem class_printable_iff (options : OutputOptions) (named : NamedClass (.node name depth fields nested)) :
    (∀ line ∈ (ClassTree.node name depth fields nested).lines options, IsPrintable line) ↔
      KeysPrintable (.node name depth fields nested) ∧
        ∀ line ∈ ClassTree.nestedLines options nested, IsPrintable line := by
  have header : IsPrintable (classHeader name depth) := class_header_printable named.name depth
  have open_ : IsPrintable openBrace := printable_string _
  have close : IsPrintable closeBrace := printable_string _
  have methods : ∀ m ∈ methods options name fields,
      ∀ line ∈ m.lines options (indentation (depth + 1)), IsPrintable line := fun m listed =>
    method_printable options (methods_named options named.name named.fields m listed) (depth + 1)
  have declarations : (∀ f ∈ fields, ∀ line ∈ f.declarationLines (indentation (depth + 1)) options,
      IsPrintable line) ↔ KeysPrintable (.node name depth fields nested) :=
    forall₂_congr fun f listed => declaration_lines_printable_iff options (named.fields f listed) (depth + 1)
  rw [class_lines, ← declarations]
  simp only [List.forall_mem_cons, List.forall_mem_append, List.forall_mem_flatMap,
    printable_append (t := indentation depth), printable_indentation, header, open_, close, true_and,
    List.not_mem_nil, false_imp_iff, implies_true, and_true]
  exact ⟨fun ⟨⟨own, _⟩, below⟩ => ⟨own, below⟩, fun ⟨own, below⟩ => ⟨⟨own, methods⟩, below⟩⟩

/-- The lines of a class whose names can be printed can be printed if the keys in it can. -/
theorem lines_printable_iff (options : OutputOptions) (c : ClassTree) (named : ∀ d ∈ c.walk, NamedClass d) :
    (∀ line ∈ c.lines options, IsPrintable line) ↔ ∀ d ∈ c.walk, KeysPrintable d := by
  refine (ClassTree.walk.mutual_induct
    (fun c => (∀ d ∈ c.walk, NamedClass d) →
      ((∀ line ∈ c.lines options, IsPrintable line) ↔ ∀ d ∈ c.walk, KeysPrintable d))
    (fun cs => (∀ d ∈ ClassTree.walkAll cs, NamedClass d) →
      ((∀ line ∈ ClassTree.nestedLines options cs, IsPrintable line) ↔
        ∀ d ∈ ClassTree.walkAll cs, KeysPrintable d)) ?_ ?_ ?_).1 c named
  · intro name depth fields nested ih named
    rw [ClassTree.walk, List.forall_mem_cons] at named
    rw [class_printable_iff options named.1, ClassTree.walk, List.forall_mem_cons, ih named.2]
  · intro _
    simp [ClassTree.nestedLines, ClassTree.walkAll]
  · intro c rest ih ihRest named
    rw [ClassTree.walkAll, List.forall_mem_append] at named
    rw [ClassTree.nestedLines, ClassTree.walkAll, List.forall_mem_append, List.forall_mem_append,
      List.forall_mem_cons, ih named.1, ihRest named.2]
    simp

/-! ### Inferred trees -/

/-- What a class owes to printing, its own name apart. -/
structure NamedInside (c : ClassTree) : Prop where
  fields : ∀ f ∈ c.fields, Named f
  names : ∀ inner ∈ c.nested, IsPrintable inner.name

theorem built_named (name : Text) (built : Built depth members fields nested) :
    NamedInside (.node name depth fields nested) := by
  induction built with
  | nil => exact ⟨nofun, nofun⟩
  | @plain key type value _ _ _ plain fixed rest ih =>
    have named : Named (memberField key value type) := ⟨field_name_printable key _, fixed_printable fixed⟩
    exact ⟨List.forall_mem_cons.mpr ⟨named, ih.fields⟩, ih.names⟩
  | @classed key value inner members fields c nested classed ran rest ih =>
    have type := element_name_printable key value
    have named : Named (classField key value) := ⟨field_name_printable key _, type⟩
    exact ⟨List.forall_mem_cons.mpr ⟨named, ih.fields⟩,
      List.forall_mem_cons.mpr ⟨(class_name_depth ran).1 ▸ type, ih.names⟩⟩

theorem inferred_named {sample : Sample} (printable : IsPrintable name)
    (ran : (inferClass name depth sample).outcome = .ok c) : ∀ d ∈ c.walk, NamedClass d := by
  have inside : ∀ d ∈ c.walk, NamedInside d :=
    every_walked NamedInside (fun name _ _ _ _ built => built_named name built) ran
  have names : ∀ d ∈ c.walk, IsPrintable d.name := by
    refine walk_inherits ((class_name_depth ran).1 ▸ printable) fun d walked _ inner nested => ?_
    exact (inside d walked).names inner nested
  exact fun d walked => ⟨names d walked, (inside d walked).fields⟩

/-- The source of an inferred tree can be printed exactly if the keys of all its fields can. -/
theorem source_printable_iff {sample : Sample} (options : OutputOptions) (printable : IsPrintable name)
    (ran : (inferClass name depth sample).outcome = .ok c) :
    IsPrintable (c.renderFile options) ↔ ∀ d ∈ c.walk, KeysPrintable d := by
  rw [← lines_printable_iff options c (inferred_named printable ran), ClassTree.renderFile, ClassTree.render]
  simp [printable_join_iff]

end ClassMold.PrintableSources
